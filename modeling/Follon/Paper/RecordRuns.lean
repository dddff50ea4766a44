import Follon.Paper.Ibkr
import Follon.Paper.OperationChanges

/-!
# Runs of the record

What a run does to the record alone: the edits, observations and replacements
it is made of, whatever the broker and the journal did in between.
-/

namespace Follon.Paper

open Foundation Domain ControlPlane Accounting

/-! ## Steps of the record -/

inductive RecordStep (may : Allowance) (s : ServiceRecord) :
    ServiceRecord → Prop
  | edited {prepared : Option BrokerCommand} {r : ServiceRecord}
      (h : Edit may s prepared r) : RecordStep may s r
  | observed {r : ServiceRecord} (h : Observed s r) : RecordStep may s r
  | replacing {request : BrokerReplaceRequest} {r : ServiceRecord}
      (h : Replacing s request r) : RecordStep may s r

def startRecord (config : Configuration) (killSwitches : KillSwitchRegistry) :
    ServiceRecord where
  toConfiguration := config
  toBooks := PaperTradingService.emptyBooks config.account.initialCash
  marks := ∅
  peakEquity := config.account.initialCash
  dailyBaselineDate := none
  dailyBaselineEquity := Decimal.zero
  riskEvidence := ∅
  comboRiskEvidence := ∅
  killSwitches := killSwitches
  killSwitchOperations := []
  orderOperations := []
  corporateActions := []
  incidents := ∅
  lastReconciledAt := none
  lastReconciliationClean := none
  latestReconciliation := none
  paperDays := ∅
  nextReconciliation := 1

inductive StartRecord : ServiceRecord → Prop
  | mk {config : Configuration} {killSwitches : KillSwitchRegistry}
      (haccount : config.account.validate = .ok ())
      (hpolicy : config.riskPolicy.validate = .ok ())
      (hswitches : PaperTradingService.Switches killSwitches) :
      StartRecord (startRecord config killSwitches)

abbrev ReachableRecord (may : Allowance) : ServiceRecord → Prop :=
  Reachable StartRecord (RecordStep may)

namespace PaperTradingService

variable {B : Type} [ContentHash] {may : Allowance}

variable {s t : PaperTradingService B}

theorem Change.record (h : Change may s t) :
    Runs (RecordStep may) s.toServiceRecord t.toServiceRecord := by
  cases h with
  | brokerMoved broker => exact .refl
  | session connected => exact .refl
  | observed h => exact .single (.observed h)
  | resaved hhealthy =>
    rw [persist_record]
  | saved hhealthy h =>
    rw [persist_record]
    exact .single (.edited h)
  | @announced saved sent r broker hhealthy h hsaved =>
    have hrecord : (saved.announce sent broker).toServiceRecord = r :=
      (persist_ok hsaved).1
    rw [hrecord]
    exact .single (.edited h)
  | replaced broker hhealthy h =>
    rw [persist_record]
    exact .single (.replacing h)
  | replaceLost broker hhealthy h hlost =>
    rw [persist_record]
    exact .tail (.single (.replacing h)) (.edited hlost)

theorem Changes.record (h : Changes may s t) :
    Runs (RecordStep may) s.toServiceRecord t.toServiceRecord := by
  induction h with
  | refl => exact .refl
  | tail _ hchange ih => exact ih.trans hchange.record

/-! ## Reachable services -/

variable [PaperBrokerAdapter B]

omit [ContentHash] in
theorem Constructed.record (h : Constructed s) : StartRecord s.toServiceRecord := by
  obtain ⟨account, riskPolicy, killSwitches, broker, hswitches, hnew⟩ := h
  simp only [new, bind_eq_ok, pure_eq_ok] at hnew
  obtain ⟨_, haccount, _, hpolicy, route, -, rfl⟩ := hnew
  exact @StartRecord.mk ⟨account, riskPolicy, route⟩ killSwitches haccount
    hpolicy hswitches

def Started (s : PaperTradingService B) : Prop :=
  ∃ constructed : PaperTradingService B, Constructed constructed ∧
    s.toServiceRecord = constructed.toServiceRecord

theorem reachable_allowed (hs : Reachable Started (AllowedStep may) s) :
    ReachableRecord may s.toServiceRecord := by
  induction hs with
  | init h =>
    obtain ⟨constructed, hconstructed, hrecord⟩ := h
    rw [hrecord]
    exact .init hconstructed.record
  | step _ hstep ih =>
    exact hstep.changes.record.keeps (fun _ _ h hst => h.step hst) ih

theorem reachable_record (hs : Reachable Started Step s)
    : ReachableRecord .all s.toServiceRecord :=
  reachable_allowed (hs.mono fun _ _ => Step.allowed)

end PaperTradingService

/-! ## A session with the model broker -/

namespace Session

def amount (scaled : Int) : Decimal := (Decimal.ofScaled? scaled).getD Decimal.zero

def account : PaperAccount := ⟨"acct-1", "USD", amount 100000000000000, "PAPER"⟩

def increments (scaled : Int) : OrderedMap String Decimal :=
  (∅ : OrderedMap String Decimal).insert "aapl" (amount scaled)

def policy : PaperRiskPolicy where
  version := "policy-1"
  tradingCalendarId := "xnys"
  maxOrderQuantity := amount 100000000000
  maxOrderNotional := amount 10000000000000
  maxPriceDeviationBps := amount 50000000000
  maxOpenOrders := 10
  maxPositionQuantity := amount 100000000000
  maxRealizedLoss := amount 100000000000
  maxMarketDataAgeSeconds := 60
  maxOrderRate := 10
  orderRateWindowSeconds := 60
  portfolioRisk := none
  shortExposure := none
  instrumentTickSizes := increments 1000000
  instrumentLotSizes := increments 100000000

def configuration : Configuration := ⟨account, policy, ""⟩

def killSwitches : KillSwitchRegistry := ⟨"switches-1", ∅⟩

def broker : IbkrPaperAdapter :=
  ⟨account.accountId, true, 1, 1, ∅, ∅, ∅, account.initialCash, []⟩

def start : PaperTradingService IbkrPaperAdapter where
  toServiceRecord := startRecord configuration killSwitches
  broker := broker
  brokerConnected := true
  persistenceHealthy := true
  journal := none
  effects := []

def intent : OrderIntent where
  intentId := "intent-1"
  accountId := "acct-1"
  strategyId := "strategy-1"
  instrumentId := "aapl"
  correlationId := "correlation-1"
  side := .buy
  quantity := amount 1000000000
  orderType := .limit
  limitPrice := some (amount 10000000000)
  timeInForce := .day
  rationale := "entry"
  createdAt := "2026-01-05T15:00:00Z"
  strategyVersion := "1"
  configurationVersion := "1"
  environment := "PAPER"

def market : PaperMarketData := ⟨"aapl", amount 10000000000, "2026-01-05T15:00:00Z"⟩

def decidedAt : String := "2026-01-05T15:00:00Z"

@[reducible] def contentHash : ContentHash :=
  ⟨fun _ =>
    "b28709d3970f500b5bc52bfb71de46b2c6a287f8d50c6eb7af8042172c00b388"⟩

attribute [local instance] contentHash

inductive Move where
  | operate (operation : Operation)
  | fill (orderId : String) (quantity price fee : Decimal)

def play (s : PaperTradingService IbkrPaperAdapter) :
    Move → PaperTradingService IbkrPaperAdapter
  | .operate operation => (PaperTradingService.execute operation).final s
  | .fill orderId quantity price fee =>
    s.setBroker ((IbkrPaperAdapter.queueFill orderId quantity price fee
      decidedAt).final s.broker)

theorem start_constructed : PaperTradingService.Constructed start := by
  have haccount : account.validate = .ok () := by decide
  have hpolicy : policy.validate = .ok () := by decide
  refine ⟨account, policy, killSwitches, broker, ?_, ?_⟩
  · exact @PaperTradingService.Switches.new "switches-1" killSwitches
      (by decide)
  · simp only [PaperTradingService.new, haccount, hpolicy]
    rfl

theorem start_started : PaperTradingService.Started start :=
  ⟨start, start_constructed, rfl⟩

theorem play_step (s : PaperTradingService IbkrPaperAdapter) (move : Move) :
    PaperTradingService.Step s (play s move) := by
  cases move with
  | operate operation => exact .operate s operation
  | fill orderId quantity price fee => exact .brokerMoved s _

theorem plays_reachable {s : PaperTradingService IbkrPaperAdapter}
    (hs : Reachable PaperTradingService.Started PaperTradingService.Step s)
    (moves : List Move) : Reachable PaperTradingService.Started PaperTradingService.Step
      (moves.foldl play s) := by
  induction moves generalizing s with
  | nil => exact hs
  | cons move moves ih => exact ih (hs.step (play_step s move))

theorem reachable_plays (moves : List Move) :
    Reachable PaperTradingService.Started PaperTradingService.Step
      (moves.foldl play start) :=
  plays_reachable (.init start_started) moves

def submission : Move := .operate (.submitIntent intent market decidedAt none)

def partialFill : Move :=
  .fill "order-intent-1" (amount 400000000) (amount 9900000000) (amount 0)

def filledPosition : List Move :=
  [submission,
    .fill "order-intent-1" (amount 1000000000) (amount 10000000000) (amount 0),
    .operate .synchronize]

end Session

end Follon.Paper
