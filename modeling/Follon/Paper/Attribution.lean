import Follon.Foundation.MapTotals
import Follon.Paper.Lockstep

/-!
# Strategy attribution

Every fill moves the position and the share of its strategy by the same amount.
A split scales and rounds each share by itself, so the shares keep adding up to
the position exactly when the roundings add up too.
-/

namespace Follon.Paper

open Foundation Domain ControlPlane Accounting

/-! ## Shares -/

namespace Books

def shares (books : Books) (instrumentId : String) : OrderedMap String Decimal :=
  books.strategyAttribution[instrumentId]?.getD ∅

/-- The scaled quantity the strategies account for. -/
def attributed (books : Books) (instrumentId : String) : Int :=
  (books.shares instrumentId).total Decimal.scaled

variable {strategies : OrderedMap String Decimal}

theorem shares_insert {books books' : Books} {instrumentId : String}
    (h : books'.strategyAttribution
      = books.strategyAttribution.insert instrumentId strategies) (other : String) :
    books'.shares other
      = if instrumentId = other then strategies else books.shares other := by
  simp only [shares, h, getElem?_insert, Std.LawfulEqCmp.compare_eq_iff_eq]
  by_cases hsame : instrumentId = other <;> simp [hsame]

theorem contribution_scaled {fill : Fill} {strategyId : String} {updated : Decimal}
    (h : contribution strategies fill strategyId = .ok updated) : updated.scaled
      = (strategies[strategyId]?.elim 0 Decimal.scaled) + signedFill fill := by
  have hcurrent : (strategies[strategyId]?.getD Decimal.zero).scaled
      = strategies[strategyId]?.elim 0 Decimal.scaled := by
    cases strategies[strategyId]? <;> simp
  unfold contribution at h
  unfold signedFill
  cases hside : fill.side with
  | buy =>
    simp only [hside, checkedAdd_eq_ok, hcurrent] at h
    exact h
  | sell =>
    simp only [hside, checkedSub_eq_ok, hcurrent] at h
    simp only [h]
    omega

end Books

/-! ## Splits -/

/-- The remainders rounding takes from the scaled shares add up to the
remainder it takes from their sum. -/
def RoundsEvenly (shares : OrderedMap String Decimal) (ratio : Decimal) : Prop :=
  shares.total (fun share => (share.scaled * ratio.scaled).tmod Decimal.scale)
    = (shares.total Decimal.scaled * ratio.scaled).tmod Decimal.scale

theorem total_mul (shares : OrderedMap String Decimal) (k : Int) :
    shares.total (fun share => share.scaled * k)
      = shares.total Decimal.scaled * k := by
  simp only [OrderedMap.total]
  induction shares.values with
  | nil => simp
  | cons share shares ih =>
    simp only [map_cons, sum_cons, ih, Int.add_mul]

theorem total_tdiv (shares : OrderedMap String Decimal) (k n : Int) :
    shares.total (fun share => share.scaled * k)
      = n * shares.total (fun share => (share.scaled * k).tdiv n)
        + shares.total (fun share => (share.scaled * k).tmod n) := by
  simp only [OrderedMap.total]
  induction shares.values with
  | nil => simp
  | cons share shares ih =>
    simp only [map_cons, sum_cons, ih, Int.mul_add]
    have hsplit := Int.mul_tdiv_add_tmod (share.scaled * k) n
    omega

/-- The scaled shares add up to the scaled sum exactly when the rounding is
even. -/
theorem splitAttribution_total {shares scaled : OrderedMap String Decimal}
    {ratio : Decimal} (h : ServiceRecord.splitAttribution ratio shares = .ok scaled) :
    scaled.total Decimal.scaled
        = (shares.total Decimal.scaled * ratio.scaled).tdiv Decimal.scale ↔
      RoundsEvenly shares ratio := by
  have hscaled : scaled.total Decimal.scaled = shares.total fun share =>
      (share.scaled * ratio.scaled).tdiv Decimal.scale :=
    OrderedMap.total_traverse
      (fun _ _ _ hmul => scaled_of_checkedMul hmul) h
  have hparts := total_tdiv shares ratio.scaled Decimal.scale
  have hwhole := Int.mul_tdiv_add_tmod
    (shares.total Decimal.scaled * ratio.scaled) Decimal.scale
  have hpositive : (0 : Int) < Decimal.scale := by decide
  rw [total_mul] at hparts
  rw [hscaled, RoundsEvenly]
  constructor
  · intro heq
    rw [heq] at hparts
    omega
  · intro heq
    rw [heq] at hparts
    exact Int.eq_of_mul_eq_mul_left hpositive.ne' (by omega)

/-- Splits that round the shares of their instrument evenly. -/
def evenSplits : Allowance where
  event _ _ := True
  decision _ _ := True
  comboDecision _ _ := True
  action s request :=
    match request.action with
    | .split _ instrumentId _ ratio =>
      RoundsEvenly (s.shares instrumentId) ratio
    | .cashDividend .. => True

/-! ## The invariant -/

def Attributed (books : Books) : Prop :=
  ∀ instrumentId, books.attributed instrumentId = (books.heldQuantity instrumentId).scaled

namespace Attributed

variable {books books' : Books}

theorem same (h : Attributed books)
    (hportfolios : books'.portfolios = books.portfolios) (hattribution :
      books'.strategyAttribution = books.strategyAttribution) : Attributed books' := by
  intro instrumentId
  have hinstrument := h instrumentId
  simp only [Books.attributed, Books.shares, Books.heldQuantity,
    hportfolios, hattribution] at hinstrument ⊢
  exact hinstrument

variable {config : Configuration} {strategyId : String}

theorem accounted {fill : Fill} (h : Attributed books)
    (hfill : Books.Accounted config fill strategyId books books') :
    Attributed books' := by
  obtain ⟨filled, hposition, hportfolios⟩ := hfill.position
  obtain ⟨updated, hupdated, hattribution⟩ := hfill.attribution
  have hfilled := (Books.fillPosition_quantity hposition).2
  have hcontribution := Books.contribution_scaled hupdated
  intro other
  have hprior := h other
  rw [Books.heldQuantity_insert hportfolios, Books.attributed,
    Books.shares_insert hattribution]
  by_cases hother : fill.instrumentId = other
  · subst hother
    rw [if_pos rfl, if_pos rfl, OrderedMap.total_insert, hfilled, hcontribution, ← hprior]
    simp only [Books.attributed, Books.shares]
    omega
  · rw [if_neg hother, if_neg hother]
    exact hprior

theorem accountedAll {fills : List Fill}
    (hfills : Books.AccountedAll config strategyId fills books books')
    (h : Attributed books) : Attributed books' := by
  induction hfills with
  | nil => exact h
  | cons hfill _ ih => exact ih (h.accounted hfill)

theorem applies {event : BrokerEvent} (h : Attributed books)
    (happly : Books.Applies config books event books') : Attributed books' := by
  cases happly with
  | @executed execution order order' fill strategyId _ _ _ _ _ _ hfill =>
    have hnoted : Attributed
        ((books.putOrder execution.clientOrderId order').noteExecution
          execution.executionId) := h.same rfl rfl
    exact hnoted.accounted hfill
  | comboExecuted _ _ _ _ _ _ _ hfills _ =>
    exact (accountedAll hfills (h.same rfl rfl)).same rfl rfl
  | _ => exact h.same rfl rfl

/-- A split that rounds evenly keeps the shares in step with the position. -/
theorem split {s : ServiceRecord} {instrumentId actionId : String}
    {ratio : Decimal} {books : Books} {marks : OrderedMap String Decimal}
    (h : Attributed s.toBooks) (heven : RoundsEvenly (s.shares instrumentId) ratio)
    (hsplit : s.splitBooks instrumentId actionId ratio = .ok (books, marks)) :
    Attributed books := by
  simp only [ServiceRecord.splitBooks, bind_eq_ok, pure_eq_ok, Prod.mk.injEq] at hsplit
  obtain ⟨_, -, portfolio, hportfolio, _, -, attribution, hattribution, _, -,
    hbooks, -⟩ := hsplit
  have hportfolios : books.portfolios
      = ServiceRecord.putWhen s.portfolios instrumentId portfolio := by
    rw [← hbooks]
  obtain ⟨hheld, hheldFrame⟩ :=
    Lockstep.heldQuantity_split hportfolio hportfolios
  have hshares : books.strategyAttribution = ServiceRecord.putWhen
      s.strategyAttribution instrumentId attribution := by rw [← hbooks]
  intro other
  have hprior := h other
  cases hcurrent : s.strategyAttribution[instrumentId]? with
  | none =>
    rw [hcurrent] at hattribution
    obtain rfl := Except.ok.inj hattribution
    have hsame : books.attributed other = s.attributed other := by
      simp only [Books.attributed, Books.shares, hshares, ServiceRecord.putWhen]
    by_cases hother : instrumentId = other
    · subst hother
      have hzero : s.attributed instrumentId = 0 := by
        simp [Books.attributed, Books.shares, hcurrent]
      rw [hsame, hheld, ← hprior, hzero]
      simp
    · rw [hsame, hprior, hheldFrame other hother]
  | some strategies =>
    rw [hcurrent] at hattribution
    simp only [ServiceRecord.transpose, bind_eq_ok, pure_eq_ok] at hattribution
    obtain ⟨scaled, hscaled, rfl⟩ := hattribution
    rw [Books.attributed, Books.shares_insert hshares]
    by_cases hother : instrumentId = other
    · subst hother
      rw [Books.shares, hcurrent, getD_some] at heven
      rw [if_pos rfl, hheld, ← hprior, (splitAttribution_total hscaled).mpr heven,
        Books.attributed, Books.shares, hcurrent, getD_some]
    · rw [if_neg hother, hheldFrame other hother]
      exact hprior

end Attributed

/-! ## Reachable states -/

variable {s : ServiceRecord}

theorem attributed_step {t : ServiceRecord} (h : RecordStep evenSplits s t)
    (hs : Attributed s.toBooks) : Attributed t.toBooks := by
  cases h with
  | edited h =>
    cases h with
    | applied happly => exact hs.applies (Books.applyBrokerEvent_eq_ok happly)
    | @acted request after receipt admitted heffect hmay =>
      unfold ServiceRecord.takeEffect at heffect
      split at heffect
      · next haction =>
          simp only [bind_eq_ok, Prod.exists, pure_eq_ok, Prod.mk.injEq] at heffect
          obtain ⟨books, marks, hsplit, rfl, -⟩ := heffect
          simp only [evenSplits, haction] at hmay
          exact hs.split hmay hsplit
      · simp only [bind_eq_ok, pure_eq_ok,
          Prod.mk.injEq] at heffect
        obtain ⟨_, -, cash, -, rfl, -⟩ := heffect
        exact hs.same rfl rfl
    | operated => exact hs
    | _ => exact hs.same rfl rfl
  | observed h =>
    cases h with
    | _ => exact hs.same rfl rfl
  | replacing h =>
    cases h with
    | begun => exact hs.same rfl rfl

theorem reachableRecord_attributed (hs : ReachableRecord evenSplits s)
    : Attributed s.toBooks := by
  refine hs.invariant (P := fun s => Attributed s.toBooks) ?_ ?_
  · rintro _ ⟨-, -, -⟩ instrumentId
    simp [Books.attributed, Books.shares, Books.heldQuantity, startRecord,
      PaperTradingService.emptyBooks]
  · exact fun s t _ hs hst => attributed_step hst hs

namespace PaperTradingService

variable {B : Type} [PaperBrokerAdapter B] [ContentHash]

end PaperTradingService

namespace Session

attribute [local instance] contentHash

def secondIntent : OrderIntent :=
  { intent with
    intentId := "intent-2", strategyId := "strategy-2"
    quantity := amount 12800000000 }

def sharedPosition : List Move :=
  [submission,
    .fill "order-intent-1" (amount 25000000) (amount 10000000000) (amount 0),
    .operate .synchronize, .operate (.cancelOrder "order-intent-1"),
    .operate .synchronize,
    .operate (.submitIntent secondIntent market decidedAt none),
    .fill "order-intent-2" (amount 12775000000) (amount 10000000000)
      (amount 0),
    .operate .synchronize, .operate (.cancelOrder "order-intent-2"),
    .operate .synchronize]

def reverseSplit : Operation :=
  .applyCorporateAction
    ⟨.split "split-1" "aapl" "2026-01-05T15:00:00Z" (amount 781250),
      amount 12800000000, "operator-1", "2026-01-05T15:00:00Z"⟩

def forwardSplit : PaperCorporateAction :=
  ⟨.split "split-1" "aapl" "2026-01-05T15:00:00Z" (amount 150000000),
    amount 1000000000, "operator-1", "2026-01-05T15:00:00Z"⟩

theorem reachable_even (moves : List Move)
    (h : ∀ request, .operate (.applyCorporateAction request) ∉ moves) :
    Reachable PaperTradingService.Started
      (PaperTradingService.AllowedStep evenSplits)
      (moves.foldl play start) := by
  suffices hs : ∀ s, Reachable PaperTradingService.Started
      (PaperTradingService.AllowedStep evenSplits) s →
        Reachable PaperTradingService.Started
          (PaperTradingService.AllowedStep evenSplits)
          (moves.foldl play s) from hs start (.init start_started)
  induction moves with
  | nil => exact fun s hs => hs
  | cons move moves ih =>
    intro s hs
    refine ih (fun request hmem => h request (mem_cons_of_mem _ hmem)) _
      (hs.step ?_)
    cases move with
    | operate operation =>
      refine .operate (PaperTradingService.within_of (fun _ _ => trivial)
        (fun _ _ => trivial) (fun _ _ => trivial) ?_)
      rintro request rfl
      exact absurd mem_cons_self (h request)
    | fill orderId quantity price fee => exact .brokerMoved s _

theorem play_allowed {may : Allowance}
    {s : PaperTradingService IbkrPaperAdapter} {operation : Operation}
    (hs : Reachable PaperTradingService.Started (PaperTradingService.AllowedStep may) s)
    (hwithin : PaperTradingService.Within may s operation) :
    Reachable PaperTradingService.Started
      (PaperTradingService.AllowedStep may) (play s (.operate operation)) :=
  .step hs (.operate hwithin)

end Session

end Follon.Paper
