import Follon.ControlPlane.Simulation

/-!
# Simulated fill prices

A simulated fill is priced against the trader: after spread and slippage the
price is rounded onto the tick grid in the direction that costs the trader, by
less than one tick, and a price beyond the order's limit is no fill.
-/

namespace Follon.ControlPlane

open Foundation Domain

def costOver (side : Side) (price unrounded : Decimal) : Int :=
  match side with
  | .buy => price.scaled - unrounded.scaled
  | .sell => unrounded.scaled - price.scaled

theorem roundToTickAgainstTrader_eq_ok {price tick rounded : Decimal} {side : Side}
    (h : roundToTickAgainstTrader price side tick = .ok rounded) :
    tick.scaled ∣ rounded.scaled ∧ 0 ≤ costOver side rounded price
      ∧ costOver side rounded price < tick.scaled := by
  simp only [roundToTickAgainstTrader, bind_eq_ok, refuseIf_eq_ok,
    le_def, scaled_zero, Int.not_le,
    checked_eq_ok] at h
  obtain ⟨-, htick, hrounded⟩ := h
  have hgrid : tick.scaled ∣ price.scaled - price.scaled % tick.scaled :=
    Int.dvd_self_sub_emod
  have hlow := Int.emod_nonneg price.scaled (Int.ne_of_gt htick)
  have hhigh := Int.emod_lt_of_pos price.scaled htick
  cases side with
  | buy =>
    by_cases hon : price.scaled - price.scaled % tick.scaled = price.scaled
    · rw [if_neg (by simp [hon])] at hrounded
      rw [hrounded]
      refine ⟨hgrid, ?_, ?_⟩ <;> simp only [costOver] <;> omega
    · rw [if_pos ⟨rfl, hon⟩] at hrounded
      rw [hrounded]
      refine ⟨Int.dvd_add hgrid (Int.dvd_refl _), ?_, ?_⟩ <;>
        simp only [costOver] <;> omega
  | sell =>
    rw [if_neg (by simp)] at hrounded
    rw [hrounded]
    refine ⟨hgrid, ?_, ?_⟩ <;> simp only [costOver] <;> omega

/-- A fill price that never favours the trader: positive, within the order's
limit, on the grid there is, and less than one tick worse than the price the
model computed. -/
structure Conservative (intent : OrderIntent) (tickSize : Option Decimal)
    (unrounded price : Decimal) : Prop where
  positive : 0 < price.scaled
  buyLimit : intent.side = .buy → ∀ limit ∈ intent.limitPrice, price ≤ limit
  sellLimit : intent.side = .sell → ∀ limit ∈ intent.limitPrice, limit ≤ price
  noBetter : 0 ≤ costOver intent.side price unrounded
  grid : ∀ tick ∈ tickSize, tick.scaled ∣ price.scaled
    ∧ costOver intent.side price unrounded < tick.scaled
  exact : tickSize = none → price = unrounded

namespace DeterministicFillModel

theorem onGrid_eq_ok {side : Side} {tickSize : Option Decimal}
    {unrounded price : Decimal} (h : onGrid side tickSize unrounded = .ok price) :
    0 ≤ costOver side price unrounded ∧ (∀ tick ∈ tickSize, tick.scaled ∣ price.scaled
        ∧ costOver side price unrounded < tick.scaled)
      ∧ (tickSize = none → price = unrounded) := by
  cases tickSize with
  | none =>
    obtain rfl := Except.ok.inj h
    have hsame : costOver side unrounded unrounded = 0 := by
      cases side <;> exact Int.sub_self _
    rw [hsame]
    exact ⟨Int.le_refl 0, fun _ hmem => absurd hmem (Option.not_mem_none _),
      fun _ => rfl⟩
  | some tick =>
    obtain ⟨hgrid, hnobetter, hwithin⟩ := roundToTickAgainstTrader_eq_ok h
    refine ⟨hnobetter, ?_, fun hnone => absurd hnone (Option.some_ne_none _)⟩
    intro other hother
    obtain rfl := Option.some.inj hother
    exact ⟨hgrid, hwithin⟩

theorem violatesLimit_eq_false {intent : OrderIntent} {price : Decimal}
    (h : violatesLimit intent price = false) :
    (intent.side = .buy → ∀ limit ∈ intent.limitPrice, price ≤ limit)
      ∧ (intent.side = .sell →
        ∀ limit ∈ intent.limitPrice, limit ≤ price) := by
  unfold violatesLimit at h
  constructor
  all_goals
    intro hside limit hlimit
    rw [Option.mem_def.mp hlimit, hside] at h
    exact Int.not_lt.mp (of_decide_eq_false h)

/-- Every fill the model produces is priced from the price the bar offers,
against the trader. -/
theorem fillQuantity_conservative {model : DeterministicFillModel}
    {order : OmsOrder} {bar : Bar} {replayTime executionId : String}
    {quantity : Decimal} {tickSize : Option Decimal} {fill : Fill}
    (h : model.fillQuantity order bar replayTime quantity executionId tickSize
      = .ok (some fill)) : ∃ base unrounded, basePrice order.intent bar = .ok (some base)
      ∧ model.adversePrice order.intent.side base = .ok unrounded
      ∧ Conservative order.intent tickSize unrounded fill.price := by
  simp only [fillQuantity, bind_eq_ok] at h
  obtain ⟨-, -, offered, hbase, h⟩ := h
  cases offered with
  | none => exact absurd (Except.ok.inj h) nofun
  | some base =>
    simp only [bind_eq_ok, refuseIf_eq_ok, le_def,
      scaled_zero, Int.not_le] at h
    obtain ⟨unrounded, hunrounded, price, hgrid, -, hpositive, hfill⟩ := h
    obtain ⟨hnobetter, hongrid, hexact⟩ := onGrid_eq_ok hgrid
    have hsome := Except.ok.inj hfill
    split at hsome
    · contradiction
    · next hwithin =>
        obtain rfl := Option.some.inj hsome
        obtain ⟨hbuy, hsell⟩ :=
          violatesLimit_eq_false (not_eq_true _ ▸ hwithin)
        exact ⟨base, unrounded, hbase, hunrounded, hpositive, hbuy, hsell,
          hnobetter, hongrid, hexact⟩

/-! ## A fill off the grid -/

namespace RoundedFill

def buyOrder : OmsOrder where
  orderId := "order-intent-1"
  intent :=
    { intentId := "intent-1", accountId := "acct-1", strategyId := "strategy-1"
      instrumentId := "aapl", correlationId := "correlation-1", side := .buy
      quantity := .ten
      orderType := .limit
      limitPrice := some ⟨10100000000, by decide, by decide⟩
      timeInForce := .day
      rationale := "momentum"
      createdAt := "2026-01-05T14:30:00Z"
      strategyVersion := "v1"
      configurationVersion := "v1"
      environment := "SIMULATION" }
  state := .acknowledged

def bar : Bar where
  instrumentId := "aapl"
  open_ := .hundred
  high := ⟨10010000000, by decide, by decide⟩
  low := ⟨9990000000, by decide, by decide⟩
  close := ⟨10003000000, by decide, by decide⟩
  volume := ⟨100000000000, by decide, by decide⟩
  intervalSeconds := 60
  exchangeTimezone := "America/New_York"

def model : DeterministicFillModel :=
  ⟨Decimal.zero, .ten, Decimal.zero, 1, none⟩

def nickel : Decimal := ⟨5000000, by decide, by decide⟩

def fill : Fill where
  executionId := "exec-intent-1"
  orderId := "order-intent-1"
  instrumentId := "aapl"
  side := .buy
  quantity := .ten
  price := ⟨10015000000, by decide, by decide⟩
  fee := Decimal.zero
  executedAt := "2026-01-05T14:31:00Z"

/-- 100.13003 is filled at 100.15. -/
theorem fillQuantity_conservative_nickel :
    ∃ base unrounded, basePrice buyOrder.intent bar = .ok (some base)
      ∧ model.adversePrice buyOrder.intent.side base = .ok unrounded
      ∧ Conservative buyOrder.intent (some nickel) unrounded fill.price := by
  have hfill : model.fillQuantity buyOrder bar "2026-01-05T14:31:00Z"
      buyOrder.intent.quantity "exec-intent-1" (some nickel)
        = .ok (some fill) := by
    decide
  exact fillQuantity_conservative hfill

end RoundedFill

end DeterministicFillModel

end Follon.ControlPlane
