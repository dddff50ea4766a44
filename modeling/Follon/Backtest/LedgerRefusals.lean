import Follon.Accounting.LotCalls
import Follon.Backtest.LedgerEffects
import Follon.Foundation.Refusals

/-!
# Refused bookings of a ledger

When a booking that is refused leaves the ledger as it was: it is refused
before its first write, or what follows that write does not fail.
-/

namespace Follon.Backtest

open Foundation Domain Accounting
open Foundation.Fallible (Fits Restores Returns Keeps)

/-! ## Rows -/

theorem insert_eq_self_iff {κ ν : Type} [Ord κ] [Std.TransOrd κ]
    [Std.LawfulEqOrd κ] {map : OrderedMap κ ν} {key : κ} {value : ν} :
    map.insert key value = map ↔ map[key]? = some value := by
  constructor
  · intro h
    have hfound := getElem?_insert_self map key value
    rwa [h] at hfound
  · intro h
    apply ext_getElem?
    intro other
    by_cases heq : key = other
    · subst heq
      rw [getElem?_insert_self, h]
    · rw [getElem?_insert_of_ne map value heq]

theorem fits_checkedSub {a b : Decimal} (hnonneg : 0 ≤ b.scaled)
    (hle : b.scaled ≤ a.scaled) : Fits (a.checkedSub b) := by
  have hmin : i128Min = -170141183460469231731687303715884105728 := rfl
  have hmax := a.le_max
  exact Decimal.checked_ok _ (by omega) (by omega)

namespace BacktestLedger

variable {ledger ledger' : BacktestLedger} {fill : Fill} {e : PaperError}

/-! ## Conditions of a fill -/

def buyGuard (fill : Fill) (position : LedgerPosition) (cash : Decimal) :
    Result Decimal := do
  let gross ← fill.price.checkedMul fill.quantity
  let requiredCash ← gross.checkedAdd fill.fee
  refuseIf (cash < requiredCash) "insufficient simulated cash"
  let _ ← position.averageCost.checkedMul position.quantity
  position.quantity.checkedAdd fill.quantity

def sellGuard (fill : Fill) (position : LedgerPosition) : Result Decimal := do
  let _ ← fill.price.checkedMul fill.quantity
  refuseIf (position.quantity < fill.quantity)
    "short positions are not enabled in the first milestone"
  let gain ← fill.price.checkedSub position.averageCost
  let realized ← gain.checkedMul fill.quantity
  let net ← realized.checkedSub fill.fee
  position.realizedPnl.checkedAdd net

def fillGuard (ledger : BacktestLedger) (fill : Fill) : Result Decimal :=
  match fill.side with
  | .buy =>
    buyGuard fill (ledger.positionOf fill.instrumentId) ledger.cash
  | .sell => sellGuard fill (ledger.positionOf fill.instrumentId)

def lotCall (ledger : BacktestLedger) (fill : Fill) : Result LotCall := do
  let currency ← Currency.new ledger.currency
  match fill.side with
  | .buy => do
    let gross ← fill.price.checkedMul fill.quantity
    let total ← gross.checkedAdd fill.fee
    let unitPrice ← total.checkedDiv fill.quantity
    pure (.acquire
      { lotId := "taxlot-" ++ fill.executionId
        instrumentId := fill.instrumentId
        currency
        openedAt := fill.executedAt
        remainingQuantity := fill.quantity
        unitPrice })
  | .sell =>
    pure (.dispose
      { closeId := "taxdisposal-" ++ fill.executionId
        instrumentId := fill.instrumentId
        currency
        quantity := fill.quantity
        unitPrice := fill.price
        fee := fill.fee
        occurredAt := fill.executedAt
        selection := .fifo })

/-- A fill reaches its first write: the row of an instrument that had none, or
the quantity of one that had. -/
structure Begins (ledger : BacktestLedger) (fill : Fill) : Prop where
  checked : ledger.checkFill fill = .ok ()
  started : fill.instrumentId ∈ ledger.positions → Fits (ledger.fillGuard fill)

structure FillFits (ledger : BacktestLedger) (fill : Fill) : Prop where
  guard : Fits (ledger.fillGuard fill)
  booked : ∃ position cash deltas,
    Booked fill (ledger.positionOf fill.instrumentId) ledger.cash position cash
      deltas
  lots : ∃ call, ledger.lotCall fill = .ok call ∧ (call.perform ledger.taxLots).1 = .ok ()
  fees : Fits (ledger.fees.checkedAdd fill.fee)

/-! ## Positions and cash -/

theorem quantity_pos_of_checkFill (h : ledger.checkFill fill = .ok ()) :
    0 < fill.quantity.scaled := by
  simp only [checkFill, bind_eq_ok, refuseIf_eq_ok, not_or, le_def,
    scaled_zero] at h
  obtain ⟨_, ⟨hquantity, -⟩, -⟩ := h
  omega

theorem fits_guard_of_buy (hside : fill.side = .buy) : Fits (ledger.fillGuard fill) ↔
      ∃ gross, fill.price.checkedMul fill.quantity = .ok gross ∧
        ∃ required, gross.checkedAdd fill.fee = .ok required ∧ ¬ledger.cash < required ∧
          ∃ prior, (ledger.positionOf fill.instrumentId).averageCost.checkedMul
              (ledger.positionOf fill.instrumentId).quantity = .ok prior ∧
            ∃ quantity, (ledger.positionOf
              fill.instrumentId).quantity.checkedAdd fill.quantity
                = .ok quantity := by
  simp only [Fits, fillGuard, hside, buyGuard, bind_eq_ok, refuseIf_eq_ok, exists_const]
  constructor
  · rintro ⟨quantity, gross, hgross, required, hrequired, henough, prior,
      hprior, hquantity⟩
    exact ⟨gross, hgross, required, hrequired, henough, prior, hprior,
      quantity, hquantity⟩
  · rintro ⟨gross, hgross, required, hrequired, henough, prior, hprior,
      quantity, hquantity⟩
    exact ⟨quantity, gross, hgross, required, hrequired, henough, prior,
      hprior, hquantity⟩

theorem fits_guard_of_sell (hside : fill.side = .sell) :
    Fits (ledger.fillGuard fill) ↔ Fits (fill.price.checkedMul fill.quantity) ∧
        ¬(ledger.positionOf fill.instrumentId).quantity < fill.quantity ∧
        ∃ gain, fill.price.checkedSub
            (ledger.positionOf fill.instrumentId).averageCost = .ok gain ∧
          ∃ realized, gain.checkedMul fill.quantity = .ok realized ∧
            ∃ net, realized.checkedSub fill.fee = .ok net ∧ ∃ total, (ledger.positionOf
                fill.instrumentId).realizedPnl.checkedAdd net
                  = .ok total := by
  simp only [Fits, fillGuard, hside, sellGuard, bind_eq_ok, refuseIf_eq_ok, exists_const]
  constructor
  · rintro ⟨total, gross, hgross, hheld, gain, hgain, realized, hrealized, net,
      hnet, htotal⟩
    exact ⟨⟨gross, hgross⟩, hheld, gain, hgain, realized, hrealized, net, hnet,
      total, htotal⟩
  · rintro ⟨⟨gross, hgross⟩, hheld, gain, hgain, realized, hrealized, net,
      hnet, total, htotal⟩
    exact ⟨total, gross, hgross, hheld, gain, hgain, realized, hrealized, net,
      hnet, htotal⟩

variable {position : LedgerPosition} {cash ratio : Decimal} {deltas : Deltas}
  {instrumentId : String}

theorem bookPosition_of_booked (hguard : Fits (ledger.fillGuard fill))
    (h : Booked fill (ledger.positionOf fill.instrumentId) ledger.cash position
      cash deltas) : (bookPosition fill).run ledger = (.ok deltas,
      setCash cash (setPosition fill.instrumentId position ledger)) := by
  cases h with
  | @bought gross required prior quantity cost averageCost cash' cashDelta hside
      hgross hrequired hprior hquantity hcost haverage hcash hdelta =>
      have henough : ¬ledger.cash < required := by
        obtain ⟨gross', hgross', required', hrequired', henough, -⟩ :=
          (fits_guard_of_buy hside).mp hguard
        rw [hgross] at hgross'
        obtain rfl := Except.ok.inj hgross'
        rw [hrequired] at hrequired'
        obtain rfl := Except.ok.inj hrequired'
        exact henough
      simp only [bookPosition, run_read_bind, run_update_bind, hgross,
        run_lift_bind_ok, hside, bookBuy, hrequired]
      change Fallible.run
        (lift (refuseIf (ledger.cash < required) _) >>= _) _ = _
      rw [refuseIf_of_not henough]
      simp only [run_lift_bind_ok, run_update_bind, hprior, hquantity, hcost, haverage]
      change Fallible.run
        (lift (ledger.cash.checkedSub required) >>= _) _ = _
      rw [hcash]
      simp [hdelta, setCash, setPosition]
  | sold hside hgross hheld hgain hrealized hnet htotal hquantity hproceeds
      hcash hdelta =>
      simp only [bookPosition, run_read_bind, run_update_bind, hgross,
        run_lift_bind_ok, hside, bookSell, refuseIf_of_not hheld, hgain,
        hrealized, hnet, htotal, hquantity, hproceeds]
      change Fallible.run
        (lift (ledger.cash.checkedAdd _) >>= _) _ = _
      rw [hcash]
      simp [hdelta, setCash, setPosition]

def LeavesRow (ledger : BacktestLedger) (fill : Fill) (ledger' : BacktestLedger) : Prop :=
  (¬Fits (ledger.fillGuard fill) ∧ ledger' = setPosition fill.instrumentId
        (ledger.positionOf fill.instrumentId) ledger) ∨
    (Fits (ledger.fillGuard fill) ∧ ∃ position,
      position.quantity ≠ (ledger.positionOf fill.instrumentId).quantity ∧
      ledger'.positions = ledger.positions.insert fill.instrumentId position)

theorem leavesRow_of_buy (hside : fill.side = .buy) (hquantity : 0 < fill.quantity.scaled)
    (h : (bookPosition fill).run ledger = (.error e, ledger')) :
    LeavesRow ledger fill ledger' := by
  unfold LeavesRow
  simp only [bookPosition, run_read_bind, run_update_bind,
    run_lift_bind_eq_error] at h
  simp only [hside, bookBuy, run_read_bind, run_lift_bind_eq_error, run_update_bind,
    run_pure, Prod.mk.injEq, reduceCtorEq, false_and,
    refuseIf_eq_error, refuseIf_eq_ok, exists_const] at h
  rw [fits_guard_of_buy hside]
  obtain ⟨hgross, rfl⟩ | ⟨gross, hgross, ⟨hrequired, rfl⟩ |
    ⟨required, hrequired, ⟨⟨hshort, -⟩, rfl⟩ | ⟨henough, ⟨hprior, rfl⟩ |
    ⟨prior, hprior, ⟨hsum, rfl⟩ | ⟨quantity, hsum, hlate⟩⟩⟩⟩⟩ := h
  · simp only [hgross, reduceCtorEq, false_and, exists_false,
      not_false_eq_true, true_and, true_or]
  · simp only [hgross, hrequired, reduceCtorEq, false_and, exists_false,
      not_false_eq_true, true_and, true_or, Except.ok.injEq, exists_eq_left']
  · left
    refine ⟨?_, rfl⟩
    simp only [hgross, hrequired, Except.ok.injEq, exists_eq_left']
    exact fun hfits => hfits.1 hshort
  · simp only [hgross, hprior, reduceCtorEq, false_and, exists_false,
      not_false_eq_true, true_and, true_or, Except.ok.injEq, and_false]
  · simp only [hgross, hprior, hsum, reduceCtorEq, exists_false,
      not_false_eq_true, true_and, true_or, Except.ok.injEq, and_false]
  · right
    refine ⟨⟨gross, hgross, required, hrequired, henough, prior, hprior,
      quantity, hsum⟩, ?_⟩
    have hne : quantity ≠
        (ledger.positionOf fill.instrumentId).quantity := by
      intro heq
      rw [checkedAdd_eq_ok, heq] at hsum
      omega
    obtain ⟨_, rfl⟩ | ⟨cost, _, ⟨_, rfl⟩ | ⟨averageCost, _, ⟨_, rfl⟩ |
      ⟨cash, _, ⟨_, rfl⟩ | ⟨_, _, hdone⟩⟩⟩⟩ := hlate
    · exact ⟨_, hne, OrderedMap.insert_insert _ _ _ _⟩
    · exact ⟨_, hne, OrderedMap.insert_insert _ _ _ _⟩
    · refine ⟨{ ledger.positionOf fill.instrumentId with
        quantity, averageCost }, hne, ?_⟩
      simp [setPosition]
    · refine ⟨{ ledger.positionOf fill.instrumentId with
        quantity, averageCost }, hne, ?_⟩
      simp [setPosition, setCash]
    · exact hdone.elim

theorem leavesRow_of_sell (hside : fill.side = .sell)
    (hquantity : 0 < fill.quantity.scaled)
    (h : (bookPosition fill).run ledger = (.error e, ledger')) :
    LeavesRow ledger fill ledger' := by
  unfold LeavesRow
  simp only [bookPosition, run_read_bind, run_update_bind,
    run_lift_bind_eq_error] at h
  simp only [hside, bookSell, run_read_bind, run_lift_bind_eq_error, run_update_bind,
    run_pure, Prod.mk.injEq, reduceCtorEq, false_and,
    refuseIf_eq_error, refuseIf_eq_ok, exists_const] at h
  rw [fits_guard_of_sell hside]
  obtain ⟨hgross, rfl⟩ | ⟨gross, hgross, ⟨⟨hshort, -⟩, rfl⟩ |
    ⟨hheld, ⟨hgain, rfl⟩ | ⟨gain, hgain, ⟨hrealized, rfl⟩ |
    ⟨realized, hrealized, ⟨hnet, rfl⟩ | ⟨net, hnet, ⟨htotal, rfl⟩ |
    ⟨total, htotal, hlate⟩⟩⟩⟩⟩⟩ := h
  · left
    rw [hgross]
    exact ⟨fun hfits => Fallible.not_fits_error _ hfits.1, rfl⟩
  · left
    exact ⟨fun hfits => hfits.2.1 hshort, rfl⟩
  · simp only [hgain, reduceCtorEq, false_and, exists_false,
      not_false_eq_true, true_and, true_or, and_false]
  · simp only [hgain, hrealized, reduceCtorEq, false_and, exists_false,
      not_false_eq_true, true_and, true_or, and_false, Except.ok.injEq, exists_eq_left']
  · simp only [hgain, hrealized, hnet, reduceCtorEq, false_and, exists_false,
      not_false_eq_true, true_and, true_or, and_false, Except.ok.injEq, exists_eq_left']
  · simp only [hgain, hrealized, hnet, htotal, reduceCtorEq, false_and, exists_false,
      not_false_eq_true, true_and, true_or, and_false, Except.ok.injEq, exists_eq_left']
  · right
    refine ⟨⟨⟨gross, hgross⟩, hheld, gain, hgain, realized, hrealized, net,
      hnet, total, htotal⟩, ?_⟩
    obtain ⟨hquantity', -⟩ | ⟨quantity, hless, hlate⟩ := hlate
    · obtain ⟨rest, hrest⟩ := fits_checkedSub (Int.le_of_lt hquantity)
        (Int.not_lt.mp hheld)
      rw [hrest] at hquantity'
      cases hquantity'
    · have hne : quantity ≠
          (ledger.positionOf fill.instrumentId).quantity := by
        intro heq
        rw [checkedSub_eq_ok, heq] at hless
        omega
      let sold : LedgerPosition :=
        { ledger.positionOf fill.instrumentId with
          quantity
          averageCost :=
            if quantity = Decimal.zero then Decimal.zero
            else (ledger.positionOf fill.instrumentId).averageCost
          realizedPnl := total }
      refine ⟨sold, hne, ?_⟩
      obtain ⟨_, rfl⟩ | ⟨proceeds, _, ⟨_, rfl⟩ | ⟨cash, _, ⟨_, rfl⟩ |
        ⟨_, _, hdone⟩⟩⟩ := hlate
      · simp only [setPosition, OrderedMap.insert_insert]
        rfl
      · simp only [setPosition, OrderedMap.insert_insert]
        rfl
      · simp only [setPosition, setCash, OrderedMap.insert_insert]
        rfl
      · exact hdone.elim

theorem bookPosition_error (hquantity : 0 < fill.quantity.scaled)
    (h : (bookPosition fill).run ledger = (.error e, ledger')) :
    LeavesRow ledger fill ledger' := by
  cases hside : fill.side with
  | buy => exact leavesRow_of_buy hside hquantity h
  | sell => exact leavesRow_of_sell hside hquantity h

/-! ## Lots -/

theorem run_applyTaxLotFill (ledger : BacktestLedger) (fill : Fill) :
    (applyTaxLotFill fill).run ledger =
      match ledger.lotCall fill with
      | .ok call => ((call.perform ledger.taxLots).1,
          setTaxLots (call.perform ledger.taxLots).2 ledger)
      | .error e => (.error e, ledger) := by
  unfold applyTaxLotFill lotCall
  rw [run_read_bind]
  cases hcurrency : Currency.new ledger.currency with
  | error e => rfl
  | ok currency =>
    rw [run_lift_bind_ok]
    cases hside : fill.side with
    | sell => rfl
    | buy =>
      unfold acquireLot
      dsimp only
      cases hgross : fill.price.checkedMul fill.quantity with
      | error e => rfl
      | ok gross =>
        cases htotal : gross.checkedAdd fill.fee with
        | error e =>
          rw [run_lift_bind_ok, htotal]
          simp only [bind, Except.bind, htotal]
          rfl
        | ok total =>
          rw [run_lift_bind_ok, htotal, run_lift_bind_ok]
          simp only [bind, Except.bind, htotal]
          cases total.checkedDiv fill.quantity with
          | error e => rfl
          | ok unitPrice => rfl

/-! ## Fills -/

theorem fits_guard_of_bookPosition
    (h : (bookPosition fill).run ledger = (.ok deltas, ledger')) :
    Fits (ledger.fillGuard fill) := by
  simp only [bookPosition, run_read_bind, run_update_bind,
    run_lift_bind_eq_ok] at h
  obtain ⟨gross, hgross, h⟩ := h
  cases hside : fill.side with
  | buy =>
    simp only [hside, bookBuy, run_read_bind,
      run_lift_bind_eq_ok, refuseIf_eq_ok, exists_const] at h
    obtain ⟨required, hrequired, henough, prior, hprior, quantity, hquantity, -⟩ := h
    exact (fits_guard_of_buy hside).mpr ⟨gross, hgross, required, hrequired,
      henough, prior, hprior, quantity, hquantity⟩
  | sell =>
    simp only [hside, bookSell, run_read_bind,
      run_lift_bind_eq_ok, refuseIf_eq_ok, exists_const] at h
    obtain ⟨hheld, gain, hgain, realized, hrealized, net, hnet, total, htotal, -⟩ := h
    exact (fits_guard_of_sell hside).mpr ⟨⟨gross, hgross⟩, hheld, gain, hgain,
      realized, hrealized, net, hnet, total, htotal⟩

theorem quantity_ne_of_booked {position' : LedgerPosition} {cash' : Decimal}
    (hquantity : 0 < fill.quantity.scaled)
    (h : Booked fill position cash position' cash' deltas) :
    position'.quantity ≠ position.quantity := by
  cases h with
  | @bought _ _ _ quantity _ _ _ _ _ _ _ _ hsum =>
    intro heq
    have hsame : quantity = position.quantity := heq
    rw [checkedAdd_eq_ok, hsame] at hsum
    omega
  | @sold _ _ _ _ _ quantity _ _ _ _ _ _ _ _ _ _ hless =>
    intro heq
    have hsame : quantity = position.quantity := heq
    rw [checkedSub_eq_ok, hsame] at hless
    omega

theorem mem_of_setPosition_eq
    (h : ledger.positions.insert instrumentId position = ledger.positions) :
    instrumentId ∈ ledger.positions ∧
      ledger.positionOf instrumentId = position := by
  have hfound := insert_eq_self_iff.mp h
  constructor
  · rw [mem_iff_isSome_getElem?, hfound]
    rfl
  · rw [positionOf, hfound]
    rfl

theorem setPosition_positionOf (h : instrumentId ∈ ledger.positions) :
    setPosition instrumentId (ledger.positionOf instrumentId) ledger
      = ledger := by
  rw [mem_iff_isSome_getElem?, isSome_iff_exists] at h
  obtain ⟨position, hfound⟩ := h
  have hsame : ledger.positions.insert instrumentId
      (ledger.positionOf instrumentId) = ledger.positions := by
    rw [insert_eq_self_iff, positionOf, hfound]
    rfl
  rw [setPosition, hsame]

def bookRest (fill : Fill) (deltas : Deltas) : LedgerM Unit := do
  applyTaxLotFill fill
  let ledger ← Fallible.read
  let fees ← lift (ledger.fees.checkedAdd fill.fee)
  update (setFees fees)
  update (noteExecution fill.executionId)
  update (push (fillEntry fill deltas))

theorem keeps_positions_applyTaxLotFill (fill : Fill) :
    Keeps positions (applyTaxLotFill fill) := by
  intro ledger
  unfold Fallible.final
  rw [run_applyTaxLotFill]
  cases ledger.lotCall fill with
  | ok call => rfl
  | error e => rfl

theorem keeps_positions_bookRest (fill : Fill) (deltas : Deltas) :
    Keeps positions (bookRest fill deltas) := by
  apply Keeps.bind (keeps_positions_applyTaxLotFill fill)
  intro _
  apply Keeps.read_bind
  intro ledger
  apply Keeps.lift_bind
  intro fees
  refine Keeps.update_bind (fun _ => rfl) ?_
  refine Keeps.update_bind (fun _ => rfl) ?_
  exact Keeps.update fun _ => rfl

theorem returns_bookRest_iff : Returns (bookRest fill deltas)
        (setCash cash (setPosition instrumentId position ledger)) ↔
      (∃ call, ledger.lotCall fill = .ok call ∧
        (call.perform ledger.taxLots).1 = .ok ()) ∧
      Fits (ledger.fees.checkedAdd fill.fee) := by
  have hcall : (setCash cash (setPosition instrumentId position
      ledger)).lotCall fill = ledger.lotCall fill := rfl
  unfold bookRest
  rw [Fallible.returns_bind]
  simp only [run_applyTaxLotFill, hcall]
  cases ledger.lotCall fill with
  | error e => simp
  | ok call =>
    simp only [Except.ok.injEq, exists_eq_left']
    constructor
    · rintro ⟨u, ledger', hrun, hrest⟩
      obtain ⟨hperform, rfl⟩ := Prod.mk.inj hrun
      rw [Fallible.returns_read_bind, Fallible.returns_lift_bind] at hrest
      obtain ⟨fees, hfees, -⟩ := hrest
      exact ⟨hperform, fees, hfees⟩
    · rintro ⟨hperform, fees, hfees⟩
      refine ⟨(), _, Prod.ext hperform rfl, ?_⟩
      rw [Fallible.returns_read_bind, Fallible.returns_lift_bind]
      exact ⟨fees, hfees, by simp⟩

theorem restores_applyFill_iff : Restores ledger (applyFill fill) ledger ↔
      (Begins ledger fill → FillFits ledger fill) := by
  change Restores ledger (Fallible.read >>= fun ledger =>
    lift (ledger.checkFill fill) >>= fun _ =>
      bookPosition fill >>= bookRest fill) ledger ↔ _
  rw [restores_read_bind, restores_self_lift_bind]
  simp only [restores_bind]
  constructor
  · intro h hbegins
    have hquantity := quantity_pos_of_checkFill hbegins.checked
    obtain ⟨hbook, hrest⟩ := h () hbegins.checked
    cases hrun : (bookPosition fill).run ledger with
    | mk result booked =>
      cases result with
      | error e =>
        exfalso
        have hsame := hbook e booked hrun
        subst hsame
        obtain ⟨hguard, hrow⟩ | ⟨-, position, hne, hrow⟩ :=
          bookPosition_error hquantity hrun
        · have hmem := mem_of_setPosition_eq
            (congrArg positions hrow).symm
          exact hguard (hbegins.started hmem.1)
        · rw [(mem_of_setPosition_eq hrow.symm).2] at hne
          exact hne rfl
      | ok deltas =>
        have hreturns := hrest deltas booked hrun
        obtain ⟨position, cash, hbooked, rfl⟩ := bookPosition_eq_ok hrun
        have hne : (setCash cash (setPosition fill.instrumentId position
            ledger)).positions ≠ ledger.positions := by
          intro heq
          apply quantity_ne_of_booked hquantity hbooked
          rw [(mem_of_setPosition_eq heq).2]
        rw [(keeps_positions_bookRest fill deltas).restores_iff hne,
          returns_bookRest_iff] at hreturns
        exact ⟨fits_guard_of_bookPosition hrun,
          ⟨position, cash, deltas, hbooked⟩, hreturns.1, hreturns.2⟩
  · intro hfits u hchecked
    constructor
    · intro e ledger' hrun
      have hquantity := quantity_pos_of_checkFill hchecked
      obtain ⟨hguard, rfl⟩ | ⟨hguard, -⟩ := bookPosition_error hquantity hrun
      · by_cases hmem : fill.instrumentId ∈ ledger.positions
        · exact setPosition_positionOf hmem
        · exact absurd (hfits ⟨hchecked, fun h => absurd h hmem⟩).guard hguard
      · obtain ⟨position, cash, deltas, hbooked⟩ :=
          (hfits ⟨hchecked, fun _ => hguard⟩).booked
        rw [bookPosition_of_booked hguard hbooked] at hrun
        cases hrun
    · intro deltas booked hrun
      have hguard := fits_guard_of_bookPosition hrun
      have hall := hfits ⟨hchecked, fun _ => hguard⟩
      obtain ⟨position, cash, hbooked, rfl⟩ := bookPosition_eq_ok hrun
      apply Returns.restores
      exact returns_bookRest_iff.mpr ⟨hall.lots, hall.fees⟩

/-! ## Corporate actions -/

def SplitFits (ledger : BacktestLedger) (instrumentId : String)
    (position : LedgerPosition) (ratio : Decimal) : Prop :=
  ∀ book, ledger.taxLots.applySplit instrumentId ratio = .ok book →
    (Fits (position.quantity.checkedMul ratio) ∨ book = ledger.taxLots) ∧
      ∀ quantity, position.quantity.checkedMul ratio = .ok quantity →
        Fits (position.averageCost.checkedDiv ratio) ∨
          book = ledger.taxLots ∧ quantity = position.quantity

def DividendFits (ledger : BacktestLedger) (position : LedgerPosition)
    (amount : Decimal) : Prop :=
  ∀ cashDelta, position.quantity.checkedMul amount = .ok cashDelta →
    Fits (ledger.cash.checkedAdd cashDelta) → Fits (ledger.dividends.checkedAdd cashDelta)

def ActionFits (ledger : BacktestLedger) : CorporateAction → Prop
  | .split actionId instrumentId effectiveAt ratio =>
    ledger.checkAction (.split actionId instrumentId effectiveAt ratio) = .ok () →
      ∀ position, ledger.positions[instrumentId]? = some position →
        ledger.SplitFits instrumentId position ratio
  | .cashDividend actionId instrumentId effectiveAt amount =>
    ledger.checkAction (.cashDividend actionId instrumentId effectiveAt amount) = .ok () →
      ∀ position, ledger.positions[instrumentId]? = some position →
        ledger.DividendFits position amount

theorem fits_checkedSub_of_scaled {quantity scaled : Decimal}
    (hratio : 0 < ratio.scaled) (h : quantity.checkedMul ratio = .ok scaled) :
    Fits (scaled.checkedSub quantity) := by
  have hmax : i128Max = 170141183460469231731687303715884105727 := rfl
  have hmin : i128Min = -170141183460469231731687303715884105728 := rfl
  have hscaled := scaled.le_max
  have hscaled' := scaled.min_le
  have hquantity := quantity.le_max
  have hquantity' := quantity.min_le
  simp only [Decimal.checkedMul, bind_eq_ok, checked_eq_ok] at h
  obtain ⟨product, hproduct, hrounded⟩ := h
  have hscale : Decimal.scale = 100000000 := rfl
  rw [hscale] at hrounded
  have hproduct' := product.min_le
  rcases Int.lt_or_le quantity.scaled 0 with hneg | hnonneg
  · have hless : quantity.scaled * ratio.scaled ≤ quantity.scaled := by
      nlinarith
    have hcut : -scaled.scaled = (-product.scaled) / 100000000 := by
      rw [hrounded, ← Int.neg_tdiv, Int.tdiv_eq_ediv_of_nonneg (by omega)]
    exact Decimal.checked_ok _ (by omega) (by omega)
  · have hmore : 0 ≤ quantity.scaled * ratio.scaled :=
      Int.mul_nonneg hnonneg (Int.le_of_lt hratio)
    have hcut : scaled.scaled = product.scaled / 100000000 := by
      rw [hrounded, Int.tdiv_eq_ediv_of_nonneg (by omega)]
    exact Decimal.checked_ok _ (by omega) (by omega)

theorem setTaxLots_eq_self_iff {book : TaxLotBook} :
    setTaxLots book ledger = ledger ↔ book = ledger.taxLots := by
  constructor
  · intro h
    exact congrArg taxLots h
  · rintro rfl
    rfl

theorem restores_bookSplit_iff (hratio : 0 < ratio.scaled)
    (hfound : ledger.positions[instrumentId]? = some position) :
    Restores ledger (bookSplit instrumentId position ratio) ledger ↔
      ledger.SplitFits instrumentId position ratio := by
  unfold bookSplit SplitFits
  rw [restores_read_bind, restores_self_lift_bind]
  apply forall_congr'
  intro book
  apply imp_congr_right
  intro hbook
  rw [restores_update_bind, restores_lift_bind, setTaxLots_eq_self_iff]
  apply and_congr_right
  intro _
  apply forall_congr'
  intro quantity
  apply imp_congr_right
  intro hquantity
  rw [restores_update_bind, restores_lift_bind]
  have hsame : setPosition instrumentId { position with quantity }
      (setTaxLots book ledger) = ledger ↔
        book = ledger.taxLots ∧ quantity = position.quantity := by
    constructor
    · intro h
      have hrow := insert_eq_self_iff.mp (congrArg positions h)
      change ledger.positions[instrumentId]? = _ at hrow
      rw [hfound] at hrow
      have hposition := Option.some.inj hrow
      exact ⟨congrArg taxLots h, (congrArg LedgerPosition.quantity hposition).symm⟩
    · rintro ⟨rfl, rfl⟩
      have hrow := insert_eq_self_iff.mpr hfound
      rw [setPosition]
      change { ledger with
        positions := ledger.positions.insert instrumentId position } = ledger
      rw [hrow]
  rw [hsame, and_iff_left]
  intro averageCost haverage
  obtain ⟨delta, hdelta⟩ := fits_checkedSub_of_scaled hratio hquantity
  rw [restores_update_bind, hdelta]
  apply Returns.restores
  simp

theorem ratio_pos_of_checkAction {actionId effectiveAt : String}
    (h : ledger.checkAction (.split actionId instrumentId effectiveAt ratio)
      = .ok ()) : 0 < ratio.scaled := by
  simp only [checkAction, CorporateAction.validate, bind_eq_ok,
    refuseIf_eq_ok, CorporateAction.value, le_def,
    scaled_zero] at h
  obtain ⟨_, ⟨_, -, _, -, _, -, hratio⟩, -⟩ := h
  omega

theorem restores_bookDividend_iff {amount : Decimal} :
    Restores ledger (bookDividend position amount) ledger ↔
      ledger.DividendFits position amount := by
  unfold bookDividend DividendFits
  rw [restores_read_bind, restores_self_lift_bind]
  apply forall_congr'
  intro cashDelta
  apply imp_congr_right
  intro _
  rw [restores_self_lift_bind]
  constructor
  · rintro h ⟨cash, hcash⟩
    have hrest := h cash hcash
    rw [restores_update_bind, restores_lift_bind] at hrest
    obtain hfits | hsame := hrest.1
    · exact hfits
    · have hzero : cash = ledger.cash := congrArg BacktestLedger.cash hsame
      rw [checkedAdd_eq_ok, hzero] at hcash
      refine ⟨ledger.dividends, ?_⟩
      rw [checkedAdd_eq_ok]
      omega
  · intro h cash hcash
    obtain ⟨dividends, hdividends⟩ := h ⟨cash, hcash⟩
    rw [restores_update_bind, hdividends]
    apply Returns.restores
    simp

theorem restores_applyCorporateAction_iff {action : CorporateAction} :
    Restores ledger (applyCorporateAction action) ledger ↔
      ledger.ActionFits action := by
  unfold applyCorporateAction
  rw [restores_read_bind, restores_self_lift_bind]
  cases action with
  | split actionId instrumentId effectiveAt ratio =>
    unfold ActionFits
    constructor
    · intro h hchecked position hfound
      have hrest := h () hchecked
      simp only [CorporateAction.instrumentId, hfound,
        restores_bind] at hrest
      exact (restores_bookSplit_iff (ratio_pos_of_checkAction hchecked) hfound).mp hrest.1
    · intro h _ hchecked
      dsimp only [CorporateAction.instrumentId]
      cases hfound : ledger.positions[instrumentId]? with
      | none => simp
      | some position =>
        dsimp only
        rw [restores_bind]
        constructor
        · exact (restores_bookSplit_iff (ratio_pos_of_checkAction hchecked) hfound).mpr
              (h hchecked position hfound)
        · intro deltas booked _
          simp
  | cashDividend actionId instrumentId effectiveAt amount =>
    unfold ActionFits
    constructor
    · intro h hchecked position hfound
      have hrest := h () hchecked
      simp only [CorporateAction.instrumentId, hfound,
        restores_bind] at hrest
      exact restores_bookDividend_iff.mp hrest.1
    · intro h _ hchecked
      dsimp only [CorporateAction.instrumentId]
      cases hfound : ledger.positions[instrumentId]? with
      | none => simp
      | some position =>
        dsimp only
        rw [restores_bind]
        constructor
        · exact restores_bookDividend_iff.mpr (h hchecked position hfound)
        · intro deltas booked _
          simp

end BacktestLedger

end Follon.Backtest
