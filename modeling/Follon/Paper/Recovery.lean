import Follon.Accounting.LotMatching
import Follon.Foundation.Grouping
import Follon.Paper.Persistence

/-!
# What recovery accepts

Whatever a snapshot holds, the records recovered from it agree with one another.
-/

namespace Follon.Paper.Configuration

open Foundation Domain ControlPlane Accounting Std.ExtTreeSet

/-- Under its own id, its live broker id known, and not overfilled. -/
def Coherent (id : String) (order : PaperOrder) : Prop :=
  order.oms.orderId = id ∧ (∀ active ∈ order.brokerOrderId,
    active ∈ order.brokerOrderVersions) ∧ 0 ≤ order.filledQuantity.scaled ∧
    order.filledQuantity.scaled ≤ order.oms.intent.quantity.scaled

structure Recovered.Sound (config : Configuration) (recovered : Recovered) : Prop where
  orders : ∀ (id : String) order, recovered.books.orders[id]? = some order →
    Coherent id order
  approved : ∀ (id : String) order, recovered.books.orders[id]? = some order →
    ∃ evidence, recovered.evidence.riskEvidence[riskDecisionId
        order.oms.intent.intentId]? = some evidence ∧
      evidence.decision.approved = true ∧ evidence.intent = order.oms.intent ∧
      evidence.market = order.market ∧
      evidence.decision.policyVersion = config.riskPolicy.version
  combos : ∀ (id : String) order, recovered.books.comboOrders[id]? = some order →
    order.oms.orderId = id ∧ order.lifecycleDisagrees = false
  receipts : (allReceiptIds recovered.books.comboOrders).Nodup ∧
    ∀ id ∈ allReceiptIds recovered.books.comboOrders, id ∈ recovered.books.executionIds
  lots : recovered.books.taxLots.Sound

variable {config : Configuration} {id : String}

theorem restoreOrder_ok {persisted : PersistentOrder} {order : PaperOrder}
    (h : config.restoreOrder id persisted = .ok order) : Coherent id order := by
  simp only [restoreOrder, checkVersions, OmsOrder.recover, bind_eq_ok, checkAll_eq_ok,
    refuseIf_eq_ok, pure_eq_ok, not_or, not_not, lt_def, scaled_zero, not_lt] at h
  obtain ⟨intent, -, -, -, _, ⟨-, -, -, -, hactive⟩, filled, -, _, hfilled, _, -, -, -,
    _, -, _, ⟨_, -, _, -, -, -, rfl⟩, _, -, _, -, rfl⟩ := h
  exact ⟨rfl, fun active h => hactive active (Option.mem_toList.mpr h), hfilled⟩

theorem restoreCombo_ok {persisted : PersistentComboOrder} {order : PaperComboOrder}
    (h : config.restoreCombo id persisted = .ok order) :
    order.oms.orderId = id ∧ order.lifecycleDisagrees = false := by
  simp only [restoreCombo, OmsComboOrder.recover, PaperComboOrder.restoreExecutions,
    bind_eq_ok, refuseIf_eq_ok, pure_eq_ok] at h
  obtain ⟨intent, -, -, -, -, -, market, -, -, -, _, -, _, ⟨-, -, -, -, -, -, rfl⟩, filled,
    hfilled, -, hagrees, rfl⟩ := h
  refine ⟨?_, eq_false_of_ne_true hagrees⟩
  unfold PaperComboOrder.withExecutions at hfilled
  split at hfilled
  · rw [← pure_eq_ok.mp hfilled]
  · simp only [bind_eq_ok, pure_eq_ok] at hfilled
    obtain ⟨-, -, _, -, -, -, _, -, -, -, rfl⟩ := hfilled
    rfl

theorem checkReceipts_ok {executionIds : OrderedSet String} {seen ids : List String}
    (h : checkReceipts executionIds seen ids = .ok ()) :
    ids.Nodup ∧ ∀ id ∈ ids, id ∈ executionIds ∧ id ∉ seen := by
  induction ids generalizing seen with
  | nil => exact ⟨List.nodup_nil, List.forall_mem_nil _⟩
  | cons id ids ih =>
    simp only [checkReceipts, bind_eq_ok, refuseIf_eq_ok, not_or, not_not] at h
    obtain ⟨-, hid, h⟩ := h
    obtain ⟨hnodup, hrest⟩ := ih h
    refine ⟨nodup_cons.mpr ⟨fun hmem => (hrest id hmem).2 mem_cons_self, hnodup⟩, ?_⟩
    exact forall_mem_cons.mpr ⟨hid, fun other hother =>
      ⟨(hrest other hother).1, fun hseen => (hrest other hother).2 (mem_cons_of_mem _ hseen)⟩⟩

theorem matchEvidence_ok {riskEvidence : OrderedMap String PaperRiskEvidence}
    {order : PaperOrder} (h : matchEvidence riskEvidence order = .ok ()) :
    ∃ evidence, riskEvidence[riskDecisionId order.oms.intent.intentId]? = some evidence ∧
      evidence.decision.approved = true ∧ evidence.intent = order.oms.intent ∧
      evidence.market = order.market := by
  unfold matchEvidence at h
  split at h
  · contradiction
  · next evidence hevidence =>
    simp only [refuseIf_eq_ok, not_or, not_not, not_eq_false] at h
    exact ⟨evidence, hevidence, h⟩

/-- For every snapshot. -/
structure RecoversSoundly (config : Configuration) : Prop where
  sound : ∀ version cash state recovered,
    config.recover version cash state = .ok recovered → recovered.Sound config

theorem recovers_soundly (config : Configuration) : config.RecoversSoundly where
  sound := by
    intro version cash state recovered h
    simp only [recover, restoreTaxLots, bind_eq_ok, checkAll_eq_ok, pure_eq_ok] at h
    obtain ⟨orders, horders, riskEvidence, hrisk, -, hmatch, combos, hcombos, _, -, -, -,
      _, -, lots, ⟨_, -, _, -, _, -, _, -, hlots⟩, ids, -, _, hreceipts, _, -, _, -, _, -, _,
      -, -, -, _, -, _, -, _, -, _, -, -, -, -, -, -, -, _, -, -, -, -, -, _, -, _, -, rfl⟩ := h
    obtain ⟨hnodup, hheld⟩ := checkReceipts_ok hreceipts
    constructor
    · intro id order hfound
      obtain ⟨_, -, hpersisted⟩ := (OrderedMap.getElem?_traverse horders).mp hfound
      exact restoreOrder_ok hpersisted
    · intro id order hfound
      obtain ⟨evidence, hevidence, happroved, hintent, hmarket⟩ :=
        matchEvidence_ok (hmatch order (OrderedMap.mem_values.mpr ⟨id, hfound⟩))
      obtain ⟨_, -, hpolicy⟩ := (OrderedMap.getElem?_traverse hrisk).mp hevidence
      simp only [restoreEvidence, bind_eq_ok, refuseIf_eq_ok, pure_eq_ok, not_or,
        not_not] at hpolicy
      obtain ⟨-, -, _, -, -, -, -, ⟨hpolicy, -⟩, rfl⟩ := hpolicy
      exact ⟨_, hevidence, happroved, hintent, hmarket, hpolicy⟩
    · intro id order hfound
      obtain ⟨_, -, hpersisted⟩ := (OrderedMap.getElem?_traverse hcombos).mp hfound
      exact restoreCombo_ok hpersisted
    · exact ⟨hnodup, fun id hmem => (hheld id hmem).1⟩
    · exact TaxLotBook.sound_of_recover hlots

/-! ## Kill switches -/

theorem restoreSwitches_asKey {scopes : List KillSwitchScope}
    (h : ∀ scope ∈ scopes, scope.validate = .ok ()) (registry : KillSwitchRegistry) :
    restoreSwitches registry (scopes.map (·.asKey)) =
      .ok { registry with active := scopes.foldl (·.insert ·) registry.active } := by
  induction scopes generalizing registry with
  | nil => rfl
  | cons scope rest ih =>
    obtain ⟨hscope, hrest⟩ := forall_mem_cons.mp h
    exact bind_eq_ok.mpr ⟨scope, KillSwitchScope.fromKey_asKey hscope, bind_eq_ok.mpr
      ⟨_, bind_eq_ok.mpr ⟨(), hscope, rfl⟩, ih hrest _⟩⟩

theorem switches_survive (registry : KillSwitchRegistry)
    (h : ∀ scope ∈ registry.active, scope.validate = .ok ()) :
    restoreSwitches ⟨registry.version, ∅⟩ registry.activeKeys = .ok registry := by
  rw [KillSwitchRegistry.activeKeys, restoreSwitches_asKey fun scope hscope =>
    h scope (mem_toList.mp hscope)]
  have hsame : registry.active.toList.foldl (·.insert ·) ∅ = registry.active := by
    refine ext_mem fun scope => ?_
    rw [← ofList_eq_foldl, mem_ofList,
      List.contains_iff_mem, mem_toList]
  rw [hsame]

theorem switches_survive_global :
    restoreSwitches ⟨"1", ∅⟩ (KillSwitchRegistry.activeKeys ⟨"1", {.global}⟩)
      = .ok ⟨"1", {.global}⟩ :=
  switches_survive ⟨"1", {.global}⟩ fun _ h => by
    obtain rfl : KillSwitchScope.global = _ := by simpa [singleton_eq_insert] using h
    rfl

/-! ## Saving again -/

theorem unsigned_ne_min {source unsigned : List Char} {negative : Bool} {d : Decimal}
    (h : Decimal.parseUnsigned source negative unsigned = .ok d) : d.scaled ≠ i128Min := by
  simp only [Decimal.parseUnsigned, Decimal.parseDigits, bind_eq_ok, checked_eq_ok] at h
  obtain ⟨-, -, -, -, _, hwhole, _, hfraction, _, hscaled, sum, hsum, hd⟩ := h
  have hmax := sum.le_max
  have hmin : i128Min + i128Max = -1 := rfl
  split_ifs at hwhole hfraction hd <;> cases hwhole <;> cases hfraction <;>
    simp only [Decimal.scale, i128Max] at * <;> omega

theorem decimal_again {name text : String} {d : Decimal} (h : decimal name text = .ok d)
    (other : String) : decimal other d.display = .ok d := by
  have hmin : d.scaled ≠ i128Min := by
    unfold decimal at h
    split at h
    · next _ hparse =>
      rw [← Except.ok.inj h]
      simp only [Decimal.parse, Decimal.parseChars] at hparse
      split at hparse
      · contradiction
      all_goals exact unsigned_ne_min hparse
    · contradiction
  rw [decimal, Decimal.parse_display_iff.mpr hmin]

theorem toIntent_again {persisted : PersistentIntent} {intent : OrderIntent}
    (h : persisted.toIntent = .ok intent) :
    (PersistentIntent.ofIntent intent).toIntent = .ok intent := by
  simp only [PersistentIntent.toIntent, bind_eq_ok, pure_eq_ok] at h
  obtain ⟨_, -, _, hquantity, _, -, limitPrice, hlimit, _, -, _, hvalid, rfl⟩ := h
  have hlimit : PersistentIntent.parseOptional "persisted intent limit price"
      (limitPrice.map Decimal.display) = .ok limitPrice := by
    unfold PersistentIntent.parseOptional at hlimit
    split at hlimit
    · rw [← pure_eq_ok.mp hlimit]
      rfl
    · simp only [bind_eq_ok, pure_eq_ok] at hlimit
      obtain ⟨_, hparsed, rfl⟩ := hlimit
      exact bind_eq_ok.mpr ⟨_, decimal_again hparsed _, rfl⟩
  simp only [PersistentIntent.toIntent, PersistentIntent.ofIntent, bind_eq_ok]
  exact ⟨_, parseSide_asStr _ _, _, decimal_again hquantity _, _, parseOrderType_asStr _, _,
    hlimit, _, parseTimeInForce_asStr _ _, _, hvalid, rfl⟩

/-- The record written from a restored order restores to it. -/
theorem restoreOrder_again (config : Configuration) (id : String)
    (persisted : PersistentOrder) :
    (do
      let order ← config.restoreOrder id persisted
      config.restoreOrder id (.ofOrder order)) = config.restoreOrder id persisted := by
  cases h : config.restoreOrder id persisted with
  | error => rfl
  | ok order =>
    show config.restoreOrder id (.ofOrder order) = .ok order
    simp only [restoreOrder, PersistentMarketData.toMarket, OmsOrder.recover, bind_eq_ok,
      pure_eq_ok] at h
    obtain ⟨_, hintent, _, haccount, _, hversions, _, hfilled, _, hrange, _,
      ⟨_, hmark, _, hmarket, rfl⟩, _, hinstrument, _, -, _, ⟨_, hvalid, _, hid, _, hsame, rfl⟩,
      returnState, -, _, hreturn, rfl⟩ := h
    have hknown : ∀ active versions, knownVersions active (knownVersions active versions)
        = knownVersions active versions := by
      intro active versions
      cases active <;> cases versions <;> rfl
    have hstate : parseReturnState (returnState.map OrderState.asStr) = .ok returnState := by
      cases returnState with
      | none => rfl
      | some state => exact bind_eq_ok.mpr ⟨state, parseOrderState_asStr state, rfl⟩
    simp only [restoreOrder, PersistentOrder.ofOrder, PersistentMarketData.ofMarket,
      PersistentMarketData.toMarket, OmsOrder.recover, hknown, bind_eq_ok, pure_eq_ok]
    exact ⟨_, toIntent_again hintent, _, haccount, _, hversions, _, decimal_again hfilled _, _,
      hrange, _, ⟨_, decimal_again hmark _, _, hmarket, rfl⟩, _, hinstrument, _,
      parseOrderState_asStr _, _, ⟨_, hvalid, _, hid, _, hsame, rfl⟩, _, hstate, _, hreturn, rfl⟩


end Follon.Paper.Configuration
