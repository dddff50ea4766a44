import Follon.Foundation.KeyedRows
import Follon.Foundation.MapTotals
import Follon.Paper.Lockstep
import Follon.Paper.OrderSteps

/-!
# Atomic combinations

A combination fills in whole units, so its legs are accounted in their ratio,
its receipts add up to its fill, and no identity is accounted twice.
-/

namespace Follon.Paper

open Foundation Domain ControlPlane Accounting

/-! ## Bookkeeping -/

namespace PaperComboOrder

structure Reclassified (order order' : PaperComboOrder) : Prop where
  intent : order'.oms.intent = order.oms.intent
  filled : order'.filledQuantity = order.filledQuantity
  executions : order'.executions = order.executions
  evidence : order'.evidenceError = none → order.evidenceError = none
  state : order'.evidenceError = none →
    (order'.oms.state = .filled ↔ order.oms.state = .filled)

namespace Reclassified

variable {order order' order'' : PaperComboOrder}

theorem refl (order : PaperComboOrder) : Reclassified order order :=
  ⟨rfl, rfl, rfl, id, fun _ => Iff.rfl⟩

theorem trans (h : Reclassified order order')
    (h' : Reclassified order' order'') : Reclassified order order'' where
  intent := h'.intent.trans h.intent
  filled := h'.filled.trans h.filled
  executions := h'.executions.trans h.executions
  evidence := fun hclean => h.evidence (h'.evidence hclean)
  state := fun hclean =>
    (h'.state hclean).trans (h.state (h'.evidence hclean))

theorem inState {state : OrderState} (hopen : order.oms.state ≠ .filled)
    (hstate : state ≠ .filled) : Reclassified order (order.inState state) :=
  ⟨rfl, rfl, rfl, id, fun _ => iff_of_false hstate hopen⟩

end Reclassified

def Bookkeeping (x : ComboM Unit) : Prop :=
  ∀ order order', x.run order = (.ok (), order') → Reclassified order order'

variable {state : OrderState}

theorem not_filled_of_isValidTransition {next : OrderState}
    (h : isValidTransition state next = true) : state ≠ .filled := by
  rintro rfl
  cases next <;> simp [isValidTransition] at h

namespace Bookkeeping

theorem pure : Bookkeeping (pure ()) := by
  rintro order _ hrun
  obtain rfl := (Prod.mk.inj hrun).2
  exact .refl order

theorem move {next : OrderState} (hnext : next ≠ .filled) (reason : String) :
    Bookkeeping (move next reason) := by
  intro order order' hrun
  cases hvalid : isValidTransition order.oms.state next with
  | true =>
    rw [move_ok hvalid] at hrun
    obtain rfl := (Prod.mk.inj hrun).2
    exact .inState (not_filled_of_isValidTransition hvalid) hnext
  | false =>
    obtain ⟨e, herror⟩ := @move_error order next hvalid reason
    rw [herror] at hrun
    cases hrun

variable {f : Unit → ComboM Unit}

variable {x : ComboM Unit}

theorem bind (hx : Bookkeeping x) (hf : Bookkeeping (f ())) : Bookkeeping (x >>= f) := by
  intro order order'' hrun
  obtain ⟨_, order', hfirst, hrest⟩ := run_bind_eq_ok.mp hrun
  exact (hx order order' hfirst).trans (hf order' order'' hrest)

theorem read {f : PaperComboOrder → ComboM Unit}
    (hf : ∀ order, Bookkeeping (f order)) : Bookkeeping (Fallible.read >>= f) :=
  fun order order' hrun => hf order order order' hrun

theorem lift {result : Result Unit} (hf : Bookkeeping (f ()))
    : Bookkeeping (Fallible.lift result >>= f) := by
  intro order order' hrun
  obtain ⟨_, -, hrest⟩ := run_lift_bind_eq_ok.mp hrun
  exact hf order order' hrest

theorem ite {condition : Prop} [Decidable condition] {y : ComboM Unit}
    (hx : Bookkeeping x) (hy : Bookkeeping y) :
    Bookkeeping (if condition then x else y) := by
  split
  · exact hx
  · exact hy

theorem noteBrokerId (brokerId : String) (hf : Bookkeeping (f ())) :
    Bookkeeping (update (·.noteBrokerId brokerId) >>= f) := by
  intro order order' hrun
  have hnoted : Reclassified order (order.noteBrokerId brokerId) :=
    ⟨rfl, rfl, rfl, id, fun _ => Iff.rfl⟩
  exact hnoted.trans (hf _ order' hrun)

end Bookkeeping

theorem workingState_ne_filled (order : PaperComboOrder) :
    order.workingState ≠ .filled := by
  unfold workingState
  split <;> decide

theorem leavePendingSubmit_bookkeeping (reason : String) :
    Bookkeeping (leavePendingSubmit reason) :=
  .read fun _ => .ite (.move (by decide) reason) .pure

theorem confirmWorking_bookkeeping : Bookkeeping confirmWorking :=
  .read fun order => .ite (.move order.workingState_ne_filled _) .pure

theorem acknowledge_bookkeeping (brokerId : String) :
    Bookkeeping (acknowledge brokerId) :=
  .lift (.read fun _ => .lift (.noteBrokerId brokerId
    (.ite .pure (.bind (leavePendingSubmit_bookkeeping _) confirmWorking_bookkeeping))))

theorem applyCancelRejected_bookkeeping (reason : String) :
    Bookkeeping (applyCancelRejected reason) :=
  .read fun order => .ite (.move order.workingState_ne_filled reason) .pure

theorem finishAs_bookkeeping (hstate : state ≠ .filled) (reason : String)
    : Bookkeeping (finishAs reason state) :=
  .read fun _ => .ite .pure
    (.bind (leavePendingSubmit_bookkeeping reason) (.move hstate reason))

theorem confirmExecution_bookkeeping (brokerOrderId : String) :
    Bookkeeping (confirmExecution brokerOrderId) :=
  .bind (.read fun _ => .ite (.move (by decide) _) .pure)
    (acknowledge_bookkeeping brokerOrderId)

theorem handler_bookkeeping {event : BrokerEvent} {x : ComboM Unit}
    (h : ComboHandler event x) : Bookkeeping x := by
  cases h with
  | acknowledged clientOrderId brokerOrderId =>
    exact acknowledge_bookkeeping brokerOrderId
  | cancelRejected clientOrderId reason =>
    exact applyCancelRejected_bookkeeping reason
  | cancelled clientOrderId reason =>
    exact finishAs_bookkeeping (by decide) reason
  | expired clientOrderId reason =>
    exact finishAs_bookkeeping (by decide) reason
  | rejected clientOrderId reason =>
    exact finishAs_bookkeeping (by decide) reason

variable {order order' : PaperComboOrder}

theorem Reclassified.move (h : ComboMove order order') : Reclassified order order' := by
  have hopen : ∀ {state}, isPendingState state = true → state ≠ .filled := by
    rintro _ hstate rfl
    cases hstate
  cases h with
  | accepted hstate =>
    exact ⟨rfl, rfl, rfl, id, fun _ =>
      iff_of_false (by decide : OrderState.acknowledged ≠ .filled)
        (by rw [hstate]; decide)⟩
  | rejected hstate =>
    exact .inState (by rw [hstate]; decide) (by decide)
  | lost hstate => exact .inState (hopen hstate) (by decide)

theorem Reclassified.flagged {error : String}
    (h : (noteAnomaly error).run order = (.ok (), order')) :
    Reclassified order order' := by
  rcases order.noteAnomaly_cases error with
    ⟨-, hrun⟩ | ⟨-, hrun⟩ | ⟨-, -, -, e, hrun⟩ <;> rw [hrun] at h
  · obtain rfl := (Prod.mk.inj h).2
    exact ⟨rfl, rfl, rfl, nofun, nofun⟩
  · obtain rfl := (Prod.mk.inj h).2
    exact ⟨rfl, rfl, rfl, nofun, nofun⟩
  · cases h

theorem change_cases {orderId : String} (h : ComboChange orderId order order') :
    Reclassified order order' ∨ ∃ execution total, execution.clientOrderId = orderId ∧
        ComboExecuted order execution total order' := by
  cases h with
  | moved h => exact .inl (.move h)
  | cancelling hstate =>
    refine .inl (.inState ?_ (by decide))
    intro hfilled
    rw [hfilled] at hstate
    cases hstate
  | handled hhandler hrun =>
    exact .inl (handler_bookkeeping hhandler _ _ hrun)
  | executed hid h => exact .inr ⟨_, _, hid, h⟩
  | flagged hnote => exact .inl (.flagged hnote)
  | marked => exact .inl ⟨rfl, rfl, rfl, nofun, nofun⟩

end PaperComboOrder

/-! ## Legs of an execution -/

namespace BrokerComboExecution

def quantityOf (execution : BrokerComboExecution) (instrumentId : String) : Int :=
  ((execution.legs.filter fun leg => leg.instrumentId = instrumentId).map
    (·.quantity.scaled)).sum

structure ValidLegs (intent : ComboIntent) (units : Decimal)
    (instruments : List String) (legs : List BrokerComboExecutionLeg) :
    Prop where
  distinct : (legs.map (·.instrumentId)).Nodup
  new : ∀ leg ∈ legs, leg.instrumentId ∉ instruments
  approved : ∀ leg ∈ legs, ∃ approved,
    (intent.legs.find? fun approved =>
        approved.instrumentId == leg.instrumentId) = some approved ∧
      leg.quantity.scaled = units.scaled * approved.ratio

variable {units : Decimal} {u : Unit}

theorem scaled_of_ratio {ratio quantity : Decimal} {n : Nat}
    (hratio : Decimal.fromInteger n = .ok ratio)
    (h : units.checkedMul ratio = .ok quantity) : quantity.scaled = units.scaled * n := by
  rw [Decimal.fromInteger, checked_eq_ok] at hratio
  rw [scaled_of_checkedMul h, hratio, ← mul_assoc,
    Int.mul_tdiv_cancel _ (by decide)]

variable {intent : ComboIntent}

theorem validLegs_of_validateLegs {instruments ids : List String}
    {legs : List BrokerComboExecutionLeg}
    (h : validateLegs intent units instruments ids legs = .ok u) :
    ValidLegs intent units instruments legs := by
  induction legs generalizing instruments ids with
  | nil => exact ⟨by simp, by simp, by simp⟩
  | cons leg legs ih =>
    simp only [validateLegs, bind_eq_ok] at h
    obtain ⟨_, -, _, -, h⟩ := h
    split at h
    · contradiction
    · next approved hfind =>
        simp only [bind_eq_ok, refuseIf_eq_ok, exists_const, not_or,
          Decidable.not_not] at h
        obtain ⟨⟨hnew, -, -⟩, ratio, hratio, quantity, hquantity,
          ⟨hsame, -, -⟩, hrest⟩ := h
        have hlegs := ih hrest
        refine ⟨?_, ?_, ?_⟩
        · rw [map_cons, nodup_cons]
          refine ⟨?_, hlegs.distinct⟩
          intro hmem
          obtain ⟨other, hother, hsame⟩ := mem_map.mp hmem
          exact hlegs.new other hother (hsame ▸ mem_cons_self)
        · rw [forall_mem_cons]
          exact ⟨hnew, fun other hother hmem =>
            hlegs.new other hother (mem_cons_of_mem _ hmem)⟩
        · rw [forall_mem_cons]
          refine ⟨⟨approved, hfind, ?_⟩, hlegs.approved⟩
          rw [hsame]
          exact scaled_of_ratio hratio hquantity

theorem distinct_of_validateLegs {seen : List String} {legs : List ComboIntentLeg}
    (h : ComboIntent.validateLegs seen legs = .ok u) : (legs.map (·.instrumentId)).Nodup ∧
      ∀ leg ∈ legs, leg.instrumentId ∉ seen := by
  induction legs generalizing seen with
  | nil => simp
  | cons leg legs ih =>
    simp only [ComboIntent.validateLegs, bind_eq_ok, refuseIf_eq_ok,
      exists_const] at h
    obtain ⟨_, -, hnew, -, -, hrest⟩ := h
    obtain ⟨hdistinct, hfree⟩ := ih hrest
    refine ⟨?_, ?_⟩
    · rw [map_cons, nodup_cons]
      refine ⟨?_, hdistinct⟩
      intro hmem
      obtain ⟨other, hother, hsame⟩ := mem_map.mp hmem
      apply hfree other hother
      rw [hsame]
      exact mem_append_right _ (mem_singleton.mpr rfl)
    · rw [forall_mem_cons]
      exact ⟨hnew, fun other hother hmem =>
        hfree other hother (mem_append_left _ hmem)⟩

theorem distinct_of_validate (h : intent.validate = .ok ()) :
    (intent.legs.map (·.instrumentId)).Nodup := by
  simp only [ComboIntent.validate, bind_eq_ok] at h
  obtain ⟨_, -, _, -, _, -, _, -, _, -, _, -, _, -, _, hlegs, -⟩ := h
  exact (distinct_of_validateLegs hlegs).1

theorem quantityOf_leg {execution : BrokerComboExecution}
    (hintent : intent.validate = .ok ())
    (h : execution.validate intent = .ok ()) {leg : ComboIntentLeg}
    (hleg : leg ∈ intent.legs) : execution.quantityOf leg.instrumentId
      = execution.units.scaled * leg.ratio := by
  have hdistinct := distinct_of_validate hintent
  simp only [validate, bind_eq_ok, refuseIf_eq_ok, exists_const, not_or,
    Decidable.not_not] at h
  obtain ⟨_, -, _, -, _, -, ⟨-, -, hlength⟩, hlegs⟩ := h
  have hvalid := validLegs_of_validateLegs hlegs
  -- distinct instruments of the intent, as many as it has legs: all of them
  have hsubset : ∀ instrumentId ∈ execution.legs.map (·.instrumentId),
      instrumentId ∈ intent.legs.map (·.instrumentId) := by
    intro instrumentId hmem
    obtain ⟨filled, hfilled, rfl⟩ := mem_map.mp hmem
    obtain ⟨approved, hfind, -⟩ := hvalid.approved filled hfilled
    obtain ⟨hmem, hsame⟩ := (KeyedRows.find?_eq_some hdistinct).mp hfind
    exact mem_map.mpr ⟨approved, hmem, hsame⟩
  have hperm := (List.subperm_of_subset hvalid.distinct
    hsubset).perm_of_length_le (by simp [hlength])
  have hmem : leg.instrumentId ∈ execution.legs.map (·.instrumentId) :=
    hperm.mem_iff.mpr (mem_map_of_mem hleg)
  obtain ⟨filled, hfilled, hsame⟩ := mem_map.mp hmem
  obtain ⟨approved, hfind, hquantity⟩ := hvalid.approved filled hfilled
  rw [hsame, (KeyedRows.find?_eq_some hdistinct).mpr ⟨hleg, rfl⟩,
    Option.some.injEq] at hfind
  rw [quantityOf, ← hsame, KeyedRows.filter_eq_singleton hvalid.distinct hfilled, hfind]
  simpa using hquantity

end BrokerComboExecution

/-! ## Atomic fills -/

namespace PaperComboOrder

def accounted (order : PaperComboOrder) (instrumentId : String) : Int :=
  order.executions.total (·.quantityOf instrumentId)

structure Atomic (order : PaperComboOrder) : Prop where
  legs : ∀ leg ∈ order.oms.intent.legs,
    order.accounted leg.instrumentId = order.filledQuantity.scaled * leg.ratio
  units : order.filledQuantity.scaled = order.executions.total (·.units.scaled)
  bounded : order.filledQuantity ≤ order.oms.intent.comboQuantity
  completed : order.evidenceError = none → (order.oms.state = .filled ↔
      order.filledQuantity = order.oms.intent.comboQuantity)

namespace Atomic

variable {order order' : PaperComboOrder}

theorem reclassified (h : order.Atomic) (hkeeps : Reclassified order order') :
    order'.Atomic := by
  refine ⟨?_, ?_, ?_, ?_⟩
  · simp only [accounted, hkeeps.intent, hkeeps.filled, hkeeps.executions]
    exact h.legs
  · rw [hkeeps.filled, hkeeps.executions]
    exact h.units
  · rw [hkeeps.filled, hkeeps.intent]
    exact h.bounded
  · intro hclean
    rw [hkeeps.filled, hkeeps.intent, hkeeps.state hclean]
    exact h.completed (hkeeps.evidence hclean)

theorem created {s : ServiceRecord} {orderId : String}
    (h : ComboCreated s orderId order) :
    order.Atomic ∧ order.oms.intent.validate = .ok () := by
  obtain ⟨-, intent, market, decidedAt, submittedBy, decision, request,
    admitted, -, horder, -⟩ := h
  obtain ⟨homs, hfresh, -⟩ := of_pendingCombo horder
  have hintent : order.oms.intent = intent := by rw [homs]
  have hstate : order.oms.state = .pendingSubmit := by rw [homs]
  have hpositive : 0 < intent.comboQuantity.scaled := by
    have hvalid := admitted.validIntent
    simp only [ComboIntent.validate, bind_eq_ok, refuseIf_eq_ok, exists_const,
      not_or, le_def, scaled_zero, not_le] at hvalid
    obtain ⟨_, -, _, -, _, -, _, -, _, -, ⟨hpositive, -⟩, -⟩ := hvalid
    exact hpositive
  refine ⟨⟨?_, ?_, ?_, ?_⟩, hintent ▸ admitted.validIntent⟩
  · simp [accounted, hfresh.executions, hfresh.filled]
  · simp [hfresh.executions, hfresh.filled]
  · rw [hfresh.filled, hintent, le_def, scaled_zero]
    exact hpositive.le
  · intro _
    rw [hstate, hfresh.filled, hintent]
    refine iff_of_false (by decide) fun hzero => ?_
    rw [← hzero, scaled_zero] at hpositive
    exact lt_irrefl _ hpositive

end Atomic

variable {order order' : PaperComboOrder} {total : Decimal}

theorem concludeUnits_eq_ok {u : Unit}
    (h : (concludeUnits total).run order = (.ok u, order')) :
    ∃ state, order' = order.inState state ∧ (order.evidenceError = none →
        (state = .filled ↔ total = order.oms.intent.comboQuantity ∨
          order.oms.state = .filled)) := by
  rw [concludeUnits, run_read_bind] at h
  have hmoved : ∀ {next : OrderState} {reason : String},
      (move next reason).run order = (.ok u, order') →
        order' = order.inState next := by
    intro next reason hrun
    cases hvalid : isValidTransition order.oms.state next with
    | true =>
      rw [move_ok hvalid] at hrun
      exact (Prod.mk.inj hrun).2.symm
    | false =>
      obtain ⟨e, herror⟩ := @move_error order next hvalid reason
      rw [herror] at hrun
      cases hrun
  split at h
  · next hflagged =>
      obtain rfl := (Prod.mk.inj h).2
      exact ⟨_, rfl, fun hclean => absurd hclean hflagged⟩
  · split at h
    · next hfull => exact ⟨_, hmoved h, fun _ => iff_of_true rfl (.inl hfull)⟩
    · next hpart =>
        split at h
        · next hstate =>
            refine ⟨_, hmoved h, fun _ => iff_of_false (by decide) ?_⟩
            rw [hstate]
            simpa using hpart
        · obtain rfl := (Prod.mk.inj h).2
          exact ⟨_, rfl, fun _ => by simp [hpart]⟩

theorem recordExecution_eq_ok {execution : BrokerComboExecution}
    (h : (recordExecution total execution).run order = (.ok (), order')) :
    order'.oms.intent = order.oms.intent ∧ order'.filledQuantity = total ∧
      order'.executions = order.executions.insert execution.executionId execution ∧
      order'.evidenceError = order.evidenceError ∧
      (order.evidenceError = none → (order'.oms.state = .filled ↔
          total = order.oms.intent.comboQuantity ∨
            order.oms.state = .filled)) := by
  rw [recordExecution, run_update_bind] at h
  obtain ⟨_, concluded, hconclude, h⟩ := run_bind_eq_ok.mp h
  obtain ⟨state, rfl, hstate⟩ := concludeUnits_eq_ok hconclude
  obtain rfl := (Prod.mk.inj h).2
  exact ⟨rfl, rfl, rfl, rfl, hstate⟩

theorem Atomic.executed {order order' : PaperComboOrder}
    {execution : BrokerComboExecution} {total : Decimal} (h : order.Atomic)
    (hintent : order.oms.intent.validate = .ok ())
    (hexecuted : ComboExecuted order execution total order') :
    order'.Atomic ∧ order'.oms.intent = order.oms.intent ∧ order'.executions
        = order.executions.insert execution.executionId execution := by
  obtain ⟨hvalid, hnew, htotal, hfits, confirmed, hconfirm, hrecord⟩ :=
    hexecuted
  have hkeeps := confirmExecution_bookkeeping _ _ _ hconfirm
  obtain ⟨hsame, hfilled, hexecutions, hevidence, hstate⟩ :=
    recordExecution_eq_ok hrecord
  rw [hkeeps.intent] at hsame hstate
  rw [hkeeps.executions] at hexecutions
  rw [checkedAdd_eq_ok] at htotal
  rw [lt_def, not_lt, ← le_def] at hfits
  have hpositive : 0 < execution.units.scaled := by
    simp only [BrokerComboExecution.validate, bind_eq_ok, refuseIf_eq_ok,
      exists_const, not_or, le_def, scaled_zero,
      not_le] at hvalid
    obtain ⟨_, -, _, -, _, -, ⟨hpositive, -⟩, -⟩ := hvalid
    exact hpositive
  refine ⟨⟨?_, ?_, ?_, ?_⟩, hsame, hexecutions⟩
  · rw [hsame, hfilled, htotal]
    intro leg hleg
    rw [accounted, hexecutions, OrderedMap.total_insert, hnew,
      BrokerComboExecution.quantityOf_leg hintent hvalid hleg, add_mul, ← h.legs leg hleg]
    simp [accounted]
  · rw [hfilled, htotal, hexecutions, OrderedMap.total_insert, hnew, h.units]
    simp
  · rw [hfilled, hsame]
    exact hfits
  · intro hclean
    rw [hevidence] at hclean
    rw [hfilled, hsame, hstate hclean]
    refine ⟨?_, .inl⟩
    rintro (hfull | hstate)
    · exact hfull
    · -- a filled combination has no room for another unit
      have hprior := (hkeeps.state hclean).mp hstate
      have hwhole := (h.completed (hkeeps.evidence hclean)).mp hprior
      rw [le_def, htotal, ← hwhole] at hfits
      omega

end PaperComboOrder

variable {may : Allowance} {s : ServiceRecord} {books : Books}

theorem reachable_atomic (hs : ReachableRecord may s) {orderId : String}
    {order : PaperComboOrder} (hfind : s.comboOrders[orderId]? = some order) :
    order.Atomic ∧ order.oms.intent.validate = .ok () := by
  induction hs generalizing orderId order with
  | init h =>
    cases h
    simp [startRecord, PaperTradingService.emptyBooks] at hfind
  | step _ hstep ih =>
    rcases hstep.combo hfind with hcreated | hsame | ⟨prior, hprior, hchange⟩
    · exact PaperComboOrder.Atomic.created hcreated
    · exact ih hsame
    · obtain ⟨hatomic, hintent⟩ := ih hprior
      rcases PaperComboOrder.change_cases hchange with
        hkeeps | ⟨execution, total, -, hexecuted⟩
      · exact ⟨hatomic.reclassified hkeeps, hkeeps.intent ▸ hintent⟩
      · obtain ⟨hafter, hsame, -⟩ := hatomic.executed hintent hexecuted
        exact ⟨hafter, hsame ▸ hintent⟩

/-! ## Receipts -/

def PaperComboOrder.receipts (order : PaperComboOrder) : List String :=
  order.executions.values.flatMap (·.receiptIds)

theorem allReceiptIds_eq (comboOrders : OrderedMap String PaperComboOrder) :
    Configuration.allReceiptIds comboOrders
      = comboOrders.values.flatMap PaperComboOrder.receipts :=
  rfl

/-- Every receipt of a combination is accounted, and no two share an
identity. -/
structure Receipted (books : Books) : Prop where
  accounted : ∀ id ∈ Configuration.allReceiptIds books.comboOrders,
    id ∈ books.executionIds
  distinct : (Configuration.allReceiptIds books.comboOrders).Nodup

variable {config : Configuration} {books' : Books}
  {execution : BrokerComboExecution}

theorem AccountedAll.executionIds {strategyId : String} {fills : List Fill}
    (h : Books.AccountedAll config strategyId fills books books') (id : String) :
    id ∈ books'.executionIds
      ↔ id ∈ books.executionIds ∨ id ∈ fills.map (·.executionId) := by
  induction h with
  | nil => simp
  | cons hfill _ ih =>
    rw [ih, hfill.executionIds, mem_insert,
      Std.LawfulEqCmp.compare_eq_iff_eq, map_cons, mem_cons,
      or_assoc, or_left_comm, eq_comm (b := id)]

theorem nodup_receiptIds {intent : ComboIntent}
    (h : execution.validate intent = .ok ()) : execution.receiptIds.Nodup := by
  simp only [BrokerComboExecution.validate, bind_eq_ok] at h
  obtain ⟨_, -, _, -, _, -, _, -, hlegs⟩ := h
  obtain ⟨hdistinct, hnew⟩ := nodup_of_validateLegs hlegs
  rw [BrokerComboExecution.receiptIds, nodup_cons]
  refine ⟨?_, hdistinct⟩
  intro hmem
  obtain ⟨leg, hleg, hsame⟩ := mem_map.mp hmem
  exact hnew leg hleg (by simp [hsame])

theorem receiptIds_unapplied (h : books.overlapsApplied execution = false) :
    ∀ id ∈ execution.receiptIds, id ∉ books.executionIds := by
  intro id hid
  rcases mem_cons.mp hid with rfl | hleg
  · intro hmem
    rw [Books.overlapsApplied, Std.ExtTreeSet.contains_iff_mem.mpr hmem] at h
    cases h
  · obtain ⟨leg, hmem, rfl⟩ := mem_map.mp hleg
    exact fills_unapplied h _ (mem_map_of_mem hmem)

namespace Receipted

variable {books books' : Books}

theorem same (h : Receipted books)
    (hids : (Configuration.allReceiptIds books'.comboOrders).Perm
      (Configuration.allReceiptIds books.comboOrders))
    (hgrown : ∀ id ∈ books.executionIds, id ∈ books'.executionIds) : Receipted books' :=
  ⟨fun id hid => hgrown id (h.accounted id (hids.mem_iff.mp hid)),
    hids.nodup_iff.mpr h.distinct⟩

variable {orderId : String} {order' : PaperComboOrder}

theorem put_perm (hreceipts : order'.receipts
      = books.comboOrders[orderId]?.elim [] PaperComboOrder.receipts) :
    (Configuration.allReceiptIds (books.putCombo orderId order').comboOrders).Perm
      (Configuration.allReceiptIds books.comboOrders) := by
  rw [allReceiptIds_eq, allReceiptIds_eq]
  refine (OrderedMap.flatMap_insert_perm _ _ _ _).trans ?_
  rw [hreceipts]
  exact (OrderedMap.flatMap_values_perm _ _ _).symm

theorem put (h : Receipted books) {order : PaperComboOrder}
    (hfind : books.comboOrders[orderId]? = some order)
    (hkeeps : PaperComboOrder.Reclassified order order') :
    Receipted (books.putCombo orderId order') := by
  refine h.same (put_perm ?_) fun _ => id
  rw [hfind, PaperComboOrder.receipts, hkeeps.executions]
  rfl

theorem executed {orderId : String} {order order' : PaperComboOrder}
    {execution : BrokerComboExecution} (h : Receipted books)
    (hfind : books.comboOrders[orderId]? = some order)
    (hvalid : execution.validate order.oms.intent = .ok ())
    (hoverlap : books.overlapsApplied execution = false)
    (hnew : order.executions[execution.executionId]? = none)
    (hexecutions : order'.executions
      = order.executions.insert execution.executionId execution)
    (hcombos : books'.comboOrders = books.comboOrders.insert orderId order')
    (hids : ∀ id, id ∈ books.executionIds ∨ id ∈ execution.receiptIds →
      id ∈ books'.executionIds) : Receipted books' := by
  have hreceipts : order'.receipts.Perm
      (execution.receiptIds ++ order.receipts) := by
    have hold := OrderedMap.flatMap_values_perm
      (·.receiptIds : BrokerComboExecution → List String) order.executions
      execution.executionId
    rw [hnew] at hold
    rw [PaperComboOrder.receipts, hexecutions]
    exact (OrderedMap.flatMap_insert_perm _ _ _ _).trans
      (hold.symm.append_left _)
  have hall : (Configuration.allReceiptIds books'.comboOrders).Perm
      (execution.receiptIds ++
        Configuration.allReceiptIds books.comboOrders) := by
    have hold := OrderedMap.flatMap_values_perm PaperComboOrder.receipts
      books.comboOrders orderId
    rw [hfind] at hold
    rw [hcombos, allReceiptIds_eq, allReceiptIds_eq]
    refine (OrderedMap.flatMap_insert_perm _ _ _ _).trans ?_
    refine (hreceipts.append_right _).trans ?_
    rw [append_assoc]
    exact hold.symm.append_left _
  refine ⟨?_, ?_⟩
  · intro id hid
    rcases mem_append.mp (hall.mem_iff.mp hid) with hfresh | hold
    · exact hids id (.inr hfresh)
    · exact hids id (.inl (h.accounted id hold))
  · rw [hall.nodup_iff, List.nodup_append]
    refine ⟨nodup_receiptIds hvalid, h.distinct, ?_⟩
    rintro id hfresh _ hold rfl
    exact receiptIds_unapplied hoverlap id hfresh (h.accounted id hold)

end Receipted

theorem receipted_applies {event : BrokerEvent} (h : Receipted books)
    (hatomic : ∀ (orderId : String) (order : PaperComboOrder),
      books.comboOrders[orderId]? = some order →
        order.Atomic ∧ order.oms.intent.validate = .ok ())
    (happly : Books.Applies config books event books') : Receipted books' := by
  cases happly with
  | order => exact h.same (.refl _) fun _ => id
  | replayed => exact h
  | executed _ _ _ _ _ hfill =>
    refine h.same (by rw [hfill.comboOrders]; exact .refl _) ?_
    intro id hid
    rw [hfill.executionIds]
    exact mem_insert.mpr
      (.inr (mem_insert.mpr (.inr hid)))
  | combo hhandler hfind hrun =>
    exact h.put hfind
      (PaperComboOrder.handler_bookkeeping hhandler _ _ hrun)
  | comboReplayed => exact h
  | @comboExecuted execution order confirmed order' total booked hfind hvalid
      hnew hoverlap htotal hfits hconfirm hfills hrecord =>
      obtain ⟨horder, hintent⟩ := hatomic _ _ hfind
      have hexecuted : ComboExecuted order execution.sortLegs total order' :=
        ⟨hvalid, hnew, htotal, hfits, confirmed, hconfirm, hrecord⟩
      obtain ⟨-, -, hexecutions⟩ := horder.executed hintent hexecuted
      refine h.executed hfind hvalid hoverlap hnew hexecutions ?_ ?_
      · have hcombos := hfills.comboOrders
        simp only [Books.putCombo, Books.noteExecution, hcombos, OrderedMap.insert_insert]
      · intro id hid
        simp only [Books.putCombo, Books.noteExecution, mem_insert,
          Std.LawfulEqCmp.compare_eq_iff_eq, AccountedAll.executionIds hfills]
        rcases hid with hold | hfresh
        · exact .inr (.inl hold)
        · rcases mem_cons.mp hfresh with rfl | hleg
          · exact .inl rfl
          · rw [BrokerComboExecution.fills, map_map]
            exact .inr (.inr hleg)

theorem receipted_step {t : ServiceRecord} (hs : ReachableRecord may s)
    (h : RecordStep may s t) (hreceipted : Receipted s.toBooks)
    : Receipted t.toBooks := by
  have hsame : ∀ {books : Books}, books.comboOrders = s.comboOrders →
      books.executionIds = s.executionIds → Receipted books := by
    intro books hcombos hids
    exact hreceipted.same (by rw [hcombos])
      fun id hid => hids ▸ hid
  cases h with
  | edited h =>
    cases h with
    | comboCreated admitted decides hnew horder =>
      obtain ⟨homs, hfresh, -⟩ := PaperComboOrder.of_pendingCombo horder
      refine hreceipted.same (Receipted.put_perm ?_) fun _ => id
      have hnone : s.comboOrders[_]? = none := hnew
      rw [homs, hnone, PaperComboOrder.receipts, hfresh.executions]
      rfl
    | comboMoved hfind hmove => exact hreceipted.put hfind (.move hmove)
    | comboCancelling hfind hstate =>
      refine hreceipted.put hfind (.inState ?_ (by decide))
      intro hfilled
      rw [hfilled] at hstate
      cases hstate
    | applied happly =>
      exact receipted_applies hreceipted
        (fun _ _ hfind => reachable_atomic hs hfind)
        (Books.applyBrokerEvent_eq_ok happly)
    | flagged hfind hnote => exact hreceipted.put hfind (.flagged hnote)
    | acted admitted heffect =>
      have hframe := takeEffect_frame heffect
      exact hsame hframe.comboOrders hframe.executionIds
    | operated => exact hreceipted
    | _ => exact hsame rfl rfl
  | observed h =>
    cases h with
    | marked hfind =>
      exact hreceipted.put hfind ⟨rfl, rfl, rfl, nofun, nofun⟩
    | _ => exact hsame rfl rfl
  | replacing h =>
    cases h with
    | begun => exact hsame rfl rfl

theorem reachable_receipted (hs : ReachableRecord may s) : Receipted s.toBooks := by
  induction hs with
  | init h =>
    cases h
    have hnone : Configuration.allReceiptIds
        (∅ : OrderedMap String PaperComboOrder) = [] := by
      rw [allReceiptIds_eq, OrderedMap.values_eq_map_snd,
        Std.ExtTreeMap.toList_eq_nil_iff.mpr rfl, map_nil, List.flatMap_nil]
    refine ⟨?_, ?_⟩ <;>
      simp [startRecord, PaperTradingService.emptyBooks, hnone]
  | step hs hstep ih => exact receipted_step hs hstep ih

namespace PaperTradingService

variable {B : Type} [PaperBrokerAdapter B] [ContentHash]

end PaperTradingService

namespace Session

attribute [local instance] contentHash

def pairPolicy : PaperRiskPolicy :=
  { policy with
    instrumentTickSizes := (increments 1000000).insert "msft" (amount 1000000)
    instrumentLotSizes :=
      (increments 100000000).insert "msft" (amount 100000000) }

def pairStart : PaperTradingService IbkrPaperAdapter :=
  { start with
    toServiceRecord := startRecord ⟨account, pairPolicy, ""⟩ killSwitches }

def pairIntent : ComboIntent where
  intentId := "intent-1"
  accountId := "acct-1"
  strategyId := "strategy-1"
  correlationId := "correlation-1"
  legs := [⟨"aapl", .buy, 1, amount 10000000000⟩, ⟨"msft", .buy, 2, amount 5000000000⟩]
  comboQuantity := amount 300000000
  priceLimit := .maximumDebit (amount 20000000000)
  timeInForce := .day
  rationale := "pair"
  createdAt := decidedAt
  strategyVersion := "1"
  configurationVersion := "1"
  environment := "PAPER"

def pairMarket : PaperComboMarketData :=
  ⟨[⟨"aapl", amount 10000000000, decidedAt⟩, ⟨"msft", amount 5000000000, decidedAt⟩]⟩

def pairExecution : BrokerComboExecution where
  executionId := "execution-1"
  clientOrderId := "combo-order-intent-1"
  brokerOrderId := "ibkr-paper-combo-00000001"
  units := amount 100000000
  legs :=
    [⟨"execution-2", "aapl", .buy, amount 100000000, amount 10000000000,
        amount 0, decidedAt⟩,
      ⟨"execution-3", "msft", .buy, amount 200000000, amount 5000000000,
        amount 0, decidedAt⟩]

theorem pairStart_started : PaperTradingService.Started pairStart := by
  have haccount : account.validate = .ok () := by decide
  have hpolicy : pairPolicy.validate = .ok () := by decide
  refine ⟨pairStart, ⟨account, pairPolicy, killSwitches, broker, ?_, ?_⟩, rfl⟩
  · exact @PaperTradingService.Switches.new "switches-1" killSwitches
      (by decide)
  · simp only [PaperTradingService.new, haccount, hpolicy]
    rfl

def pairSubmitted : PaperTradingService IbkrPaperAdapter :=
  play pairStart
    (.operate (.submitComboIntent pairIntent pairMarket decidedAt none))

def pairQueued : PaperTradingService IbkrPaperAdapter :=
  pairSubmitted.setBroker { pairSubmitted.broker with
    pendingEvents := [.comboExecution pairExecution] }

end Session

end Follon.Paper
