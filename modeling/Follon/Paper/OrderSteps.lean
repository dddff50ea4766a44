import Follon.Paper.OrderEffects
import Follon.Paper.RecordRuns

/-!
# What a step does to one order

Between two records of a run an order is unchanged, created, or changed in one
of the listed ways.
-/

namespace Follon.Paper

open Foundation Domain ControlPlane Accounting

/-! ## Plain orders -/

inductive OrderChange (may : Allowance) (s : ServiceRecord)
    (order : PaperOrder) : PaperOrder → Prop
  | moved {order' : PaperOrder} (h : OrderMove order order') :
      OrderChange may s order order'
  | cancelling (hstate : isWorkingState order.oms.state = true) :
      OrderChange may s order (order.inState .pendingCancel)
  | replacing (hstate : isWorkingState order.oms.state = true)
      (hbroker : order.brokerOrderId ≠ none) :
      OrderChange may s order order.replacing
  | handled {event : BrokerEvent} {x : OrderM Unit} {order' : PaperOrder}
      (hfind : s.orders[event.clientOrderId]? = some order)
      (hmay : may.event s event) (hhandler : OrderHandler event x)
      (hrun : x.run order = (.ok (), order')) :
      OrderChange may s order order'
  | executed {execution : BrokerExecution} {order' : PaperOrder}
      (hvalid : ValidExecution execution)
      (h : order.Executed execution order') : OrderChange may s order order'

structure OrderCreated (s : ServiceRecord) (orderId : String)
    (order : PaperOrder) : Prop where
  absent : s.orders[orderId]? = none
  source : ∃ intent market decidedAt submittedBy decision,
    AdmittedIntent s.toConfiguration intent market decidedAt submittedBy ∧
      s.Decides intent market decidedAt decision ∧
        pendingOrder intent decision market = .ok order ∧
          orderId = OmsOrder.orderIdFor intent.intentId

variable {books : Books} {changed orderId : String} {s : ServiceRecord}

theorem getElem?_putOrder {order order' : PaperOrder}
    (h : (books.putOrder changed order).orders[orderId]? = some order') :
    changed = orderId ∧ order' = order ∨
      changed ≠ orderId ∧ books.orders[orderId]? = some order' := by
  simp only [Books.putOrder, getElem?_insert,
    Std.LawfulEqCmp.compare_eq_iff_eq] at h
  split at h
  · next hsame => exact .inl ⟨hsame, (Option.some.inj h).symm⟩
  · next hother => exact .inr ⟨hother, h⟩

structure ActionFrame (s after : ServiceRecord) : Prop where
  configuration : after.toConfiguration = s.toConfiguration
  orders : after.orders = s.orders
  comboOrders : after.comboOrders = s.comboOrders
  executionIds : after.executionIds = s.executionIds
  evidence : after.toEvidenceRecord = s.toEvidenceRecord
  operators : after.toOperatorRecord = s.toOperatorRecord
  reconciliation : after.toReconciliationRecord = s.toReconciliationRecord

theorem takeEffect_frame {after : ServiceRecord}
    {request : PaperCorporateAction} {quantityBefore : Decimal}
    {receipt : PaperCorporateActionReceipt}
    (h : s.takeEffect request quantityBefore = .ok (after, receipt)) :
    ActionFrame s after := by
  unfold ServiceRecord.takeEffect at h
  split at h
  · simp only [ServiceRecord.splitBooks, bind_eq_ok, Prod.exists, pure_eq_ok, Prod.mk.injEq] at h
    obtain ⟨_, _, ⟨_, -, _, -, _, -, _, -, _, -, rfl, -⟩, rfl, -⟩ := h
    exact ⟨rfl, rfl, rfl, rfl, rfl, rfl, rfl⟩
  · simp only [bind_eq_ok, pure_eq_ok,
      Prod.mk.injEq] at h
    obtain ⟨_, -, _, -, rfl, -⟩ := h
    exact ⟨rfl, rfl, rfl, rfl, rfl, rfl, rfl⟩

section

variable {may : Allowance} {s t : ServiceRecord} {orderId : String}
  {order' : PaperOrder}

private theorem orderStep_put {changed : String} {order next : PaperOrder}
    (hfind : s.orders[changed]? = some order) (hchange : OrderChange may s order next)
    (h : (s.toBooks.putOrder changed next).orders[orderId]? = some order') :
    s.orders[orderId]? = some order' ∨ ∃ order, s.orders[orderId]? = some order ∧
        OrderChange may s order order' := by
  rcases getElem?_putOrder h with ⟨rfl, rfl⟩ | ⟨-, h⟩
  · exact .inr ⟨order, hfind, hchange⟩
  · exact .inl h

theorem RecordStep.order (hstep : RecordStep may s t)
    (h : t.orders[orderId]? = some order') :
    OrderCreated s orderId order' ∨ s.orders[orderId]? = some order' ∨
      ∃ order, s.orders[orderId]? = some order ∧
        OrderChange may s order order' := by
  cases hstep with
  | edited hedit =>
    cases hedit with
    | created admitted decides hnew horder =>
      obtain ⟨homs, -, -, -⟩ := PaperOrder.of_pendingOrder horder
      rcases getElem?_putOrder h with ⟨hid, rfl⟩ | ⟨-, h⟩
      · rw [homs] at hid
        subst hid
        exact .inl ⟨hnew, _, _, _, _, _, admitted, decides, horder, rfl⟩
      · exact .inr (.inl h)
    | moved hfind hmove =>
      exact .inr (orderStep_put hfind (.moved hmove) h)
    | cancelling hplain hfind hstate =>
      exact .inr (orderStep_put hfind (.cancelling hstate) h)
    | applied happly hmay =>
      refine .inr ?_
      cases Books.applyBrokerEvent_eq_ok happly with
      | order hplain hhandler hfind hrun =>
        exact orderStep_put hfind (.handled hfind hmay hhandler hrun) h
      | replayed => exact .inl h
      | executed hplain hvalid hnew hfind hrun hfill =>
        obtain ⟨hexecuted, -, -⟩ := PaperOrder.applyExecution_eq_ok hrun
        dsimp only [ServiceRecord.setBooks] at h
        rw [hfill.orders] at h
        exact orderStep_put hfind (.executed hvalid hexecuted) h
      | combo => exact .inl h
      | comboReplayed => exact .inl h
      | comboExecuted _ _ _ _ _ _ _ hfills _ =>
        have horders := hfills.orders
        dsimp only [ServiceRecord.setBooks, Books.putCombo,
          Books.noteExecution] at h horders
        rw [horders] at h
        exact .inl h
    | acted admitted heffect =>
      rw [ServiceRecord.noteReceipt, (takeEffect_frame heffect).orders] at h
      exact .inr (.inl h)
    | operated => exact .inr (.inl h)
    | _ => exact .inr (.inl h)
  | observed hobserved =>
    cases hobserved with
    | _ => exact .inr (.inl h)
  | replacing hreplacing =>
    cases hreplacing with
    | begun hfind hrequest =>
      obtain ⟨hstate, hbroker, -⟩ :=
        PaperTradingService.of_replaceRequestFor hrequest
      exact .inr (orderStep_put hfind
        (.replacing hstate (by simp [hbroker])) h)

end

/-! ## Combinations -/

structure ComboExecuted (order : PaperComboOrder)
    (execution : BrokerComboExecution) (total : Decimal)
    (order' : PaperComboOrder) : Prop where
  valid : execution.validate order.oms.intent = .ok ()
  new : order.executions[execution.executionId]? = none
  units : order.filledQuantity.checkedAdd execution.units = .ok total
  fits : ¬order.oms.intent.comboQuantity < total
  recorded : ∃ confirmed,
    (PaperComboOrder.confirmExecution execution.brokerOrderId).run order
        = (.ok (), confirmed) ∧
      (PaperComboOrder.recordExecution total execution).run confirmed = (.ok (), order')

inductive ComboChange (orderId : String) (order : PaperComboOrder) :
    PaperComboOrder → Prop
  | moved {order' : PaperComboOrder} (h : ComboMove order order') :
      ComboChange orderId order order'
  | cancelling (hstate : isWorkingState order.oms.state = true)
      (hclean : order.evidenceError = none) :
      ComboChange orderId order (order.inState .pendingCancel)
  | handled {event : BrokerEvent} {x : ComboM Unit} {order' : PaperComboOrder}
      (hhandler : ComboHandler event x)
      (hrun : x.run order = (.ok (), order')) :
      ComboChange orderId order order'
  | executed {execution : BrokerComboExecution} {total : Decimal}
      {order' : PaperComboOrder} (hid : execution.clientOrderId = orderId)
      (h : ComboExecuted order execution total order') :
      ComboChange orderId order order'
  | flagged {error : PaperError} {order' : PaperComboOrder}
      (hnote : (PaperComboOrder.noteAnomaly error.message).run order
        = (.ok (), order')) : ComboChange orderId order order'
  | marked {error : PaperError}
      (hstate : isValidTransition order.oms.state .unknown = false)
      (hopen : order.oms.state ≠ .unknown ∧ order.oms.state ≠ .filled) :
      ComboChange orderId order
        { order with evidenceError := some error.message }

structure ComboCreated (s : ServiceRecord) (orderId : String)
    (order : PaperComboOrder) : Prop where
  absent : s.comboOrders[orderId]? = none
  source : ∃ intent market decidedAt submittedBy decision request,
    AdmittedCombo s.toConfiguration intent market decidedAt submittedBy ∧
      s.DecidesCombo intent market decidedAt decision ∧
        pendingCombo intent decision market = .ok (order, request) ∧
          orderId = OmsComboOrder.orderIdFor intent.intentId

theorem getElem?_putCombo {order order' : PaperComboOrder}
    (h : (books.putCombo changed order).comboOrders[orderId]? = some order')
    : changed = orderId ∧ order' = order ∨
      changed ≠ orderId ∧ books.comboOrders[orderId]? = some order' := by
  simp only [Books.putCombo, getElem?_insert,
    Std.LawfulEqCmp.compare_eq_iff_eq] at h
  split at h
  · next hsame => exact .inl ⟨hsame, (Option.some.inj h).symm⟩
  · next hother => exact .inr ⟨hother, h⟩

section

variable {may : Allowance} {s t : ServiceRecord} {orderId : String}
  {order' : PaperComboOrder}

private theorem comboStep_put {changed : String} {order next : PaperComboOrder}
    (hfind : s.comboOrders[changed]? = some order)
    (hchange : ComboChange changed order next)
    (h : (s.toBooks.putCombo changed next).comboOrders[orderId]?
      = some order') : s.comboOrders[orderId]? = some order' ∨
      ∃ order, s.comboOrders[orderId]? = some order ∧
        ComboChange orderId order order' := by
  rcases getElem?_putCombo h with ⟨rfl, rfl⟩ | ⟨-, h⟩
  · exact .inr ⟨order, hfind, hchange⟩
  · exact .inl h

theorem RecordStep.combo (hstep : RecordStep may s t)
    (h : t.comboOrders[orderId]? = some order') :
    ComboCreated s orderId order' ∨ s.comboOrders[orderId]? = some order' ∨
      ∃ order, s.comboOrders[orderId]? = some order ∧
        ComboChange orderId order order' := by
  cases hstep with
  | edited hedit =>
    cases hedit with
    | comboCreated admitted decides hnew horder =>
      obtain ⟨homs, -, -, -⟩ := PaperComboOrder.of_pendingCombo horder
      rcases getElem?_putCombo h with ⟨hid, rfl⟩ | ⟨-, h⟩
      · rw [homs] at hid
        subst hid
        exact .inl
          ⟨hnew, _, _, _, _, _, _, admitted, decides, horder, rfl⟩
      · exact .inr (.inl h)
    | comboMoved hfind hmove =>
      exact .inr (comboStep_put hfind (.moved hmove) h)
    | comboCancelling hfind hstate hclean =>
      exact .inr (comboStep_put hfind (.cancelling hstate hclean) h)
    | applied happly hmay =>
      refine .inr ?_
      cases Books.applyBrokerEvent_eq_ok happly with
      | order => exact .inl h
      | replayed => exact .inl h
      | executed hplain hvalid hnew hfind hrun hfill =>
        dsimp only [ServiceRecord.setBooks] at h
        rw [hfill.comboOrders] at h
        exact .inl h
      | combo hhandler hfind hrun =>
        exact comboStep_put hfind (.handled hhandler hrun) h
      | comboReplayed => exact .inl h
      | @comboExecuted execution order confirmed recorded total booked
          hfind hvalid hnew hoverlap htotal hfits hconfirm hfills
          hrecord =>
          have hexecuted : ComboExecuted order execution.sortLegs total
              recorded :=
            ⟨hvalid, hnew, htotal, hfits, confirmed, hconfirm, hrecord⟩
          have hcombos := hfills.comboOrders
          simp only [ServiceRecord.setBooks, Books.putCombo, Books.noteExecution, hcombos,
            OrderedMap.insert_insert] at h
          exact comboStep_put hfind
            (@ComboChange.executed _ _ execution.sortLegs _ _ rfl hexecuted) h
    | flagged hfind hnote =>
      exact .inr (comboStep_put hfind (.flagged hnote) h)
    | acted admitted heffect =>
      rw [ServiceRecord.noteReceipt, (takeEffect_frame heffect).comboOrders] at h
      exact .inr (.inl h)
    | operated => exact .inr (.inl h)
    | _ => exact .inr (.inl h)
  | observed hobserved =>
    cases hobserved with
    | marked hfind hstate hopen =>
      exact .inr (comboStep_put hfind (.marked hstate hopen) h)
    | _ => exact .inr (.inl h)
  | replacing hreplacing =>
    cases hreplacing with
    | begun => exact .inr (.inl h)

end

/-! ## The configuration -/

theorem RecordStep.configuration {may : Allowance} {t : ServiceRecord}
    (h : RecordStep may s t) : t.toConfiguration = s.toConfiguration := by
  cases h with
  | edited h =>
    cases h with
    | acted admitted heffect =>
      rw [ServiceRecord.noteReceipt]
      exact (takeEffect_frame heffect).configuration
    | operated => rfl
    | _ => rfl
  | observed h =>
    cases h with
    | _ => rfl
  | replacing h =>
    cases h with
    | begun => rfl

theorem PaperTradingService.Step.configuration {B : Type}
    [PaperBrokerAdapter B] [ContentHash] {s t : PaperTradingService B}
    (h : Step s t) : t.toConfiguration = s.toConfiguration :=
  h.changes.record.keeps
    (P := fun r => r.toConfiguration = s.toConfiguration)
    (fun _ _ hr hstep => hstep.configuration.trans hr) rfl

end Follon.Paper
