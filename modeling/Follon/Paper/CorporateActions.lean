import Follon.Paper.Lockstep
import Follon.Paper.OrderSteps

/-!
# Corporate actions

An action applies once.  Refused, it leaves the service as it was, unless its
receipt could not be journaled, and then the service is closed.  Applied, its
receipt reads back.
-/

namespace Follon.Paper

open Foundation Domain ControlPlane

/-! ## The closed service -/

def Operation.isPreview : Operation → Bool
  | .evaluateComboRisk _ _ _ => true
  | _ => false

namespace PaperTradingService

variable {B : Type} {s : PaperTradingService B}

def closed : PaperError :=
  ⟨"paper OMS is fail-closed after a durable journal write failure"⟩

theorem ensurePersistenceHealthy_closed (h : s.persistenceHealthy = false) :
    s.ensurePersistenceHealthy = .error closed := by
  rw [ensurePersistenceHealthy, h]
  rfl

variable {α : Type}

theorem run_closed (h : s.persistenceHealthy = false)
    (f : PaperTradingService B → Unit → PaperM B α) :
    (Fallible.read >>= fun u : PaperTradingService B =>
      lift u.ensurePersistenceHealthy >>= f u : PaperM B α).run s
      = (.error closed, s) := by
  rw [run_read_bind, ensurePersistenceHealthy_closed h, run_lift_bind_error]

theorem run_unadmitted {result : Result Unit} (h : result = .error closed)
    (f : Unit → PaperM B α) :
    (lift result >>= f : PaperM B α).run s = (.error closed, s) := by
  rw [h, run_lift_bind_error]

theorem run_discard {x : PaperM B α} {error : PaperError}
    (h : x.run s = (.error error, s)) : x.discard.run s = (.error error, s) := by
  change (((x.run s).1.map fun _ => ()), (x.run s).2) = _
  rw [h]
  rfl

variable [PaperBrokerAdapter B] [ContentHash]

theorem execute_closed (h : s.persistenceHealthy = false)
    {operation : Operation} (hpreview : operation.isPreview = false) :
    ∃ error, (execute operation).run s = (.error error, s) := by
  have hclosed := ensurePersistenceHealthy_closed h
  cases operation with
  | submitIntent intent market decidedAt submittedBy =>
    refine ⟨closed, run_discard ?_⟩
    rw [submitIntentAs, run_read_bind]
    apply run_unadmitted
    rw [admitIntent, hclosed]
    rfl
  | submitComboIntent intent market decidedAt submittedBy =>
    refine ⟨closed, run_discard ?_⟩
    rw [submitComboIntentAs, run_read_bind]
    apply run_unadmitted
    rw [admitCombo, hclosed]
    rfl
  | evaluateComboRisk intent market decidedAt => cases hpreview
  | cancelOrder orderId => exact ⟨closed, run_closed h _⟩
  | cancelOrderAs orderId operator operatedAt =>
    change ∃ error, (lift (validateCanonicalId "order operator"
      operator) >>= _ : PaperM B Unit).run s = (.error error, s)
    cases validateCanonicalId "order operator" operator with
    | error error => exact ⟨error, rfl⟩
    | ok _ =>
      change ∃ error, (lift (validateUtcTimestamp
        "order operation time" operatedAt) >>= _ : PaperM B Unit).run s
          = (.error error, s)
      cases validateUtcTimestamp "order operation time" operatedAt with
      | error error => exact ⟨error, rfl⟩
      | ok _ => exact ⟨closed, run_closed h _⟩
  | replaceOrder orderId price => exact ⟨closed, run_closed h _⟩
  | synchronize => exact ⟨closed, run_discard (run_closed h _)⟩
  | reconnectAndReconcile reconciledAt =>
    exact ⟨closed, run_discard (run_closed h _)⟩
  | reconcile reconciledAt => exact ⟨closed, run_discard (run_closed h _)⟩
  | explainIncident incidentId explanation => exact ⟨closed, run_closed h _⟩
  | recordPaperSession paperSession report calendar =>
    refine ⟨closed, ?_⟩
    rw [execute, recordPaperSession, run_read_bind]
    apply run_unadmitted
    rw [admitPaperSession, hclosed]
    rfl
  | activateKillSwitch scope => exact ⟨closed, run_discard (run_closed h _)⟩
  | deactivateKillSwitch scope => exact ⟨closed, run_discard (run_closed h _)⟩
  | operateKillSwitchAs scope action operator operatedAt =>
    exact ⟨closed, run_discard (run_closed h _)⟩
  | applyCorporateAction request =>
    refine ⟨closed, run_discard ?_⟩
    rw [PaperTradingService.applyCorporateAction, run_read_bind]
    apply run_unadmitted
    rw [admitCorporateAction, hclosed]
    rfl

end PaperTradingService

/-! ## The effect of an action -/

variable {s : ServiceRecord} {request : PaperCorporateAction}
  {receipt : PaperCorporateActionReceipt}

theorem heldQuantity_splitBooks {instrumentId actionId : String}
    {ratio : Decimal} {books : Books} {marks : OrderedMap String Decimal}
    (h : s.splitBooks instrumentId actionId ratio = .ok (books, marks)) :
    (s.heldQuantity instrumentId).checkedMul ratio
      = .ok (books.heldQuantity instrumentId) := by
  simp only [ServiceRecord.splitBooks, bind_eq_ok, pure_eq_ok, Prod.mk.injEq] at h
  obtain ⟨_, -, portfolio, hportfolio, _, -, _, -, _, -, hbooks, -⟩ := h
  have hportfolios : books.portfolios
      = ServiceRecord.putWhen s.portfolios instrumentId portfolio := by
    rw [← hbooks]
  exact (Lockstep.heldQuantity_checkedMul hportfolio hportfolios).1

structure ReceiptOf (request : PaperCorporateAction)
    (receipt : PaperCorporateActionReceipt) : Prop where
  action : receipt.action = request.action
  appliedBy : receipt.appliedBy = request.appliedBy
  appliedAt : receipt.appliedAt = request.appliedAt
  consistent : PersistentCorporateAction.isConsistent receipt.action
    receipt.quantityBefore receipt.quantityAfter receipt.cashDelta = .ok true

theorem takeEffect_receipt {after : ServiceRecord}
    (h : s.takeEffect request (s.heldQuantity request.action.instrumentId)
      = .ok (after, receipt)) : ReceiptOf request receipt := by
  unfold ServiceRecord.takeEffect at h
  split at h
  · next actionId instrumentId effectiveAt ratio haction =>
      simp only [bind_eq_ok, Prod.exists, pure_eq_ok,
        Prod.mk.injEq] at h
      obtain ⟨books, marks, hsplit, -, rfl⟩ := h
      have hheld := heldQuantity_splitBooks hsplit
      refine ⟨rfl, rfl, rfl, ?_⟩
      simp only [haction, PersistentCorporateAction.isConsistent,
        CorporateAction.instrumentId, hheld]
      simp [ServiceRecord.setBooks, ServiceRecord.setMarks]
  · next actionId instrumentId effectiveAt amount haction =>
      simp only [bind_eq_ok, pure_eq_ok,
        Prod.mk.injEq] at h
      obtain ⟨cashDelta, hpaid, _, -, -, rfl⟩ := h
      refine ⟨rfl, rfl, rfl, ?_⟩
      rw [haction] at hpaid
      simp only [haction, PersistentCorporateAction.isConsistent, if_true]
      rw [hpaid]
      simp

/-! ## Reading a receipt back -/

structure PaperCorporateActionReceipt.Readable
    (receipt : PaperCorporateActionReceipt) : Prop where
  quantityBefore : receipt.quantityBefore.scaled ≠ i128Min
  quantityAfter : receipt.quantityAfter.scaled ≠ i128Min
  cashDelta : receipt.cashDelta.scaled ≠ i128Min

structure ActionAdmitted (request : PaperCorporateAction) : Prop where
  action : request.action.validate = .ok ()
  appliedBy : isCanonicalId request.appliedBy = true
  appliedAt : isUtcTimestamp request.appliedAt = true
  effective : ¬request.appliedAt < request.action.effectiveAt

theorem admitCorporateAction_admitted {B : Type} {s : PaperTradingService B}
    {u : Unit} (h : s.admitCorporateAction request = .ok u) : ActionAdmitted request := by
  simp only [PaperTradingService.admitCorporateAction, bind_eq_ok,
    refuseIf_eq_ok, exists_const, PaperTradingService.ensurePersistenceHealthy_eq_ok,
    validateCanonicalId_eq_ok, validateUtcTimestamp_eq_ok] at h
  obtain ⟨-, _, haction, happliedBy, happliedAt, heffective⟩ := h
  exact ⟨haction, happliedBy, happliedAt, heffective⟩

namespace PersistentCorporateAction

theorem decimal_display {name : String} {value : Decimal}
    (h : value.scaled ≠ i128Min) : decimal name value.display = .ok value := by
  rw [decimal, Decimal.parse_display_iff.mpr h]

theorem value_pos {action : CorporateAction} {u : Unit}
    (h : action.validate = .ok u) : 0 < action.value.scaled := by
  simp only [CorporateAction.validate, bind_eq_ok, refuseIf_eq_ok,
    le_def, scaled_zero, Int.not_le] at h
  obtain ⟨-, -, -, -, -, -, hvalue⟩ := h
  exact hvalue

theorem toAction_ofReceipt (receipt : PaperCorporateActionReceipt) :
    (ofReceipt receipt).toAction receipt.action.value
      = .ok receipt.action := by
  unfold toAction ofReceipt
  cases receipt.action <;> rfl

theorem toReceipt_ofReceipt {request : PaperCorporateAction}
    {receipt : PaperCorporateActionReceipt}
    (hadmitted : ActionAdmitted request) (h : ReceiptOf request receipt)
    (hreadable : receipt.Readable) : (ofReceipt receipt).toReceipt = .ok receipt := by
  have hvalue : receipt.action.value.scaled ≠ i128Min := by
    have hpositive := value_pos hadmitted.action
    rw [← h.action] at hpositive
    have : i128Min < 0 := by decide
    omega
  simp only [toReceipt, bind_eq_ok, refuseIf_eq_ok, validateCanonicalId_eq_ok,
    validateUtcTimestamp_eq_ok]
  refine ⟨_, decimal_display hvalue, _, toAction_ofReceipt receipt, (), ?_,
    (), ?_, (), ?_, (), ?_, _, decimal_display hreadable.quantityBefore, _,
    decimal_display hreadable.quantityAfter, _,
    decimal_display hreadable.cashDelta, true, h.consistent, (), by simp, rfl⟩
  · rw [h.action]
    exact hadmitted.action
  · rw [ofReceipt, h.appliedBy]
    exact hadmitted.appliedBy
  · rw [ofReceipt, h.appliedAt]
    exact hadmitted.appliedAt
  · rw [ofReceipt, h.appliedAt, h.action]
    exact hadmitted.effective

end PersistentCorporateAction

theorem restoreCorporateActions_append
    {receipts restored : List PaperCorporateActionReceipt}
    {records : List PersistentCorporateAction} {record : PersistentCorporateAction}
    (h : restoreCorporateActions receipts records = .ok restored)
    (hrecord : record.toReceipt = .ok receipt)
    (hnew : receipt.action.actionId ∉ restored.map (·.action.actionId)) :
    restoreCorporateActions receipts (records ++ [record])
      = .ok (restored ++ [receipt]) := by
  induction records generalizing receipts with
  | nil =>
    obtain rfl := Except.ok.inj h
    simp only [nil_append, restoreCorporateActions, bind_eq_ok, refuseIf_eq_ok]
    exact ⟨receipt, hrecord, (), hnew, rfl⟩
  | cons first rest ih =>
    simp only [restoreCorporateActions, bind_eq_ok, refuseIf_eq_ok] at h
    obtain ⟨earlier, hearlier, _, hfresh, hrest⟩ := h
    simp only [cons_append, restoreCorporateActions, bind_eq_ok, refuseIf_eq_ok]
    exact ⟨earlier, hearlier, (), hfresh, ih hrest⟩

/-! ## The cases of an action -/

namespace PaperTradingService

variable {B : Type}

structure TakesEffect (s : PaperTradingService B)
    (request : PaperCorporateAction) (after : ServiceRecord)
    (receipt : PaperCorporateActionReceipt) : Prop where
  admitted : s.admitCorporateAction request = .ok ()
  unapplied : (s.corporateActions.find? fun receipt =>
    receipt.action.actionId == request.action.actionId) = none
  effect : s.takeEffect request (s.heldQuantity request.action.instrumentId)
    = .ok (after, receipt)

def Restores (s : PaperTradingService B) : Prop :=
  restoreCorporateActions []
      (s.corporateActions.map PersistentCorporateAction.ofReceipt)
    = .ok s.corporateActions

variable {s : PaperTradingService B} {request : PaperCorporateAction}
  {after : ServiceRecord} {receipt : PaperCorporateActionReceipt}

theorem TakesEffect.corporateActions (h : TakesEffect s request after receipt) :
    (after.noteReceipt receipt).corporateActions
      = s.corporateActions ++ [receipt] := by
  have hoperators := (takeEffect_frame h.effect).operators
  have hactions : after.corporateActions = s.corporateActions :=
    congrArg OperatorRecord.corporateActions hoperators
  rw [← hactions]
  rfl

theorem TakesEffect.toReceipt (h : TakesEffect s request after receipt)
    (hreadable : receipt.Readable) :
    (PersistentCorporateAction.ofReceipt receipt).toReceipt = .ok receipt :=
  PersistentCorporateAction.toReceipt_ofReceipt
    (admitCorporateAction_admitted h.admitted) (takeEffect_receipt h.effect)
    hreadable

theorem TakesEffect.unapplied_id (h : TakesEffect s request after receipt)
    {applied : PaperCorporateActionReceipt} (happlied : applied ∈ s.corporateActions) :
    applied.action.actionId ≠ request.action.actionId := by
  have hnone := List.find?_eq_none.mp h.unapplied applied happlied
  simpa using hnone

variable {t : PaperTradingService B}

theorem TakesEffect.restores (h : TakesEffect s request after receipt)
    (hreadable : receipt.Readable)
    (ht : t.corporateActions = s.corporateActions ++ [receipt])
    (hs : s.Restores) : t.Restores := by
  rw [Restores, ht, map_append]
  refine restoreCorporateActions_append hs (h.toReceipt hreadable) ?_
  rw [mem_map]
  rintro ⟨applied, happlied, hsame⟩
  apply h.unapplied_id happlied
  rw [hsame, (takeEffect_receipt h.effect).action]

variable [ContentHash]

theorem applyCorporateAction_cases (s : PaperTradingService B)
    (request : PaperCorporateAction) :
    (∃ result, (applyCorporateAction request).run s = (result, s)
        ∧ ∀ applied, result = .ok applied → applied ∈ s.corporateActions)
      ∨ ∃ after receipt, TakesEffect s request after receipt
        ∧ (applyCorporateAction request).run s
          = (persist >>= fun _ => pure receipt : PaperM B _).run
            (s.edit fun _ => after.noteReceipt receipt) := by
  have herror : ∀ (error : PaperError) applied,
      (.error error : Result PaperCorporateActionReceipt) = .ok applied →
        applied ∈ s.corporateActions := by
    intro error applied h
    cases h
  rw [applyCorporateAction, run_read_bind]
  cases hcheck : s.admitCorporateAction request with
  | error error => exact .inl ⟨_, rfl, herror error⟩
  | ok _ =>
    rw [run_lift_bind_ok]
    cases hfind : s.corporateActions.find? fun receipt =>
        receipt.action.actionId == request.action.actionId with
    | some applied =>
      refine .inl ⟨_, rfl, ?_⟩
      intro returned h
      simp only [ServiceRecord.repeatedAction, bind_eq_ok] at h
      obtain ⟨-, -, h⟩ := h
      obtain rfl := Except.ok.inj h
      exact List.mem_of_find?_eq_some hfind
    | none =>
      dsimp only
      cases hheld : refuseIf (s.heldQuantity request.action.instrumentId
          ≠ request.heldQuantity) _ with
      | error error => exact .inl ⟨_, rfl, herror error⟩
      | ok _ =>
        rw [run_lift_bind_ok]
        cases heffect : s.takeEffect request
            (s.heldQuantity request.action.instrumentId) with
        | error error => exact .inl ⟨_, rfl, herror error⟩
        | ok outcome =>
          exact .inr ⟨outcome.1, outcome.2, ⟨hcheck, hfind, heffect⟩, rfl⟩

/-! ## One call -/

variable [PaperBrokerAdapter B]

/-- The journal did not take the receipt, and the service is closed: every
operation but a preview is refused. -/
structure FailedClosed (s t : PaperTradingService B) : Prop where
  journal : ∃ journal, s.journal = some journal ∧ journal.outcome ≠ .written
  refuses : ∀ operation : Operation, operation.isPreview = false →
    ∃ error, (execute operation).run t = (.error error, t)

structure AppliesOnce (s : PaperTradingService B)
    (request : PaperCorporateAction) : Prop where
  repeated : ∀ applied ∈ s.corporateActions,
    applied.action.actionId = request.action.actionId →
      (applyCorporateAction request).final s = s
  refused : ∀ error, ((applyCorporateAction request).run s).1 = .error error →
      (applyCorporateAction request).final s = s
        ∨ FailedClosed s ((applyCorporateAction request).final s)
  recorded : ∀ receipt, ((applyCorporateAction request).run s).1 = .ok receipt →
      receipt ∈ s.corporateActions ∧ (applyCorporateAction request).final s = s
        ∨ ((applyCorporateAction request).final s).corporateActions
            = s.corporateActions ++ [receipt]
          ∧ (receipt.Readable →
            (PersistentCorporateAction.ofReceipt receipt).toReceipt = .ok receipt
              ∧ (s.Restores → ((applyCorporateAction request).final s).Restores))

theorem TakesEffect.appliesOnce (h : TakesEffect s request after receipt)
    (ht : t.corporateActions = (after.noteReceipt receipt).corporateActions)
    (hrun : (applyCorporateAction request).run s = (.ok receipt, t)) :
    AppliesOnce s request where
  repeated applied happlied hsame := absurd hsame (h.unapplied_id happlied)
  refused error hfailed := by
    rw [hrun] at hfailed
    cases hfailed
  recorded returned hreturned := by
    rw [hrun] at hreturned
    obtain rfl := Except.ok.inj hreturned
    have hactions := ht.trans h.corporateActions
    rw [final_eq hrun]
    exact .inr ⟨hactions, fun hreadable =>
      ⟨h.toReceipt hreadable, h.restores hreadable hactions⟩⟩

/-- Whatever the state and the action: what was applied changes nothing, a
refusal changes nothing or is a failed append that closes the service, and a
new receipt reads back. -/
theorem applyCorporateAction_once (s : PaperTradingService B)
    (request : PaperCorporateAction) : AppliesOnce s request := by
  rcases applyCorporateAction_cases s request with
    ⟨result, hrun, happlied⟩ | ⟨after, receipt, heffect, hrun⟩
  · have hfinal := final_eq hrun
    refine ⟨fun _ _ _ => hfinal, fun _ _ => .inl hfinal, ?_⟩
    intro receipt hreturned
    rw [hrun] at hreturned
    exact .inl ⟨happlied receipt hreturned, hfinal⟩
  · rw [Fallible.run_bind] at hrun
    rcases persist_cases (s.edit fun _ => after.noteReceipt receipt) with
      ⟨-, hpersist⟩ | ⟨journal, hjournal, ⟨-, hpersist⟩ | ⟨hlost, hpersist⟩⟩ <;>
      rw [hpersist] at hrun
    · exact heffect.appliesOnce rfl hrun
    · exact heffect.appliesOnce rfl hrun
    · refine ⟨?_, ?_, ?_⟩
      · intro applied hmem hsame
        exact absurd hsame (heffect.unapplied_id hmem)
      · intro error _
        rw [final_eq hrun]
        exact .inr ⟨⟨journal, hjournal, hlost⟩,
          fun _ hpreview => execute_closed rfl hpreview⟩
      · intro returned hreturned
        rw [hrun] at hreturned
        cases hreturned

end PaperTradingService

/-! ## A lost append, and a quantity that does not read back -/

namespace Session

attribute [local instance] contentHash

def dividend (heldQuantity : Decimal) : PaperCorporateAction :=
  ⟨.cashDividend "dividend-1" "aapl" "2026-01-05T15:00:00Z" (amount 1),
    heldQuantity, "operator-1", "2026-01-05T15:00:00Z"⟩

def lossyStart : PaperTradingService IbkrPaperAdapter :=
  { start with journal := some ⟨[], false, [.lost]⟩ }

def shortest : Decimal := .least

def shortStart : PaperTradingService IbkrPaperAdapter :=
  { start with
    portfolios := (∅ : OrderedMap String Portfolio).insert "aapl"
      ⟨"acct-1", "aapl", shortest, amount 100000000, Decimal.zero⟩ }

/-- A refused action may stay in memory, and a receipt may not read back. -/
theorem action_kept_or_unreadable : (¬∀ (s : PaperTradingService IbkrPaperAdapter)
        (request : PaperCorporateAction) (error : PaperError),
      ((PaperTradingService.applyCorporateAction request).run s).1 = .error error →
        ((PaperTradingService.applyCorporateAction request).final
          s).corporateActions = s.corporateActions)
      ∧ ¬∀ (s : PaperTradingService IbkrPaperAdapter)
          (request : PaperCorporateAction)
          (receipt : PaperCorporateActionReceipt),
        s.Restores →
        ((PaperTradingService.applyCorporateAction request).run s).1 = .ok receipt →
          (PersistentCorporateAction.ofReceipt receipt).toReceipt
            = .ok receipt := by
  constructor
  · intro h
    have hfailed : ((PaperTradingService.applyCorporateAction
        (dividend Decimal.zero)).run lossyStart).1
          = .error FilePaperJournal.writeFailure := by
      decide
    have hsame := h lossyStart (dividend Decimal.zero) _ hfailed
    revert hsame
    decide
  · intro h
    have happlied : ((PaperTradingService.applyCorporateAction
        (dividend shortest)).run shortStart).1
          = .ok ⟨(dividend shortest).action, "operator-1",
            "2026-01-05T15:00:00Z", shortest, shortest,
            amount (i128Min.tdiv 100000000)⟩ := by
      decide
    have hrestored := congrArg Except.toOption
      (h shortStart (dividend shortest) _ rfl happlied)
    revert hrestored
    decide

end Session

end Follon.Paper
