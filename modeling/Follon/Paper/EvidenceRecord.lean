import Follon.Paper.Decisions
import Follon.Paper.OrderSteps

/-!
# The record of evidence

Evidence is keyed by the intent it was decided for.  A decision replaces the
evidence of an earlier one under the same intent, so the record is append-only
in the runs that decide no intent twice.
-/

namespace Follon.Paper

open Foundation Domain ControlPlane Accounting

def freshDecisions : Allowance where
  event _ _ := True
  decision s intent := s.riskEvidence[riskDecisionId intent.intentId]? = none
  comboDecision s intent :=
    s.comboRiskEvidence[comboRiskDecisionId intent.intentId]? = none
  action _ _ := True

structure EvidenceKept (s t : ServiceRecord) : Prop where
  plain : ∀ (decisionId : String) evidence, s.riskEvidence[decisionId]? = some evidence →
      t.riskEvidence[decisionId]? = some evidence
  combo : ∀ (decisionId : String) evidence,
    s.comboRiskEvidence[decisionId]? = some evidence →
      t.comboRiskEvidence[decisionId]? = some evidence

namespace EvidenceKept

variable {s t : ServiceRecord}

theorem same (h : t.toEvidenceRecord = s.toEvidenceRecord) : EvidenceKept s t := by
  have hplain : t.riskEvidence = s.riskEvidence := by rw [h]
  have hcombo : t.comboRiskEvidence = s.comboRiskEvidence := by rw [h]
  exact ⟨fun _ _ hfind => hplain ▸ hfind, fun _ _ hfind => hcombo ▸ hfind⟩

theorem refl (s : ServiceRecord) : EvidenceKept s s := same rfl

theorem setBooks (books : Books) : EvidenceKept s (s.setBooks books) := same rfl

theorem trans {u : ServiceRecord} (hst : EvidenceKept s t)
    (htu : EvidenceKept t u) : EvidenceKept s u :=
  ⟨fun id evidence h => htu.plain id evidence (hst.plain id evidence h),
    fun id evidence h => htu.combo id evidence (hst.combo id evidence h)⟩

theorem getElem?_insert_free {V : Type} {entries : OrderedMap String V}
    {key id : String} {value entry : V} (hfree : entries[key]? = none)
    (h : entries[id]? = some entry) : (entries.insert key value)[id]? = some entry := by
  rw [getElem?_insert]
  split
  · next hsame =>
      rw [Std.LawfulEqCmp.compare_eq_iff_eq] at hsame
      subst hsame
      rw [hfree] at h
      cases h
  · exact h

theorem recordEvidence {evidence : PaperRiskEvidence}
    (hfree : s.riskEvidence[evidence.decision.decisionId]? = none) :
    EvidenceKept s (s.recordEvidence evidence) :=
  ⟨fun _ _ h => getElem?_insert_free hfree h, fun _ _ h => h⟩

theorem recordComboEvidence {evidence : PaperComboRiskEvidence}
    (hfree : s.comboRiskEvidence[evidence.decision.decisionId]? = none) :
    EvidenceKept s (s.recordComboEvidence evidence) :=
  ⟨fun _ _ h => h, fun _ _ h => getElem?_insert_free hfree h⟩

end EvidenceKept

theorem Edit.evidenceKept {s t : ServiceRecord}
    {prepared : Option BrokerCommand} (h : Edit freshDecisions s prepared t) :
    EvidenceKept s t := by
  cases h with
  | refused admitted decides hnew hrefused hmay =>
    exact .recordEvidence (decides.on.decisionId ▸ hmay)
  | created admitted decides hnew horder hmay =>
    refine (EvidenceKept.setBooks _).trans (.recordEvidence ?_)
    exact decides.on.decisionId ▸ hmay
  | comboRefused admitted decides hnew hrefused hmay =>
    exact .recordComboEvidence (decides.on.decisionId ▸ hmay)
  | comboCreated admitted decides hnew horder hmay =>
    refine (EvidenceKept.setBooks _).trans (.recordComboEvidence ?_)
    exact decides.on.decisionId ▸ hmay
  | cancelling => exact .same rfl
  | comboCancelling => exact .same rfl
  | acted admitted heffect =>
    refine .same ?_
    rw [ServiceRecord.noteReceipt]
    exact (takeEffect_frame heffect).evidence
  | _ => exact .same rfl

theorem RecordStep.evidenceKept {s t : ServiceRecord}
    (h : RecordStep freshDecisions s t) : EvidenceKept s t := by
  cases h with
  | edited h => exact h.evidenceKept
  | observed h => cases h <;> exact .same rfl
  | replacing h =>
    cases h with
    | begun => exact .same rfl

namespace PaperTradingService

variable {B : Type} [PaperBrokerAdapter B] [ContentHash]

/-- A run that decides no intent twice only ever adds evidence. -/
theorem risk_evidence_append_only {s t : PaperTradingService B}
    (h : Runs (AllowedStep freshDecisions) s t) : (∀ (decisionId : String) evidence,
      s.riskEvidence[decisionId]? = some evidence →
      t.riskEvidence[decisionId]? = some evidence) ∧ ∀ (decisionId : String) evidence,
      s.comboRiskEvidence[decisionId]? = some evidence →
        t.comboRiskEvidence[decisionId]? = some evidence := by
  have hkept : EvidenceKept s.toServiceRecord t.toServiceRecord := by
    induction h with
    | refl => exact .refl _
    | tail _ hstep ih =>
      exact hstep.changes.record.keeps
        (fun _ _ hkept h => hkept.trans h.evidenceKept) ih
  exact ⟨hkept.plain, hkept.combo⟩

end PaperTradingService

namespace Session

attribute [local instance] contentHash

def oversized : OrderIntent := { intent with quantity := amount 200000000000 }

def submit (intent : OrderIntent) : Operation :=
  .submitIntent intent market decidedAt none

/-- The evidence of an approved order after another intent was refused. -/
theorem risk_evidence_after_refusal : ∃ t : PaperTradingService IbkrPaperAdapter,
      t.riskEvidence.size = 2 ∧ (∀ (decisionId : String) evidence,
          (play start submission).riskEvidence[decisionId]? = some evidence →
            t.riskEvidence[decisionId]? = some evidence) ∧
        ∀ (decisionId : String) evidence,
          (play start submission).comboRiskEvidence[decisionId]? = some evidence →
            t.comboRiskEvidence[decisionId]? = some evidence := by
  let second : OrderIntent := { oversized with intentId := "intent-2" }
  have hfree : (play start submission).riskEvidence["paper-risk-intent-2"]?
      = none := by decide
  have hwithin : PaperTradingService.Within freshDecisions
      (play start submission) (submit second) := fun _ _ _ => hfree
  refine ⟨play (play start submission) (.operate (submit second)), ?_,
    PaperTradingService.risk_evidence_append_only (.single (.operate hwithin))⟩
  decide

/-- A refused intent corrected and submitted again under its own id replaces
the evidence of the refusal. -/
theorem refusal_evidence_replaced : ∃ s t : PaperTradingService IbkrPaperAdapter,
      Reachable PaperTradingService.Started PaperTradingService.Step s ∧
        PaperTradingService.Step s t ∧
          ∃ (decisionId : String) (evidence : PaperRiskEvidence),
            s.riskEvidence[decisionId]? = some evidence ∧
              t.riskEvidence[decisionId]? ≠ some evidence := by
  let refused := play start (.operate (submit oversized))
  have hbefore : refused.riskEvidence["paper-risk-intent-1"]?.map
      (·.decision.approved) = some false := by decide
  have hafter : (play refused submission).riskEvidence[
      "paper-risk-intent-1"]?.map (·.decision.approved) = some true := by
    decide
  obtain ⟨evidence, hfind, hrefused⟩ := map_eq_some_iff.mp hbefore
  refine ⟨refused, play refused submission, reachable_plays [.operate (submit oversized)],
    play_step refused submission, "paper-risk-intent-1", evidence, hfind, ?_⟩
  intro hkept
  rw [hkept, Option.map_some, hrefused] at hafter
  cases hafter

end Session

end Follon.Paper
