import Follon.Paper.RecordRuns

/-!
# Risk decisions

What the risk gate's decision says about the intent it judged.
-/

namespace Follon.Paper

open Foundation Domain ControlPlane Accounting

/-! ## What a decision says -/

structure DecisionOn (s : ServiceRecord)
    (decisionId intentId correlationId decidedAt : String)
    (decision : RiskDecision) : Prop where
  decisionId : decision.decisionId = decisionId
  intentId : decision.intentId = intentId
  correlationId : decision.correlationId = correlationId
  decidedAt : decision.decidedAt = decidedAt
  policyVersion : decision.policyVersion = s.riskPolicy.version
  actor : decision.actor = "paper_risk_engine"
  explained : decision.reasonCodes ≠ []

namespace ServiceRecord

variable {s : ServiceRecord} {decision : RiskDecision} {decidedAt : String}

theorem decisionOf_on (s : ServiceRecord)
    (decisionId intentId correlationId decidedAt : String)
    (reasons : List String) (evidence : List (String × String)) :
    DecisionOn s decisionId intentId correlationId decidedAt
      (s.decisionOf decisionId intentId correlationId decidedAt reasons
        evidence) := by
  refine ⟨rfl, rfl, rfl, rfl, rfl, rfl, ?_⟩
  cases reasons <;> simp [decisionOf]

theorem Decides.on {intent : OrderIntent} {market : PaperMarketData}
    (h : s.Decides intent market decidedAt decision) :
    DecisionOn s (riskDecisionId intent.intentId) intent.intentId
      intent.correlationId decidedAt decision := by
  obtain ⟨equity, h⟩ := h
  simp only [riskDecision, bind_eq_ok, pure_eq_ok] at h
  obtain ⟨assessed, -, rfl⟩ := h
  exact s.decisionOf_on _ _ _ _ _ _

theorem DecidesCombo.on {intent : ComboIntent} {market : PaperComboMarketData}
    (h : s.DecidesCombo intent market decidedAt decision) :
    DecisionOn s (comboRiskDecisionId intent.intentId) intent.intentId
      intent.correlationId decidedAt decision := by
  obtain ⟨equity, h⟩ := h
  simp only [comboRiskDecision, bind_eq_ok, pure_eq_ok] at h
  obtain ⟨assessed, -, rfl⟩ := h
  exact s.decisionOf_on _ _ _ _ _ _

end ServiceRecord

end Follon.Paper
