import Follon.Backtest.ResearchRecords
import Follon.MarketData.Rights

/-!
# Research evidence ids

The id of an evaluation, a scenario or a receipt covers a few of its fields,
and the text of an evaluation or a scenario copies its strings.  Where the
remaining fields agree and no string needs an escape, both are faithful.
-/

namespace Follon.Backtest

open Foundation Domain MarketData

/-! ## Documents -/

def AdversarialProbeResult.document (probe : AdversarialProbeResult) : Json :=
  .obj
    [("probe_name", .str probe.probeName),
      ("probe_description", .str probe.probeDescription),
      ("passed", .bool probe.passed),
      ("degradation_bps", .num probe.degradationBps.toInt),
      ("threshold_bps", .num probe.thresholdBps.toInt)]

def AdversarialEvaluation.document (evaluation : AdversarialEvaluation) : Json :=
  .obj
    [("adversarial_schema_version",
        .num evaluation.adversarialSchemaVersion.toNat),
      ("evaluation_id", .str evaluation.evaluationId),
      ("strategy_version", .str evaluation.strategyVersion),
      ("probes",
        .arr (evaluation.probes.map AdversarialProbeResult.document)),
      ("composite_robustness_score_bps",
        .num evaluation.compositeRobustnessScoreBps.toNat),
      ("gate_passed", .bool evaluation.gatePassed),
      ("blocking_failure_reasons",
        .arr (evaluation.blockingFailureReasons.map Json.str)),
      ("evaluated_at", .str evaluation.evaluatedAt)]

def CounterfactualIntervention.document
    (intervention : CounterfactualIntervention) : Json :=
  .obj
    [("intervention_type", .str intervention.interventionType.asStr),
      ("parameter_name", .str intervention.parameterName),
      ("baseline_value", .str intervention.baselineValue),
      ("counterfactual_value", .str intervention.counterfactualValue)]

def CounterfactualDeltaMetrics.document (metrics : CounterfactualDeltaMetrics) : Json :=
  .obj
    [("fill_count_delta", .num metrics.fillCountDelta.toInt),
      ("pnl_delta_usd", .str metrics.pnlDeltaUsd),
      ("max_drawdown_delta_bps", .num metrics.maxDrawdownDeltaBps.toInt),
      ("risk_rejection_count_delta",
        .num metrics.riskRejectionCountDelta.toInt)]

def CounterfactualScenario.document (scenario : CounterfactualScenario) : Json :=
  .obj
    [("scenario_schema_version", .num scenario.scenarioSchemaVersion.toNat),
      ("scenario_id", .str scenario.scenarioId),
      ("baseline_run_id", .str scenario.baselineRunId),
      ("seed", .num scenario.seed.toNat),
      ("interventions",
        .arr (scenario.interventions.map CounterfactualIntervention.document)),
      ("delta_metrics", scenario.deltaMetrics.document),
      ("divergence_event_id", .str scenario.divergenceEventId),
      ("created_at", .str scenario.createdAt)]

/-! ## The written text is the verbatim print -/

theorem jsonMember_eq (name : String) (value : Json) :
    jsonMember name (Json.print Json.verbatim value) =
      Json.printMember Json.verbatim (name, value) := by
  rw [jsonMember, quoted, Json.printMember, Json.quote_verbatim]

theorem quoted_eq (value : String) :
    quoted value = Json.print Json.verbatim (.str value) := by
  rw [quoted, Json.print, Json.quote_verbatim]

theorem jsonArray_eq {α : Type} {toJson : α → String} {document : α → Json}
    (h : ∀ item, toJson item = Json.print Json.verbatim (document item))
    (items : List α) : jsonArray (items.map toJson) =
      Json.print Json.verbatim (.arr (items.map document)) := by
  rw [jsonArray, Json.print_arr, map_map, funext h]
  rfl

theorem toString_int_eq (n : Int) : toString n = Json.print Json.verbatim (.num n) := by
  rw [Json.print]

theorem toString_bool_eq (b : Bool) :
    toString b = Json.print Json.verbatim (.bool b) := by
  rw [Json.print]

theorem AdversarialProbeResult.toJson_eq (probe : AdversarialProbeResult) :
    probe.toJson = Json.print Json.verbatim probe.document := by
  simp only [toJson, document, Json.print_obj, quoted_eq, toString_int_eq,
    toString_bool_eq, jsonMember_eq, map_cons, map_nil,
    joinWith_cons_cons, joinWith, String.append_assoc]

theorem CounterfactualIntervention.toJson_eq (intervention : CounterfactualIntervention) :
    intervention.toJson = Json.print Json.verbatim intervention.document := by
  simp only [toJson, document, Json.print_obj, quoted_eq, jsonMember_eq, map_cons,
    map_nil, joinWith_cons_cons, joinWith, String.append_assoc]

theorem CounterfactualDeltaMetrics.toJson_eq (metrics : CounterfactualDeltaMetrics) :
    metrics.toJson = Json.print Json.verbatim metrics.document := by
  simp only [toJson, document, Json.print_obj, quoted_eq, toString_int_eq,
    jsonMember_eq, map_cons, map_nil, joinWith_cons_cons, joinWith, String.append_assoc]

theorem version_eq :
    ("1" : String) = Json.print Json.verbatim (.num (1 : UInt32).toNat) := by
  rw [Json.print]
  rfl

theorem AdversarialEvaluation.toJson_eq {evaluation : AdversarialEvaluation}
    (h : evaluation.adversarialSchemaVersion = 1) :
    evaluation.toJson = Json.print Json.verbatim evaluation.document := by
  unfold toJson document
  simp only [h, version_eq, Json.print_obj, jsonArray_eq AdversarialProbeResult.toJson_eq,
    jsonArray_eq quoted_eq, quoted_eq, toString_int_eq, toString_bool_eq, jsonMember_eq,
    map_cons, map_nil, joinWith_cons_cons, joinWith, String.append_assoc]

theorem CounterfactualScenario.toJson_eq {scenario : CounterfactualScenario}
    (h : scenario.scenarioSchemaVersion = 1) :
    scenario.toJson = Json.print Json.verbatim scenario.document := by
  unfold toJson document
  simp only [h, version_eq, Json.print_obj,
    jsonArray_eq CounterfactualIntervention.toJson_eq,
    CounterfactualDeltaMetrics.toJson_eq, quoted_eq, toString_int_eq, jsonMember_eq,
    map_cons, map_nil, joinWith_cons_cons, joinWith, String.append_assoc]

/-! ## Depth of the documents -/

variable {depth : Nat}

theorem AdversarialProbeResult.nested_document (probe : AdversarialProbeResult) :
    probe.document.Nested (depth + 2) :=
  Json.nested_record rfl

theorem AdversarialEvaluation.nested_document (evaluation : AdversarialEvaluation) :
    evaluation.document.Nested 127 := by
  refine .obj ?_
  simp only [forall_mem_cons, not_mem_nil, false_implies, implies_true, and_true]
  exact ⟨.num _, .str _, .str _,
    Json.nested_map AdversarialProbeResult.nested_document _, .num _, .bool _,
    Json.nested_map (fun reason => .str reason) _, .str _⟩

theorem CounterfactualIntervention.nested_document
    (intervention : CounterfactualIntervention) :
    intervention.document.Nested (depth + 2) :=
  Json.nested_record rfl

theorem CounterfactualDeltaMetrics.nested_document
    (metrics : CounterfactualDeltaMetrics) : metrics.document.Nested (depth + 2) :=
  Json.nested_record rfl

theorem CounterfactualScenario.nested_document
    (scenario : CounterfactualScenario) : scenario.document.Nested 127 := by
  refine .obj ?_
  simp only [forall_mem_cons, not_mem_nil, false_implies, implies_true, and_true]
  exact ⟨.num _, .str _, .str _, .num _,
    Json.nested_map CounterfactualIntervention.nested_document _,
    scenario.deltaMetrics.nested_document, .str _, .str _⟩

/-! ## Evaluations -/

theorem tallyProbes_eq (probes : List AdversarialProbeResult) : tallyProbes probes =
      (probes.countP (·.passed),
        (probes.filter (!·.passed)).map
          AdversarialProbeResult.failureReason) := by
  induction probes using List.reverseRecOn with
  | nil => rfl
  | append_singleton probes probe ih =>
    rw [tallyProbes] at ih
    rw [tallyProbes, List.foldl_concat, ih]
    cases hpassed : probe.passed with
    | true => simp [hpassed]
    | false => simp [hpassed]

theorem plainText_failureReason {probe : AdversarialProbeResult}
    (h : Json.PlainText probe.probeName) : Json.PlainText probe.failureReason := by
  simp only [AdversarialProbeResult.failureReason, Json.plainText_append,
    Json.plainText_toString, h, true_and, and_true]
  decide

def PlainProbes (strategyVersion : String)
    (probes : List AdversarialProbeResult) (evaluatedAt : String) : Prop :=
  Json.PlainText strategyVersion ∧ (∀ probe ∈ probes, Json.PlainText probe.probeName ∧
      Json.PlainText probe.probeDescription) ∧
    Json.PlainText evaluatedAt

theorem AdversarialProbeResult.all_document (probe : AdversarialProbeResult) :
    probe.document.all Json.isPlain = true ↔ Json.PlainText probe.probeName ∧
        Json.PlainText probe.probeDescription := by
  rw [document, Json.all_obj_iff
    (by simp only [map_cons, map_nil]; decide)]
  simp [Json.all, Json.PlainText]

section

variable [ContentHash]

variable {strategyVersion evaluatedAt : String}
  {evaluation : AdversarialEvaluation}

theorem evaluateProbes_eq_ok {probes : List AdversarialProbeResult}
    (h : evaluateProbes strategyVersion probes evaluatedAt = .ok evaluation) :
    evaluation =
      { adversarialSchemaVersion := 1
        evaluationId :=
          shortId "adveval." (evaluationText strategyVersion evaluatedAt)
        strategyVersion
        probes
        compositeRobustnessScoreBps :=
          UInt32.ofNat ((tallyProbes probes).1 * 10000 / probes.length)
        gatePassed := (tallyProbes probes).2.isEmpty
        blockingFailureReasons := (tallyProbes probes).2
        evaluatedAt } := by
  obtain ⟨_, -, hevaluation⟩ := bind_eq_ok.mp h
  exact (Except.ok.inj hevaluation).symm

theorem evaluateProbes_complete (strategyVersion evaluatedAt : String)
    {probes : List AdversarialProbeResult} (h : 5 ≤ probes.length) : ∃ evaluation,
      evaluateProbes strategyVersion probes evaluatedAt = .ok evaluation :=
  ⟨_, bind_eq_ok.mpr ⟨(), refuseIf_eq_ok.mpr (by omega), rfl⟩⟩

/-- An evaluation's id tells it apart exactly where the strategy version and
the time do. -/
theorem evaluationId_apart_iff {strategyVersion' evaluatedAt' : String}
    {probes probes' : List AdversarialProbeResult} {evaluation' : AdversarialEvaluation}
    (h : evaluateProbes strategyVersion probes evaluatedAt = .ok evaluation)
    (h' : evaluateProbes strategyVersion' probes' evaluatedAt' = .ok evaluation')
    (hdigest : TellsApart (evaluationText strategyVersion evaluatedAt)
      (evaluationText strategyVersion' evaluatedAt')) : (evaluation ≠ evaluation' →
        evaluation.evaluationId ≠ evaluation'.evaluationId) ↔
      (strategyVersion = strategyVersion' ∧ probes = probes' ∧
        evaluatedAt = evaluatedAt') ∨
      evaluationText strategyVersion evaluatedAt ≠
        evaluationText strategyVersion' evaluatedAt' := by
  have hevaluation := evaluateProbes_eq_ok h
  have hevaluation' := evaluateProbes_eq_ok h'
  refine @names_apart_iff _ _ AdversarialEvaluation.evaluationId _ _ _
    "adveval." _ _ hdigest (by rw [hevaluation]) (by rw [hevaluation']) ?_
  constructor
  · intro hsame
    rw [hevaluation, hevaluation', AdversarialEvaluation.mk.injEq] at hsame
    obtain ⟨-, -, hversion, hprobes, -, -, -, hat⟩ := hsame
    exact ⟨hversion, hprobes, hat⟩
  · rintro ⟨rfl, rfl, rfl⟩
    rw [hevaluation, hevaluation']

/-- An evaluation's text reads as its fields exactly when no string of the
caller needs an escape. -/
theorem evaluation_read_iff (hprints : PrintsDigests)
    {probes : List AdversarialProbeResult}
    (h : evaluateProbes strategyVersion probes evaluatedAt = .ok evaluation) :
    Json.read evaluation.toJson = some evaluation.document ↔
      PlainProbes strategyVersion probes evaluatedAt := by
  have hevaluation := evaluateProbes_eq_ok h
  have hversion : evaluation.adversarialSchemaVersion = 1 := by
    rw [hevaluation]
  have hid := @plainText_shortId _ hprints "adveval." (by decide)
    (evaluationText strategyVersion evaluatedAt)
  have hreasons : (∀ probe ∈ probes, Json.PlainText probe.probeName) →
      ∀ reason ∈ (tallyProbes probes).2, Json.PlainText reason := by
    intro hnames reason hreason
    rw [tallyProbes_eq] at hreason
    obtain ⟨probe, hprobe, rfl⟩ := mem_map.mp hreason
    exact plainText_failureReason (hnames probe (mem_filter.mp hprobe).1)
  rw [AdversarialEvaluation.toJson_eq hversion,
    Json.read_print_verbatim evaluation.nested_document,
    AdversarialEvaluation.document, Json.all_obj_iff
      (by simp only [map_cons, map_nil]; decide)]
  simp only [forall_mem_cons, not_mem_nil, false_implies, implies_true,
    and_true, Json.all_map_iff, AdversarialProbeResult.all_document, hevaluation]
  constructor
  · rintro ⟨-, -, hstrategy, hprobes, -, -, -, hat⟩
    exact ⟨hstrategy, hprobes, hat⟩
  · rintro ⟨hstrategy, hprobes, hat⟩
    exact ⟨rfl, hid, hstrategy, hprobes, rfl, rfl,
      hreasons fun probe hprobe => (hprobes probe hprobe).1, hat⟩

end

/-! ## Scenarios -/

def UsdFormat.PrintsPlain [UsdFormat] : Prop :=
  ∀ cents, Json.PlainText (UsdFormat.formatUsd cents)

/-- Two requests a scenario does not record a difference between. -/
structure ScenarioRequest.RecordsSame [UsdFormat]
    (request request' : ScenarioRequest) : Prop where
  baselineRunId : request.baselineRunId = request'.baselineRunId
  seed : request.seed = request'.seed
  interventions : request.interventions = request'.interventions
  fills : request.counterfactualFills - request.baselineFills =
    request'.counterfactualFills - request'.baselineFills
  pnl : UsdFormat.formatUsd
      (request.counterfactualPnlCents - request.baselinePnlCents) =
    UsdFormat.formatUsd
      (request'.counterfactualPnlCents - request'.baselinePnlCents)
  maxDrawdown :
    request.counterfactualMaxDrawdownBps - request.baselineMaxDrawdownBps =
      request'.counterfactualMaxDrawdownBps - request'.baselineMaxDrawdownBps
  rejections : request.counterfactualRejections - request.baselineRejections =
    request'.counterfactualRejections - request'.baselineRejections
  divergenceEventId : request.divergenceEventId = request'.divergenceEventId
  createdAt : request.createdAt = request'.createdAt

def ScenarioRequest.Plain (request : ScenarioRequest) : Prop :=
  Json.PlainText request.baselineRunId ∧ (∀ intervention ∈ request.interventions,
      Json.PlainText intervention.parameterName ∧
        Json.PlainText intervention.baselineValue ∧
        Json.PlainText intervention.counterfactualValue) ∧
    Json.PlainText request.divergenceEventId ∧
    Json.PlainText request.createdAt

def ScenarioRequest.text (request : ScenarioRequest) : String :=
  scenarioText request.baselineRunId request.seed request.createdAt

theorem CounterfactualInterventionType.plainText_asStr
    (value : CounterfactualInterventionType) : Json.PlainText value.asStr := by
  cases value <;> decide

theorem CounterfactualIntervention.all_document
    (intervention : CounterfactualIntervention) :
    intervention.document.all Json.isPlain = true ↔
      Json.PlainText intervention.parameterName ∧
        Json.PlainText intervention.baselineValue ∧
        Json.PlainText intervention.counterfactualValue := by
  have htype := intervention.interventionType.plainText_asStr
  unfold Json.PlainText at htype
  rw [document, Json.all_obj_iff
    (by simp only [map_cons, map_nil]; decide)]
  simp [Json.all, Json.PlainText, htype]

theorem CounterfactualDeltaMetrics.all_document (metrics : CounterfactualDeltaMetrics) :
    metrics.document.all Json.isPlain = true ↔
      Json.PlainText metrics.pnlDeltaUsd := by
  rw [document, Json.all_obj_iff
    (by simp only [map_cons, map_nil]; decide)]
  simp [Json.all, Json.PlainText]

theorem deltaMetrics_eq_iff [UsdFormat] {request request' : ScenarioRequest} :
    request.deltaMetrics = request'.deltaMetrics ↔
      request.counterfactualFills - request.baselineFills =
          request'.counterfactualFills - request'.baselineFills ∧
        UsdFormat.formatUsd
            (request.counterfactualPnlCents - request.baselinePnlCents) =
          UsdFormat.formatUsd
            (request'.counterfactualPnlCents - request'.baselinePnlCents) ∧
        request.counterfactualMaxDrawdownBps -
            request.baselineMaxDrawdownBps =
          request'.counterfactualMaxDrawdownBps -
            request'.baselineMaxDrawdownBps ∧
        request.counterfactualRejections - request.baselineRejections =
          request'.counterfactualRejections -
            request'.baselineRejections := by
  rw [ScenarioRequest.deltaMetrics, ScenarioRequest.deltaMetrics,
    CounterfactualDeltaMetrics.mk.injEq]

section

variable [ContentHash] [UsdFormat]

variable {request : ScenarioRequest} {scenario : CounterfactualScenario}

theorem evaluateScenario_eq_ok (h : evaluateScenario request = .ok scenario) : scenario =
      { scenarioSchemaVersion := 1, scenarioId := shortId "cf." request.text
        baselineRunId := request.baselineRunId, seed := request.seed
        interventions := request.interventions
        deltaMetrics := request.deltaMetrics
        divergenceEventId := request.divergenceEventId
        createdAt := request.createdAt } := by
  obtain ⟨_, -, hscenario⟩ := bind_eq_ok.mp h
  exact (Except.ok.inj hscenario).symm

/-- A scenario's id tells it apart exactly where the baseline run, the seed
and the time do. -/
theorem scenarioId_apart_iff {request' : ScenarioRequest}
    {scenario' : CounterfactualScenario} (h : evaluateScenario request = .ok scenario)
    (h' : evaluateScenario request' = .ok scenario')
    (hdigest : TellsApart request.text request'.text) :
    (scenario ≠ scenario' → scenario.scenarioId ≠ scenario'.scenarioId) ↔
      request.RecordsSame request' ∨ request.text ≠ request'.text := by
  have hscenario := evaluateScenario_eq_ok h
  have hscenario' := evaluateScenario_eq_ok h'
  refine @names_apart_iff _ _ CounterfactualScenario.scenarioId _ _ _ "cf."
    _ _ hdigest (by rw [hscenario]) (by rw [hscenario']) ?_
  constructor
  · intro hsame
    rw [hscenario, hscenario', CounterfactualScenario.mk.injEq] at hsame
    obtain ⟨-, -, hrun, hseed, hinterventions, hmetrics, hdivergence, hat⟩ :=
      hsame
    obtain ⟨hfills, hpnl, hdrawdown, hrejections⟩ :=
      deltaMetrics_eq_iff.mp hmetrics
    exact ⟨hrun, hseed, hinterventions, hfills, hpnl, hdrawdown, hrejections,
      hdivergence, hat⟩
  · intro hsame
    have hmetrics := deltaMetrics_eq_iff.mpr
      ⟨hsame.fills, hsame.pnl, hsame.maxDrawdown, hsame.rejections⟩
    rw [hscenario, hscenario', ScenarioRequest.text, ScenarioRequest.text,
      hsame.baselineRunId, hsame.seed, hsame.interventions, hmetrics,
      hsame.divergenceEventId, hsame.createdAt]

/-- A scenario's text reads as its fields exactly when no string of the caller
needs an escape. -/
theorem scenario_read_iff (hprints : PrintsDigests) (husd : UsdFormat.PrintsPlain)
    (h : evaluateScenario request = .ok scenario) :
    Json.read scenario.toJson = some scenario.document ↔ request.Plain := by
  have hscenario := evaluateScenario_eq_ok h
  have hversion : scenario.scenarioSchemaVersion = 1 := by rw [hscenario]
  have hid := @plainText_shortId _ hprints "cf." (by decide) request.text
  have hpnl := husd (request.counterfactualPnlCents - request.baselinePnlCents)
  rw [CounterfactualScenario.toJson_eq hversion,
    Json.read_print_verbatim scenario.nested_document,
    CounterfactualScenario.document, Json.all_obj_iff
      (by simp only [map_cons, map_nil]; decide)]
  simp only [forall_mem_cons, not_mem_nil, false_implies, implies_true,
    and_true, Json.all_map_iff, CounterfactualIntervention.all_document,
    CounterfactualDeltaMetrics.all_document, hscenario]
  constructor
  · rintro ⟨-, -, hrun, -, hinterventions, -, hdivergence, hat⟩
    exact ⟨hrun, hinterventions, hdivergence, hat⟩
  · rintro ⟨hrun, hinterventions, hdivergence, hat⟩
    exact ⟨rfl, hid, hrun, rfl, hinterventions, hpnl, hdivergence, hat⟩

/-! ## Ids and texts -/

/-- An id tells two records apart exactly when the fields it covers do or the
rest agrees, and a text reads as its record exactly when no string of it needs
an escape. -/
theorem research_evidence_exact (hprints : PrintsDigests) (husd : UsdFormat.PrintsPlain) :
    (∀ strategyVersion strategyVersion' probes probes' evaluatedAt evaluatedAt'
        evaluation evaluation',
      evaluateProbes strategyVersion probes evaluatedAt = .ok evaluation →
      evaluateProbes strategyVersion' probes' evaluatedAt' = .ok evaluation' →
      TellsApart (evaluationText strategyVersion evaluatedAt)
        (evaluationText strategyVersion' evaluatedAt') →
      ((evaluation ≠ evaluation' → evaluation.evaluationId ≠ evaluation'.evaluationId) ↔
        (strategyVersion = strategyVersion' ∧ probes = probes' ∧
          evaluatedAt = evaluatedAt') ∨
        evaluationText strategyVersion evaluatedAt ≠
          evaluationText strategyVersion' evaluatedAt')) ∧
    (∀ request request' scenario scenario', evaluateScenario request = .ok scenario →
      evaluateScenario request' = .ok scenario' →
      TellsApart request.text request'.text →
      ((scenario ≠ scenario' → scenario.scenarioId ≠ scenario'.scenarioId) ↔
        request.RecordsSame request' ∨ request.text ≠ request'.text)) ∧
    (∀ (request request' : ReceiptRequest) receipt receipt',
      certifyReceipt request = .ok receipt →
      certifyReceipt request' = .ok receipt' →
      TellsApart
        (receiptText request.providerId request.datasetId request.verifiedAt)
        (receiptText request'.providerId request'.datasetId request'.verifiedAt) →
      ((receipt ≠ receipt' → receipt.receiptId ≠ receipt'.receiptId) ↔
        request = request' ∨ receiptText request.providerId request.datasetId
              request.verifiedAt ≠
            receiptText request'.providerId request'.datasetId
              request'.verifiedAt)) ∧ (∀ strategyVersion probes evaluatedAt evaluation,
      evaluateProbes strategyVersion probes evaluatedAt = .ok evaluation →
      (Json.read evaluation.toJson = some evaluation.document ↔
        PlainProbes strategyVersion probes evaluatedAt)) ∧
    ∀ request scenario, evaluateScenario request = .ok scenario →
      (Json.read scenario.toJson = some scenario.document ↔ request.Plain) :=
  ⟨fun _ _ _ _ _ _ _ _ h h' hdigest => evaluationId_apart_iff h h' hdigest,
    fun _ _ _ _ h h' hdigest => scenarioId_apart_iff h h' hdigest,
    fun _ _ _ _ h h' hdigest => receiptId_apart_iff h h' hdigest,
    fun _ _ _ _ h => evaluation_read_iff hprints h,
    fun _ _ h => scenario_read_iff hprints husd h⟩

end

namespace EvidenceSample

@[reducible] def contentHash : ContentHash :=
  ⟨fun bytes =>
    if bytes.length < 32 then
      "b90b5b88206521a8cb7a3a2d292f7ce5213d8661ac691c2ac6fdfc6fa1ff2ead"
    else
      "6b9a7bb93ee1ce76592f8d3d4cd1a4313eaea2a5f92cb12a4027ee2f2c8072a9"⟩

attribute [local instance] contentHash

def usdText (cents : Int64) : String :=
  let amount : Int := cents.toInt.natAbs
  (if cents.toInt < 0 then "-" else "") ++ toString (amount / 100) ++ "." ++
    toString (amount % 100 / 10) ++ toString (amount % 10)

@[reducible] def usdFormat : UsdFormat :=
  ⟨usdText⟩

attribute [local instance] usdFormat

theorem printsDigests : PrintsDigests := by
  intro bytes
  change isDigest (if bytes.length < 32 then _ else _) = true
  split <;> decide +kernel

theorem printsPlain : UsdFormat.PrintsPlain := by
  intro cents
  change Json.PlainText (usdText cents)
  unfold usdText
  simp only [Json.plainText_append, Json.plainText_toString, and_true]
  refine ⟨?_, by decide⟩
  split <;> decide

def probe (name : String) (degradationBps : Int64) : AdversarialProbeResult where
  probeName := name
  probeDescription := "stress probe"
  passed := degradationBps ≤ 100
  degradationBps
  thresholdBps := 100

def probes (degradationBps : Int64) : List AdversarialProbeResult :=
  [probe "LOOKAHEAD_LEAKAGE_PROBE" degradationBps,
    probe "PRICE_JITTER_PROBE" 45, probe "TRANSACTION_COST_SHOCK" 80,
    probe "PARAMETER_CLIFF_PROBE" 30, probe "REGIME_SHIFT_PROBE" 60]

/-- Evaluations with other figures share an id, and a quotation mark in the
strategy version breaks the text. -/
theorem evidence_not_bound : (∃ steady shaken,
      evaluateProbes "momentum-1" (probes 10) "2026-01-05T00:00:00Z" =
          .ok steady ∧
        evaluateProbes "momentum-1" (probes 900) "2026-01-05T00:00:00Z" =
          .ok shaken ∧
        steady ≠ shaken ∧ steady.gatePassed = true ∧
        shaken.gatePassed = false ∧
        steady.evaluationId = shaken.evaluationId) ∧ ∃ evaluation,
      evaluateProbes "momentum \"1\"" (probes 10) "2026-01-05T00:00:00Z" =
          .ok evaluation ∧
        Json.read evaluation.toJson ≠ some evaluation.document := by
  obtain ⟨steady, hsteady⟩ := @evaluateProbes_complete _ "momentum-1"
    "2026-01-05T00:00:00Z" (probes 10) (by decide)
  obtain ⟨shaken, hshaken⟩ := @evaluateProbes_complete _ "momentum-1"
    "2026-01-05T00:00:00Z" (probes 900) (by decide)
  obtain ⟨spoiled, hspoiled⟩ := @evaluateProbes_complete _ "momentum \"1\""
    "2026-01-05T00:00:00Z" (probes 10) (by decide)
  have hpassed : steady.gatePassed = true := by
    rw [evaluateProbes_eq_ok hsteady]
    decide
  have hfailed : shaken.gatePassed = false := by
    rw [evaluateProbes_eq_ok hshaken]
    decide
  refine ⟨⟨steady, shaken, hsteady, hshaken, ?_, hpassed, hfailed, ?_⟩,
    spoiled, hspoiled, fun hread => ?_⟩
  · rintro rfl
    rw [hpassed] at hfailed
    contradiction
  · rw [evaluateProbes_eq_ok hsteady, evaluateProbes_eq_ok hshaken]
  · have hplain := (evaluation_read_iff printsDigests hspoiled).mp hread
    exact absurd hplain.1 (by decide)

/-- Two strategy versions have two ids, and the text of the first evaluation
reads as its fields. -/
theorem research_evidence_exact_versions : ∃ first second,
      evaluateProbes "momentum-1" (probes 10) "2026-01-05T00:00:00Z" =
          .ok first ∧
        evaluateProbes "momentum-10" (probes 10) "2026-01-05T00:00:00Z" =
          .ok second ∧
        (first ≠ second → first.evaluationId ≠ second.evaluationId) ∧
        Json.read first.toJson = some first.document := by
  obtain ⟨first, hfirst⟩ := @evaluateProbes_complete _ "momentum-1"
    "2026-01-05T00:00:00Z" (probes 10) (by decide)
  obtain ⟨second, hsecond⟩ := @evaluateProbes_complete _ "momentum-10"
    "2026-01-05T00:00:00Z" (probes 10) (by decide)
  have hexact := research_evidence_exact printsDigests printsPlain
  refine ⟨first, second, hfirst, hsecond, ?_, ?_⟩
  · refine (hexact.1 _ _ _ _ _ _ _ _ hfirst hsecond ?_).mpr (.inr ?_)
    · exact fun hsame => absurd hsame (by decide +kernel)
    · decide
  · exact (hexact.2.2.2.1 _ _ _ _ hfirst).mpr
      ⟨by decide, by decide, by decide⟩

end EvidenceSample

end Follon.Backtest
