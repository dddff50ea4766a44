import Follon.Domain.Failure
import Follon.Foundation.ShortIds

/-!
# Adversarial evaluations and counterfactual scenarios

Two certified records of research figures a caller supplies: the outcomes of
the stress probes, and the differences between a baseline run and a perturbed
one.  Each has a short id and is written as JSON by hand.
-/

namespace Follon.Backtest

open Foundation Domain

/-! ## Hand-written JSON -/

def quoted (value : String) : String := "\"" ++ value ++ "\""

def jsonMember (name value : String) : String := quoted name ++ ":" ++ value

def jsonArray (items : List String) : String := "[" ++ joinWith "," items ++ "]"

/-! ## Adversarial evaluations -/

structure AdversarialProbeResult where
  (probeName probeDescription : String)
  passed : Bool
  (degradationBps thresholdBps : Int64)
  deriving DecidableEq

structure AdversarialEvaluation where
  adversarialSchemaVersion : UInt32
  (evaluationId strategyVersion : String)
  probes : List AdversarialProbeResult
  compositeRobustnessScoreBps : UInt32
  gatePassed : Bool
  blockingFailureReasons : List String
  evaluatedAt : String
  deriving DecidableEq

namespace AdversarialProbeResult

def toJson (probe : AdversarialProbeResult) : String :=
  "\x7b" ++ jsonMember "probe_name" (quoted probe.probeName) ++
    "," ++ jsonMember "probe_description" (quoted probe.probeDescription) ++
    "," ++ jsonMember "passed" (toString probe.passed) ++
    "," ++ jsonMember "degradation_bps" (toString probe.degradationBps.toInt) ++
    "," ++ jsonMember "threshold_bps" (toString probe.thresholdBps.toInt) ++
    "\x7d"

def failureReason (probe : AdversarialProbeResult) : String :=
  probe.probeName ++ ": degradation of " ++
    toString probe.degradationBps.toInt ++ " bps exceeded threshold of " ++
    toString probe.thresholdBps.toInt ++ " bps"

end AdversarialProbeResult

def AdversarialEvaluation.toJson (evaluation : AdversarialEvaluation) : String :=
  "\x7b" ++ jsonMember "adversarial_schema_version" "1" ++
    "," ++ jsonMember "evaluation_id" (quoted evaluation.evaluationId) ++
    "," ++ jsonMember "strategy_version" (quoted evaluation.strategyVersion) ++
    "," ++ jsonMember "probes"
      (jsonArray (evaluation.probes.map AdversarialProbeResult.toJson)) ++
    "," ++ jsonMember "composite_robustness_score_bps"
      (toString (evaluation.compositeRobustnessScoreBps.toNat : Int)) ++
    "," ++ jsonMember "gate_passed" (toString evaluation.gatePassed) ++
    "," ++ jsonMember "blocking_failure_reasons"
      (jsonArray (evaluation.blockingFailureReasons.map quoted)) ++
    "," ++ jsonMember "evaluated_at" (quoted evaluation.evaluatedAt) ++
    "\x7d"

def tallyProbes (probes : List AdversarialProbeResult) : Nat × List String :=
  probes.foldl
    (fun tally probe =>
      if probe.passed then (tally.1 + 1, tally.2)
      else (tally.1, tally.2 ++ [probe.failureReason]))
    (0, [])

def evaluationText (strategyVersion evaluatedAt : String) : String :=
  strategyVersion ++ ":" ++ evaluatedAt

def evaluateProbes [ContentHash] (strategyVersion : String)
    (probes : List AdversarialProbeResult) (evaluatedAt : String) :
    Result AdversarialEvaluation := do
  refuseIf (probes.length < 5)
    "adversarial evaluation requires all 5 standardized stress probes"
  let (passedCount, blockingFailureReasons) := tallyProbes probes
  pure
    { adversarialSchemaVersion := 1
      evaluationId :=
        shortId "adveval." (evaluationText strategyVersion evaluatedAt)
      strategyVersion
      probes
      compositeRobustnessScoreBps :=
        UInt32.ofNat (passedCount * 10000 / probes.length)
      gatePassed := blockingFailureReasons.isEmpty
      blockingFailureReasons
      evaluatedAt }

/-! ## Counterfactual scenarios -/

inductive CounterfactualInterventionType where
  | riskCollarAdjustment
  | networkLatencyInjection
  | dataBarCorruption
  | volatilityShock
  deriving DecidableEq

def CounterfactualInterventionType.asStr : CounterfactualInterventionType → String
  | .riskCollarAdjustment => "RISK_COLLAR_ADJUSTMENT"
  | .networkLatencyInjection => "NETWORK_LATENCY_INJECTION"
  | .dataBarCorruption => "DATA_BAR_CORRUPTION"
  | .volatilityShock => "VOLATILITY_SHOCK"

structure CounterfactualIntervention where
  interventionType : CounterfactualInterventionType
  (parameterName baselineValue counterfactualValue : String)
  deriving DecidableEq

structure CounterfactualDeltaMetrics where
  fillCountDelta : Int64
  pnlDeltaUsd : String
  (maxDrawdownDeltaBps riskRejectionCountDelta : Int64)
  deriving DecidableEq

structure CounterfactualScenario where
  scenarioSchemaVersion : UInt32
  (scenarioId baselineRunId : String)
  seed : UInt64
  interventions : List CounterfactualIntervention
  deltaMetrics : CounterfactualDeltaMetrics
  (divergenceEventId createdAt : String)
  deriving DecidableEq

def CounterfactualIntervention.toJson
    (intervention : CounterfactualIntervention) : String :=
  "\x7b" ++ jsonMember "intervention_type"
      (quoted intervention.interventionType.asStr) ++
    "," ++ jsonMember "parameter_name" (quoted intervention.parameterName) ++
    "," ++ jsonMember "baseline_value" (quoted intervention.baselineValue) ++
    "," ++ jsonMember "counterfactual_value"
      (quoted intervention.counterfactualValue) ++
    "\x7d"

def CounterfactualDeltaMetrics.toJson (metrics : CounterfactualDeltaMetrics) : String :=
  "\x7b" ++ jsonMember "fill_count_delta"
      (toString metrics.fillCountDelta.toInt) ++
    "," ++ jsonMember "pnl_delta_usd" (quoted metrics.pnlDeltaUsd) ++
    "," ++ jsonMember "max_drawdown_delta_bps"
      (toString metrics.maxDrawdownDeltaBps.toInt) ++
    "," ++ jsonMember "risk_rejection_count_delta"
      (toString metrics.riskRejectionCountDelta.toInt) ++
    "\x7d"

def CounterfactualScenario.toJson (scenario : CounterfactualScenario) : String :=
  "\x7b" ++ jsonMember "scenario_schema_version" "1" ++
    "," ++ jsonMember "scenario_id" (quoted scenario.scenarioId) ++
    "," ++ jsonMember "baseline_run_id" (quoted scenario.baselineRunId) ++
    "," ++ jsonMember "seed" (toString (scenario.seed.toNat : Int)) ++
    "," ++ jsonMember "interventions" (jsonArray
      (scenario.interventions.map CounterfactualIntervention.toJson)) ++
    "," ++ jsonMember "delta_metrics" scenario.deltaMetrics.toJson ++
    "," ++ jsonMember "divergence_event_id"
      (quoted scenario.divergenceEventId) ++
    "," ++ jsonMember "created_at" (quoted scenario.createdAt) ++
    "\x7d"

/-- `format!("{:.2}", (cents as f64) / 100.0)` -/
class UsdFormat where
  formatUsd : Int64 → String

structure ScenarioRequest where
  baselineRunId : String
  seed : UInt64
  interventions : List CounterfactualIntervention
  (baselineFills counterfactualFills baselinePnlCents : Int64)
  (counterfactualPnlCents baselineMaxDrawdownBps : Int64)
  (counterfactualMaxDrawdownBps baselineRejections : Int64)
  counterfactualRejections : Int64
  (divergenceEventId createdAt : String)

def scenarioText (baselineRunId : String) (seed : UInt64) (createdAt : String) : String :=
  baselineRunId ++ ":" ++ toString (seed.toNat : Int) ++ ":" ++ createdAt

def ScenarioRequest.deltaMetrics [UsdFormat] (request : ScenarioRequest) :
    CounterfactualDeltaMetrics where
  fillCountDelta := request.counterfactualFills - request.baselineFills
  pnlDeltaUsd := UsdFormat.formatUsd
    (request.counterfactualPnlCents - request.baselinePnlCents)
  maxDrawdownDeltaBps :=
    request.counterfactualMaxDrawdownBps - request.baselineMaxDrawdownBps
  riskRejectionCountDelta :=
    request.counterfactualRejections - request.baselineRejections

def evaluateScenario [ContentHash] [UsdFormat] (request : ScenarioRequest) :
    Result CounterfactualScenario := do
  refuseIf (request.interventions.isEmpty = true)
    "counterfactual scenario requires at least one intervention"
  pure
    { scenarioSchemaVersion := 1
      scenarioId := shortId "cf."
        (scenarioText request.baselineRunId request.seed request.createdAt)
      baselineRunId := request.baselineRunId
      seed := request.seed
      interventions := request.interventions
      deltaMetrics := request.deltaMetrics
      divergenceEventId := request.divergenceEventId
      createdAt := request.createdAt }

end Follon.Backtest
