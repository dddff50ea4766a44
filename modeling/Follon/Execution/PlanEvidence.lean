import Follon.Execution.Routing
import Follon.Foundation.Digest
import Follon.Foundation.JsonReader

/-!
# Plan evidence

A plan is recorded with its routing decisions and benchmarks, under the digest
of its canonical text, after each of them is checked.
-/

namespace Follon.Execution

open Foundation Foundation.Json Domain

structure ExecutionBenchmarkEvidence where
  (benchmarkId parentOrderId : String)
  (arrivalPrice targetPrice : Decimal)
  source : String
  deriving DecidableEq

def ExecutionBenchmarkEvidence.validate
    (benchmark : ExecutionBenchmarkEvidence) : Result Unit := do
  validateCanonicalId "benchmark_id" benchmark.benchmarkId
  validateCanonicalId "parent_order_id" benchmark.parentOrderId
  validateCanonicalId "source" benchmark.source
  refuseIf (benchmark.arrivalPrice ≤ Decimal.zero ∨ benchmark.targetPrice ≤ Decimal.zero)
    "benchmark prices must be positive"

structure ExecutionPlanEvidence where
  (evidenceId parentOrderId accountId instrumentId : String)
  side : Side
  parentQuantity : Decimal
  limitPrice : Option Decimal
  algorithm : String
  children : List ChildInstruction
  unallocatedQuantity : Decimal
  sourceCapabilityVersion : Option String
  routeDecisions : List RouteDecision
  benchmarks : Option ExecutionBenchmarkEvidence
  (planSha256 createdAt : String)
  deriving DecidableEq

/-! ## Canonical text -/

def orderKindLabel : ChildOrderKind → String
  | .market => "MARKET"
  | .limit => "LIMIT"
  | .stop => "STOP"
  | .stopLimit => "STOP_LIMIT"

def decimalValue (value : Decimal) : Json := .str value.display

def optionValue {α : Type} (toValue : α → Json) (value : Option α) : Json :=
  (value.map toValue).getD .null

def childJson (child : ChildInstruction) : Json :=
  .obj [("child_order_id", .str child.childOrderId),
    ("kind", .str (orderKindLabel child.kind)),
    ("limit_price", optionValue decimalValue child.limitPrice),
    ("quantity", decimalValue child.quantity),
    ("scheduled_after_seconds", .num child.scheduledAfterSeconds.toNat),
    ("stop_price", optionValue decimalValue child.stopPrice),
    ("venue", optionValue .str child.venue)]

def decisionJson (decision : RouteDecision) : Json :=
  .obj [("allocated_quantity", decimalValue decision.allocatedQuantity),
    ("all_in_price", decimalValue decision.allInPrice),
    ("capability_version", .str decision.capabilityVersion),
    ("decision_id", .str decision.decisionId),
    ("fee_per_unit", decimalValue decision.feePerUnit),
    ("latency_rank", .num decision.latencyRank),
    ("parent_order_id", .str decision.parentOrderId),
    ("venue", .str decision.venue)]

def benchmarkJson (benchmark : ExecutionBenchmarkEvidence) : Json :=
  .obj [("arrival_price", decimalValue benchmark.arrivalPrice),
    ("benchmark_id", .str benchmark.benchmarkId),
    ("parent_order_id", .str benchmark.parentOrderId),
    ("source", .str benchmark.source),
    ("target_price", decimalValue benchmark.targetPrice)]

namespace ExecutionPlanEvidence

def buildCanonicalJson (evidence : ExecutionPlanEvidence)
    (planSha256 : Option String) : String :=
  Json.print compactChar <| .obj
    [("account_id", .str evidence.accountId), ("algorithm", .str evidence.algorithm),
      ("benchmarks", optionValue benchmarkJson evidence.benchmarks),
      ("children", .arr (evidence.children.map childJson)),
      ("created_at", .str evidence.createdAt),
      ("evidence_id", .str evidence.evidenceId),
      ("instrument_id", .str evidence.instrumentId),
      ("limit_price", optionValue decimalValue evidence.limitPrice),
      ("parent_order_id", .str evidence.parentOrderId),
      ("parent_quantity", decimalValue evidence.parentQuantity),
      ("plan_sha256", optionValue .str planSha256),
      ("route_decisions", .arr (evidence.routeDecisions.map decisionJson)),
      ("side", .str evidence.side.asStr),
      ("source_capability_version", optionValue .str evidence.sourceCapabilityVersion),
      ("unallocated_quantity", decimalValue evidence.unallocatedQuantity)]

def canonicalJson (evidence : ExecutionPlanEvidence) : String :=
  evidence.buildCanonicalJson (some evidence.planSha256)

def verifyFingerprint [ContentHash] (evidence : ExecutionPlanEvidence) : Bool :=
  evidence.planSha256 == sha256Hex (evidence.buildCanonicalJson none)

end ExecutionPlanEvidence

/-! ## Recording -/

def validateDecision (parent : ParentOrder) (decision : RouteDecision) : Result Unit := do
  validateCanonicalId "decision_id" decision.decisionId
  refuseIf (decision.parentOrderId ≠ parent.parentOrderId)
    "route decision parent_order_id mismatch"
  validateCanonicalId "decision venue" decision.venue
  validateCanonicalId "decision capability_version" decision.capabilityVersion
  refuseIf (decision.allocatedQuantity ≤ Decimal.zero ∨ decision.allInPrice ≤ Decimal.zero
    ∨ decision.feePerUnit < Decimal.zero) "invalid route decision economics"

def validateBenchmark (parent : ParentOrder) :
    Option ExecutionBenchmarkEvidence → Result Unit
  | none => .ok ()
  | some benchmark => do
    benchmark.validate
    refuseIf (benchmark.parentOrderId ≠ parent.parentOrderId)
      "benchmark evidence parent_order_id mismatch"

def validateVersion : Option String → Result Unit
  | none => .ok ()
  | some version => validateCanonicalId "source_capability_version" version

def ExecutionPlanEvidence.new [ContentHash] (evidenceId : String)
    (parent : ParentOrder) (plan : ExecutionPlan)
    (sourceCapabilityVersion : Option String) (routeDecisions : List RouteDecision)
    (benchmarks : Option ExecutionBenchmarkEvidence) (createdAt : String) :
    Result ExecutionPlanEvidence := do
  validateCanonicalId "evidence_id" evidenceId
  parent.validate
  plan.validateAgainst parent
  validateVersion sourceCapabilityVersion
  checkAll (validateDecision parent) routeDecisions
  validateBenchmark parent benchmarks
  validateUtcTimestamp "created_at" createdAt
  let unsigned : ExecutionPlanEvidence :=
    { evidenceId := evidenceId, parentOrderId := parent.parentOrderId
      accountId := parent.accountId, instrumentId := parent.instrumentId
      side := parent.side, parentQuantity := parent.quantity
      limitPrice := parent.limitPrice, algorithm := plan.algorithm
      children := plan.children, unallocatedQuantity := plan.unallocatedQuantity
      sourceCapabilityVersion := sourceCapabilityVersion
      routeDecisions := routeDecisions, benchmarks := benchmarks
      planSha256 := "", createdAt := createdAt }
  pure { unsigned with
    planSha256 := sha256Hex (unsigned.buildCanonicalJson none) }

/-! ## What is recorded -/

structure DecisionValid (parent : ParentOrder) (decision : RouteDecision) :
    Prop where
  decisionId : isCanonicalId decision.decisionId = true
  parentOrderId : decision.parentOrderId = parent.parentOrderId
  venue : isCanonicalId decision.venue = true
  capabilityVersion : isCanonicalId decision.capabilityVersion = true
  allocatedQuantity : 0 < decision.allocatedQuantity.scaled
  allInPrice : 0 < decision.allInPrice.scaled
  feePerUnit : 0 ≤ decision.feePerUnit.scaled

theorem validateDecision_eq_ok {parent : ParentOrder}
    {decision : RouteDecision} {u : Unit} : validateDecision parent decision = .ok u ↔
      DecisionValid parent decision := by
  simp only [validateDecision, bind_eq_ok, validateCanonicalId_eq_ok, refuseIf_eq_ok,
    not_or, not_not, le_def, lt_def, scaled_zero, Int.not_le, Int.not_lt]
  constructor
  · rintro ⟨-, hid, -, hparent, -, hvenue, -, hversion, hquantity, hallIn, hfee⟩
    exact ⟨hid, hparent, hvenue, hversion, hquantity, hallIn, hfee⟩
  · rintro ⟨hid, hparent, hvenue, hversion, hquantity, hallIn, hfee⟩
    exact ⟨(), hid, (), hparent, (), hvenue, (), hversion, hquantity, hallIn, hfee⟩

structure Annotated (parent : ParentOrder) (evidenceId : String)
    (sourceCapabilityVersion : Option String)
    (benchmarks : Option ExecutionBenchmarkEvidence) (createdAt : String) :
    Prop where
  evidenceId : isCanonicalId evidenceId = true
  version : validateVersion sourceCapabilityVersion = .ok ()
  benchmark : validateBenchmark parent benchmarks = .ok ()
  createdAt : isUtcTimestamp createdAt = true

theorem new_ok_iff [ContentHash] {evidenceId : String} {parent : ParentOrder}
    {plan : ExecutionPlan} {sourceCapabilityVersion : Option String}
    {routeDecisions : List RouteDecision}
    {benchmarks : Option ExecutionBenchmarkEvidence} {createdAt : String}
    (h : Annotated parent evidenceId sourceCapabilityVersion benchmarks
      createdAt) : (∃ evidence, ExecutionPlanEvidence.new evidenceId parent plan
        sourceCapabilityVersion routeDecisions benchmarks createdAt = .ok evidence) ↔
      parent.Valid ∧ plan.Accepted parent
        ∧ ∀ decision ∈ routeDecisions, DecisionValid parent decision := by
  simp only [ExecutionPlanEvidence.new, bind_eq_ok, validateCanonicalId_eq_ok,
    ParentOrder.validate_eq_ok, ExecutionPlan.validateAgainst_eq_ok,
    checkAll_eq_ok, validateDecision_eq_ok, validateUtcTimestamp_eq_ok]
  constructor
  · rintro ⟨_, -, -, -, hparent, -, hplan, -, -, -, hdecisions, -⟩
    exact ⟨hparent, hplan, hdecisions⟩
  · rintro ⟨hparent, hplan, hdecisions⟩
    exact ⟨_, (), h.evidenceId, (), hparent, (), hplan, (), h.version, (),
      hdecisions, (), h.benchmark, (), h.createdAt, rfl⟩

end Follon.Execution
