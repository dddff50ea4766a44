import Follon.Domain.CivilTime
import Follon.Operations.Parameters

/-!
# Operations snapshots and their schedules

The input of the operator's workbench, checked as a whole, and the status of
its daily schedules at the snapshot's time.
-/

namespace Follon.Operations

open Foundation Domain

structure ReproducibilityStamp where
  (strategyId strategyVersion strategyBundleHash datasetId : String)
  (datasetVersion datasetHash replayEventHash : String)

def ReproducibilityStamp.validate (stamp : ReproducibilityStamp) : Result Unit := do
  validateCanonicalId "strategy_id" stamp.strategyId
  validateCanonicalId "dataset_id" stamp.datasetId
  refuseIf (stamp.strategyVersion = "" ∨ stamp.datasetVersion = "")
    "strategy_version and dataset_version are required"
  validateSha256 "strategy_bundle_hash" stamp.strategyBundleHash
  validateSha256 "dataset_hash" stamp.datasetHash
  validateSha256 "replay_event_hash" stamp.replayEventHash

structure OperationalPosition where
  instrumentId : String
  (quantity markPrice averageCost realizedPnl : Decimal)

structure RiskLimits where
  (maxGrossExposure maxSingleInstrumentExposure maxDrawdownBps : Decimal)
  (maxWorkingOrders maxUnknownOrders maxUnresolvedIncidents : Nat)

def RiskLimits.validate (limits : RiskLimits) : Result Unit :=
  refuseIf (limits.maxGrossExposure < Decimal.zero ∨
      limits.maxSingleInstrumentExposure < Decimal.zero ∨
      limits.maxDrawdownBps < Decimal.zero)
    "risk limits cannot be negative"

structure OperationalHealth where
  (auditHealthy reconciliationHealthy brokerConnected : Bool)
  activeKillSwitches : List String
  (workingOrders unknownOrders unresolvedIncidents : Nat)

def checkScope (scopes : OrderedSet String) (scope : String) :
    Result (OrderedSet String) := do
  refuseIf (scope = "" ∨ 256 < scope.utf8ByteSize ∨ scope ∈ scopes)
    "kill-switch scopes must be non-empty and unique"
  pure (scopes.insert scope)

def OperationalHealth.validate (health : OperationalHealth) : Result Unit := do
  let _ ← health.activeKillSwitches.foldlM checkScope ∅
  pure ()

inductive AttributionCategory
  | realizedPnl
  | unrealizedPnl
  | fees
  | dividends
  | corporateActions
  deriving DecidableEq

structure AttributionEntry where
  (entryId occurredAt instrumentId : String)
  category : AttributionCategory
  amount : Decimal

structure DailySchedule where
  (scheduleId purpose timeUtc : String)
  enabled : Bool
  lastCompletedAt : Option String

structure OperationsSnapshot where
  (asOf environment accountId currency configurationId : String)
  (configurationVersion configurationContentHash : String)
  reproducibility : ReproducibilityStamp
  parameters : ParameterSet
  (startingEquity cash peakEquity : Decimal)
  positions : List OperationalPosition
  riskLimits : RiskLimits
  health : OperationalHealth
  attributionEntries : List AttributionEntry
  schedules : List DailySchedule

/-! ## Risk limits under approval -/

def reservedRiskLimitParameterIds : List String :=
  ["risk.max_gross_exposure", "risk.max_single_instrument_exposure",
    "risk.max_drawdown_bps", "risk.max_working_orders",
    "risk.max_unknown_orders", "risk.max_unresolved_incidents"]

def riskLimitAuthorizationPolicyFingerprint [ContentHash] : String :=
  sha256Hex ("policy=follon.operations.risk-limit-authorization.v1\n" ++
    "risk.max_gross_exposure=TWO_PERSON\n" ++
    "risk.max_single_instrument_exposure=TWO_PERSON\n" ++
    "risk.max_drawdown_bps=TWO_PERSON\n" ++
    "risk.max_working_orders=TWO_PERSON\n" ++
    "risk.max_unknown_orders=TWO_PERSON\n" ++
    "risk.max_unresolved_incidents=TWO_PERSON\n")

def countDecimal (value : Nat) : Result Decimal := do
  refuseIf (2 ^ 63 ≤ value) "count cannot fit exact decimal"
  Decimal.fromInteger value

def checkRiskLimit (requiredPolicyHash : String) (parameters : ParameterSet)
    (expected : String × Decimal) : Result Unit :=
  match parameters.values.find? fun value => value.parameterId = expected.1 with
  | none =>
    .error ⟨"missing required approved risk-limit parameter " ++ expected.1⟩
  | some parameter => do
    refuseIf (parameter.control ≠ .twoPerson)
      ("reserved risk-limit parameter " ++ expected.1 ++
        " must require TWO_PERSON control")
    match parameter.approval with
    | none =>
      .error ⟨"reserved risk-limit parameter " ++ expected.1 ++ " lacks approval"⟩
    | some approval => do
      refuseIf (approval.authorizationPolicyHash ≠ requiredPolicyHash)
        ("reserved risk-limit parameter " ++ expected.1 ++
          " cites an untrusted authorization policy")
      refuseIf (parameter.value ≠ expected.2)
        ("reserved risk-limit parameter " ++ expected.1 ++
          " does not match its enforced risk limit")

def validateRiskLimitParameterPolicy [ContentHash] (parameters : ParameterSet)
    (limits : RiskLimits) : Result Unit := do
  let workingOrders ← countDecimal limits.maxWorkingOrders
  let unknownOrders ← countDecimal limits.maxUnknownOrders
  let unresolvedIncidents ← countDecimal limits.maxUnresolvedIncidents
  checkAll (checkRiskLimit riskLimitAuthorizationPolicyFingerprint parameters)
    [("risk.max_gross_exposure", limits.maxGrossExposure),
      ("risk.max_single_instrument_exposure", limits.maxSingleInstrumentExposure),
      ("risk.max_drawdown_bps", limits.maxDrawdownBps),
      ("risk.max_working_orders", workingOrders),
      ("risk.max_unknown_orders", unknownOrders),
      ("risk.max_unresolved_incidents", unresolvedIncidents)]
  checkAll (fun parameter =>
      refuseIf ("risk.".isPrefixOf parameter.parameterId = true ∧
          parameter.parameterId ∉ reservedRiskLimitParameterIds)
        ("unknown reserved risk parameter " ++ parameter.parameterId))
    parameters.values

/-! ## Times of day -/

def parseByte (bytes : List UInt8) : Option Nat :=
  let digits : List UInt8 := match bytes with
    | 43 :: rest => if rest = [] then bytes else rest
    | _ => bytes
  let value : Nat := digits.foldl (fun value byte => 10 * value + byte.toNat - 48) 0
  if digits ≠ [] ∧ digits.all (fun byte => 48 ≤ byte && byte ≤ 57) = true ∧
      value < 256 then
    some value
  else
    none

def parseScheduleTime (value : String) : Result (Nat × Nat) := do
  let bytes := value.toUTF8.toList
  refuseIf (bytes.length ≠ 5 ∨ bytes[2]? ≠ some 58)
    "schedule time must use HH:MM UTC"
  match parseByte (bytes.take 2) with
  | none => .error ⟨"schedule hour is invalid"⟩
  | some hour =>
    match parseByte (bytes.drop 3) with
    | none => .error ⟨"schedule minute is invalid"⟩
    | some minute => do
      refuseIf (23 < hour ∨ 59 < minute ∨ (bytes.eraseIdx 2).any
            (fun byte => !(48 ≤ byte && byte ≤ 57)))
        "schedule time must use HH:MM UTC"
      pure (hour, minute)

def dayLength : Int := 86400000000000

def dateOf (instant : Int) : Int := instant / dayLength

def instantOn (date : Int) (time : Nat × Nat) : Int :=
  date * dayLength + ((time.1 * 3600 + time.2 * 60 : Nat) : Int) * 1000000000

def scheduledInstantFor (schedule : DailySchedule) (occurrence : Int) : Result Int := do
  let time ← parseScheduleTime schedule.timeUtc
  pure (instantOn (dateOf occurrence) time)

def validateScheduleCompletionTime (schedule : DailySchedule)
    (completedAt : String) : Result Unit := do
  let completedAt ← parseUtcTime completedAt
  let scheduledFor ← scheduledInstantFor schedule completedAt
  refuseIf (completedAt < scheduledFor)
    ("schedule " ++ schedule.scheduleId ++
      " cannot complete before its daily UTC due instant")

/-! ## The snapshot as a whole -/

namespace OperationsSnapshot

def checkPosition (seen : OrderedSet String) (position : OperationalPosition) :
    Result (OrderedSet String) := do
  validateCanonicalId "position instrument_id" position.instrumentId
  refuseIf (position.instrumentId ∈ seen ∨
      position.markPrice ≤ Decimal.zero ∨ position.averageCost < Decimal.zero)
    "positions must be unique with positive marks and non-negative costs"
  pure (seen.insert position.instrumentId)

def checkEntry (seen : OrderedSet String) (entry : AttributionEntry) :
    Result (OrderedSet String) := do
  validateCanonicalId "attribution entry_id" entry.entryId
  validateCanonicalId "attribution instrument_id" entry.instrumentId
  validateUtcTimestamp "attribution occurred_at" entry.occurredAt
  refuseIf (entry.entryId ∈ seen) "duplicate attribution entry_id"
  pure (seen.insert entry.entryId)

def checkSchedule (asOf : String) (seen : OrderedSet String)
    (schedule : DailySchedule) : Result (OrderedSet String) := do
  validateCanonicalId "schedule_id" schedule.scheduleId
  refuseIf (schedule.scheduleId ∈ seen ∨ isBlank schedule.purpose = true ∨
      256 < schedule.purpose.utf8ByteSize ∨
      holdsLineBreak schedule.purpose = true)
    "schedules need unique IDs and one-line concise purposes"
  let _ ← parseScheduleTime schedule.timeUtc
  checkAll (fun completed => do
      validateScheduleCompletionTime schedule completed
      refuseIf (asOf < completed)
        "schedule last_completed_at cannot be after snapshot as_of")
    schedule.lastCompletedAt.toList
  pure (seen.insert schedule.scheduleId)

def checkApprovalTime (asOf : String) (parameter : ParameterValue) : Result Unit :=
  checkAll (fun approval : ParameterApproval =>
      refuseIf (asOf < approval.approvedAt)
        ("parameter " ++ parameter.parameterId ++
          " approval cannot be after snapshot as_of"))
    parameter.approval.toList

def validate [ContentHash] (snapshot : OperationsSnapshot) : Result Unit := do
  validateUtcTimestamp "operations as_of" snapshot.asOf
  refuseIf (snapshot.environment ∉ ["SIMULATION", "PAPER", "LIVE"])
    "operations environment must be SIMULATION, PAPER, or LIVE"
  validateCanonicalId "operations account_id" snapshot.accountId
  validateCanonicalId "operations configuration_id" snapshot.configurationId
  refuseIf (isCurrencyCode snapshot.currency = false ∨ snapshot.configurationVersion = "")
    "operations currency and configuration version are invalid"
  validateSha256 "operations configuration_content_hash"
    snapshot.configurationContentHash
  snapshot.reproducibility.validate
  snapshot.parameters.validate
  checkAll (checkApprovalTime snapshot.asOf) snapshot.parameters.values
  refuseIf (snapshot.startingEquity < Decimal.zero ∨
      snapshot.cash < Decimal.zero ∨ snapshot.peakEquity ≤ Decimal.zero)
    ("starting equity and cash must be non-negative; peak equity must be " ++ "positive")
  snapshot.riskLimits.validate
  validateRiskLimitParameterPolicy snapshot.parameters snapshot.riskLimits
  snapshot.health.validate
  let _ ← snapshot.positions.foldlM checkPosition ∅
  let _ ← snapshot.attributionEntries.foldlM checkEntry ∅
  let _ ← snapshot.schedules.foldlM (checkSchedule snapshot.asOf) ∅
  pure ()

end OperationsSnapshot

/-! ## Schedule status -/

structure ScheduleStatus where
  (scheduleId purpose timeUtc : String)
  enabled : Bool
  nextDueAt : String
  due : Bool
  lastCompletedAt : Option String
  deriving DecidableEq

def lastDate : Int := daysBefore 9999 12 + 30

def formatUtcTime (instant : Int) : Result String := do
  refuseIf (instant < 0 ∨ 10000 ≤ civilYear ((instant / 1000000000).toNat / 86400))
    "cannot format UTC time"
  pure (formatUtc (instant / 1000000000).toNat)

def nextInstant (asOf : Int) (time : Nat × Nat)
    (lastCompletedAt : Option String) : Result Int :=
  let today := instantOn (dateOf asOf) time
  match lastCompletedAt with
  | none => .ok today
  | some value => do
    let completed ← parseUtcTime value
    if dateOf completed = dateOf asOf then do
      refuseIf (dateOf asOf = lastDate)
        "schedule date exceeds supported range"
      pure (instantOn (dateOf asOf + 1) time)
    else
      pure today

def deriveScheduleStatus (asOf : Int) (schedule : DailySchedule) :
    Result ScheduleStatus := do
  let time ← parseScheduleTime schedule.timeUtc
  let next ← nextInstant asOf time schedule.lastCompletedAt
  let nextDueAt ← formatUtcTime next
  pure
    { scheduleId := schedule.scheduleId, purpose := schedule.purpose
      timeUtc := schedule.timeUtc, enabled := schedule.enabled
      nextDueAt
      due := schedule.enabled && decide (next ≤ asOf)
      lastCompletedAt := schedule.lastCompletedAt }

def deriveScheduleStatuses [ContentHash] (snapshot : OperationsSnapshot) :
    Result (List ScheduleStatus) := do
  snapshot.validate
  let asOf ← parseUtcTime snapshot.asOf
  let statuses ← collect (deriveScheduleStatus asOf) snapshot.schedules
  pure (statuses.insertionSort fun left right =>
    left.scheduleId ≤ right.scheduleId)

end Follon.Operations
