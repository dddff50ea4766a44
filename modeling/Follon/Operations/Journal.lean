import Follon.Domain.Identity
import Follon.Foundation.JoinedTexts
import Follon.Foundation.LineLog
import Follon.Foundation.SerdeJson

/-!
# The operations journal

One hash-chained record a line.  The same checks admit a record to be written
and to be read; what is hashed is a text of labelled lines, what is stored is
a line of JSON.
-/

namespace Follon.Operations

open Foundation Domain

def operationsJournalSchemaVersion : UInt32 := 1

def scheduleCompletionEventType : String := "operations.schedule_completed.v2"

def modelRiskEventType : String := "operations.model_risk_recorded.v1"

def gameDayEventType : String := "operations.game_day_recorded.v1"

def emptyJournalHash : String :=
  "0000000000000000000000000000000000000000000000000000000000000000"

def maxJournalBytes : Nat := 128 * 1024 * 1024

abbrev Details : Type :=
  OrderedMap String String

def validateSha256 (name value : String) : Result Unit :=
  refuseIf (isDigest value = false) (name ++ " must be a lowercase SHA-256 hash")

def parseUtcTime (value : String) : Result Int := do
  validateUtcTimestamp "UTC time" value
  match parseUtc value with
  | some instant => pure instant
  | none => .error ⟨"invalid UTC time"⟩

/-! ## Records -/

structure JournalEntryInput where
  (entryId eventType occurredAt actor : String)
  details : Details

structure JournalRecord where
  journalSchemaVersion : UInt32
  sequence : UInt64
  (entryId eventType occurredAt actor : String)
  details : Details
  (prevHash recordHash : String)

def JournalRecord.input (record : JournalRecord) : JournalEntryInput where
  entryId := record.entryId
  eventType := record.eventType
  occurredAt := record.occurredAt
  actor := record.actor
  details := record.details

def detailsJson (details : Details) : String :=
  Json.print Json.compactChar (Json.ofTexts details)

def JournalRecord.value (record : JournalRecord) : Json :=
  .obj
    [("actor", .str record.actor), ("details", Json.ofTexts record.details),
      ("entry_id", .str record.entryId),
      ("event_type", .str record.eventType),
      ("journal_schema_version", .num record.journalSchemaVersion.toNat),
      ("occurred_at", .str record.occurredAt),
      ("prev_hash", .str record.prevHash),
      ("record_hash", .str record.recordHash),
      ("sequence", .num record.sequence.toNat)]

def JournalRecord.canonicalJson (record : JournalRecord) : String :=
  Json.print Json.compactChar record.value

def journalBodyRows (sequence : UInt64) (input : JournalEntryInput)
    (prevHash : String) : List (String × String) :=
  [("actor", input.actor), ("details", detailsJson input.details),
    ("entry_id", input.entryId), ("event_type", input.eventType),
    ("journal_schema_version", toString (operationsJournalSchemaVersion.toNat : Int)),
    ("occurred_at", input.occurredAt), ("prev_hash", prevHash),
    ("sequence", toString (sequence.toNat : Int))]

def canonicalJournalBody (sequence : UInt64) (input : JournalEntryInput)
    (prevHash : String) : String :=
  labelledLines (journalBodyRows sequence input prevHash)

/-! ## Checks -/

def requiredDetail (details : Details) (key evidenceName : String) : Result String :=
  match details[key]? with
  | some value =>
    if value.isEmpty then .error ⟨evidenceName ++ " lacks " ++ key⟩
    else pure value
  | none => .error ⟨evidenceName ++ " lacks " ++ key⟩

def validateExactDetailKeys (details : Details) (expectedKeys : List String)
    (message : String) : Result Unit :=
  refuseIf (details.toList.length ≠ expectedKeys.length ∨
      (details.toList.any fun entry => !expectedKeys.contains entry.1) = true)
    message

def completionDetail (details : Details) (key : String) : Result String :=
  match details[key]? with
  | some value => pure value
  | none => .error ⟨"schedule completion lacks " ++ key⟩

def validateScheduleCompletionInput (input : JournalEntryInput) : Result Unit := do
  validateExactDetailKeys input.details
    ["configuration_hash", "parameter_set_fingerprint", "schedule_id", "scheduled_for"]
    ("schedule completion must carry exactly configuration_hash, " ++
      "parameter_set_fingerprint, schedule_id, and scheduled_for")
  let scheduleId ← completionDetail input.details "schedule_id"
  validateCanonicalId "schedule completion schedule_id" scheduleId
  let configurationHash ← completionDetail input.details "configuration_hash"
  validateSha256 "schedule completion configuration_hash" configurationHash
  let parameterSetFingerprint ←
    completionDetail input.details "parameter_set_fingerprint"
  validateSha256 "schedule completion parameter_set_fingerprint"
    parameterSetFingerprint
  let scheduledFor ← completionDetail input.details "scheduled_for"
  let scheduledFor ← parseUtcTime scheduledFor
  let occurredAt ← parseUtcTime input.occurredAt
  refuseIf (occurredAt < scheduledFor)
    ("schedule completion cannot occur before its declared scheduled_for " ++ "instant")

def holdsLineBreak (value : String) : Bool :=
  value.toList.contains '\r' || value.toList.contains '\n'

def validateModelRiskDecision (value : String) : Result Unit :=
  refuseIf (value ∉ ["PROMOTE", "DEMOTE", "HOLD"])
    "model-risk decision must be PROMOTE, DEMOTE, or HOLD"

def validateHashDetails (details : Details) (evidenceName stem : String) :
    List String → Result Unit
  | [] => pure ()
  | key :: rest => do
    let value ← requiredDetail details key evidenceName
    validateSha256 (stem ++ " " ++ key) value
    validateHashDetails details evidenceName stem rest

def validateModelRiskDetails [ContentHash] (details : Details) : Result Unit := do
  validateExactDetailKeys details
    ["backtest_artifact_hash", "change_summary", "change_summary_hash",
      "decision", "reason", "strategy_bundle_hash", "strategy_id",
      "strategy_version"]
    "model-risk record has an invalid evidence shape"
  let strategyId ← requiredDetail details "strategy_id" "model-risk record"
  validateCanonicalId "model-risk strategy_id" strategyId
  let strategyVersion ←
    requiredDetail details "strategy_version" "model-risk record"
  refuseIf (128 < strategyVersion.utf8ByteSize ∨ holdsLineBreak strategyVersion = true)
    "model-risk strategy_version must be a concise one-line value"
  validateHashDetails details "model-risk record" "model-risk"
    ["strategy_bundle_hash", "backtest_artifact_hash", "change_summary_hash"]
  let decision ← requiredDetail details "decision" "model-risk record"
  validateModelRiskDecision decision
  let changeSummary ←
    requiredDetail details "change_summary" "model-risk record"
  let reason ← requiredDetail details "reason" "model-risk record"
  let changeSummaryHash ←
    requiredDetail details "change_summary_hash" "model-risk record"
  refuseIf (512 < changeSummary.utf8ByteSize ∨ 512 < reason.utf8ByteSize ∨
      holdsLineBreak changeSummary = true ∨ holdsLineBreak reason = true ∨
      sha256Hex changeSummary ≠ changeSummaryHash)
    "model-risk record has invalid change-summary or reason evidence"

def validateGameDayDetails (details : Details) : Result Unit := do
  validateExactDetailKeys details
    ["evidence_hash", "fault_plan_hash", "postmortem_summary",
      "reconciliation_hash", "result", "scenario_id"]
    "game-day record has an invalid evidence shape"
  let scenarioId ← requiredDetail details "scenario_id" "game-day record"
  validateCanonicalId "game-day scenario_id" scenarioId
  let result ← requiredDetail details "result" "game-day record"
  refuseIf (result ∉ ["PASS", "FAIL"]) "game-day result must be PASS or FAIL"
  validateHashDetails details "game-day record" "game-day"
    ["fault_plan_hash", "evidence_hash", "reconciliation_hash"]
  let summary ← requiredDetail details "postmortem_summary" "game-day record"
  refuseIf (512 < summary.utf8ByteSize ∨ holdsLineBreak summary = true)
    "game-day postmortem_summary must be concise and one-line"

def isEventComponents : Nat → List String → Bool
  | _, [] => false
  | count, [version] =>
    2 ≤ count + 1 && 2 ≤ version.utf8ByteSize && version.toList.head? == some 'v' &&
      version.toList.tail.all isAsciiDigit
  | count, component :: rest =>
    !component.isEmpty &&
      component.toList.all (fun c => ('a' ≤ c && c ≤ 'z') || c == '_') &&
      isEventComponents (count + 1) rest

def isEventType (value : String) : Bool :=
  isEventComponents 0 (splitAtChar '.' [] value.toList)

def checkJournalDetails : List (String × String) → Result Unit
  | [] => pure ()
  | (key, value) :: rest => do
    validateCanonicalId "journal detail key" key
    refuseIf (holdsText "secret" key = true ∨ holdsText "credential" key = true ∨
        holdsText "password" key = true ∨ holdsText "token" key = true ∨
        endsWithText "_key" key = true ∨ 512 < value.utf8ByteSize ∨
        holdsLineBreak value = true)
      ("journal details must be concise, one-line, and must not be " ++ "credential-like")
    checkJournalDetails rest

def checkEvent (input : JournalEntryInput) (eventType : String)
    (check : Result Unit) : Result Unit :=
  if input.eventType = eventType then check else pure ()

def validateJournalInput [ContentHash] (input : JournalEntryInput) : Result Unit := do
  validateCanonicalId "journal entry_id" input.entryId
  validateCanonicalId "journal actor" input.actor
  validateUtcTimestamp "journal occurred_at" input.occurredAt
  refuseIf (isEventType input.eventType = false)
    "journal event_type must be a lowercase dotted vN contract type"
  refuseIf (32 < input.details.toList.length)
    "journal details support at most 32 non-secret fields"
  checkJournalDetails input.details.toList
  checkEvent input scheduleCompletionEventType
    (validateScheduleCompletionInput input)
  checkEvent input modelRiskEventType (validateModelRiskDetails input.details)
  checkEvent input gameDayEventType (validateGameDayDetails input.details)

/-! ## The journal -/

structure JournalInspection where
  healthy : Bool
  sequence : UInt64
  headHash : String
  failureReason : Option String

def JournalInspection.empty : JournalInspection where
  healthy := true
  sequence := 0
  headHash := emptyJournalHash
  failureReason := none

structure JournalMemory where
  inspection : JournalInspection
  entryIds : List String

structure JournalReading extends JournalMemory where
  records : List JournalRecord

def JournalReading.start : JournalReading where
  inspection := .empty
  entryIds := []
  records := []

def nextSequence (sequence : UInt64) : Result UInt64 := do
  refuseIf (sequence.toNat + 1 = 2 ^ 64) "operations journal sequence overflow"
  pure (sequence + 1)

section
variable [ContentHash]

def JournalRecord.bodyHash (record : JournalRecord) : String :=
  sha256Hex (canonicalJournalBody record.sequence record.input record.prevHash)

def JournalRecord.intoRecord (persisted : JournalRecord) : Result JournalRecord := do
  refuseIf (persisted.journalSchemaVersion ≠ operationsJournalSchemaVersion)
    "unsupported operations journal schema version"
  validateJournalInput persisted.input
  validateSha256 "journal prev_hash" persisted.prevHash
  validateSha256 "journal record_hash" persisted.recordHash
  refuseIf (persisted.sequence = 0)
    "operations journal sequence must start at one"
  pure persisted

namespace JournalReading

def accept (reading : JournalReading) (lineNumber : Nat)
    (persisted : JournalRecord) : Result JournalReading := do
  let record ← persisted.intoRecord
  let expectedSequence ← nextSequence reading.inspection.sequence
  refuseIf (record.sequence ≠ expectedSequence ∨
      record.prevHash ≠ reading.inspection.headHash ∨
      record.entryId ∈ reading.entryIds)
    ("operations journal chain failed at line " ++ toString (lineNumber + 1))
  refuseIf (record.recordHash ≠ record.bodyHash)
    ("operations journal hash failed at line " ++ toString (lineNumber + 1))
  pure
    { inspection :=
        { reading.inspection with
          sequence := record.sequence, headHash := record.recordHash }
      entryIds := reading.entryIds ++ [record.entryId]
      records := reading.records ++ [record] }

def parseLine [FromJson JournalRecord] (line : String) (lineNumber : Nat) :
    Result JournalRecord :=
  match FromJson.fromText line with
  | .ok persisted => pure persisted
  | .error _ => .error ⟨"operations journal line " ++
      toString (lineNumber + 1) ++ " is not valid JSON"⟩

def readLine [FromJson JournalRecord] (reading : JournalReading)
    (entry : String × Nat) : Result JournalReading := do
  refuseIf (entry.1.isEmpty = true)
    ("operations journal contains an empty line at " ++ toString (entry.2 + 1))
  let persisted ← parseLine entry.1 entry.2
  reading.accept entry.2 persisted

end JournalReading

namespace JournalMemory

def nextRecord (memory : JournalMemory) (input : JournalEntryInput) :
    Result JournalRecord := do
  validateJournalInput input
  refuseIf (input.entryId ∈ memory.entryIds)
    "duplicate operations journal entry_id"
  let sequence ← nextSequence memory.inspection.sequence
  let prevHash := memory.inspection.headHash
  pure
    { journalSchemaVersion := operationsJournalSchemaVersion
      sequence
      entryId := input.entryId
      eventType := input.eventType
      occurredAt := input.occurredAt
      actor := input.actor
      details := input.details
      prevHash
      recordHash := sha256Hex (canonicalJournalBody sequence input prevHash) }

def commit (memory : JournalMemory) (record : JournalRecord) : JournalMemory where
  inspection :=
    { healthy := true, sequence := record.sequence
      headHash := record.recordHash, failureReason := none }
  entryIds := memory.entryIds ++ [record.entryId]

end JournalMemory

variable [FromJson JournalRecord]

def operationsLog : LineLog JournalReading JournalMemory JournalEntryInput
    JournalRecord PaperError where
  start := .start
  readLine := JournalReading.readLine
  finish _ := .ok ()
  opened reading := reading.toJournalMemory
  record := JournalMemory.nextRecord
  line := JournalRecord.canonicalJson
  commit := JournalMemory.commit
  limit := maxJournalBytes
  tooLarge := ⟨"operations journal exceeds its configured 128 MiB safety limit"⟩
  notText := ⟨"stream did not contain valid UTF-8"⟩
  incomplete := ⟨"operations journal must end on a complete newline-delimited " ++
    "record"⟩
  writeFailed := ⟨"No space left on device (os error 28)"⟩

abbrev OperationalJournal : Type :=
  LogHandle JournalMemory

def verifyJournalFile (contents : List UInt8) : Result JournalReading :=
  operationsLog.verify contents

def OperationalJournal.openFile (contents : List UInt8) : Result OperationalJournal :=
  operationsLog.openFile contents

def OperationalJournal.readVerifiedRecords (contents : List UInt8) :
    Result (List JournalRecord) := do
  let reading ← verifyJournalFile contents
  pure reading.records

def OperationalJournal.append (journal : OperationalJournal)
    (input : JournalEntryInput) (outcome : WriteOutcome) :
    Result JournalRecord × OperationalJournal :=
  operationsLog.append journal input outcome

end

end Follon.Operations
