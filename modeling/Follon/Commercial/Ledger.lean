import Follon.Commercial.Retention
import Follon.Foundation.JoinedTexts
import Follon.Foundation.LineLog
import Follon.Foundation.SerdeJson

/-!
# The commercial ledger

Provisionings and observed subscriptions of tenants, one hash-chained record a
line.  Opening reads the typed facts back out of every record, and access is
derived from a verified sequence of records.
-/

namespace Follon.Commercial

open Foundation Domain

def commercialLedgerSchemaVersion : UInt32 := 1

def emptyLedgerHash : String :=
  "0000000000000000000000000000000000000000000000000000000000000000"

def maxLedgerBytes : Nat := 64 * 1024 * 1024

def tenantProvisionedType : String := "commercial.tenant_provisioned.v1"

def subscriptionObservedType : String := "commercial.subscription_observed.v1"

abbrev Details : Type :=
  OrderedMap String String

/-! ## Typed facts -/

inductive CommercialPlan where
  | professional
  | organization
  | selfHosted
  deriving DecidableEq

namespace CommercialPlan

def asStr : CommercialPlan → String
  | .professional => "PROFESSIONAL"
  | .organization => "ORGANIZATION"
  | .selfHosted => "SELF_HOSTED"

def parse (value : String) : Result CommercialPlan :=
  match value with
  | "PROFESSIONAL" => pure .professional
  | "ORGANIZATION" => pure .organization
  | "SELF_HOSTED" => pure .selfHosted
  | _ => .error
      ⟨"commercial plan must be PROFESSIONAL, ORGANIZATION, or SELF_HOSTED"⟩

def maximumMembers : CommercialPlan → Nat
  | .professional => 1
  | .organization => 25
  | .selfHosted => 100

def selfHostingAllowed : CommercialPlan → Bool
  | .selfHosted => true
  | _ => false

end CommercialPlan

inductive BillingStatus where
  | paid
  | grace
  | suspended
  | cancelled
  deriving DecidableEq

namespace BillingStatus

def asStr : BillingStatus → String
  | .paid => "PAID"
  | .grace => "GRACE"
  | .suspended => "SUSPENDED"
  | .cancelled => "CANCELLED"

def parse (value : String) : Result BillingStatus :=
  match value with
  | "PAID" => pure .paid
  | "GRACE" => pure .grace
  | "SUSPENDED" => pure .suspended
  | "CANCELLED" => pure .cancelled
  | _ => .error
      ⟨"billing status must be PAID, GRACE, SUSPENDED, or CANCELLED"⟩

end BillingStatus

structure TenantProvisioning where
  (tenantId workspaceId : String)
  plan : CommercialPlan
  retentionPolicyId : String
  selfHosted : Bool
  provisionedAt : String

def TenantProvisioning.validate (provisioning : TenantProvisioning) : Result Unit := do
  validateCanonicalId "tenant_id" provisioning.tenantId
  validateCanonicalId "workspace_id" provisioning.workspaceId
  validateCanonicalId "retention_policy_id" provisioning.retentionPolicyId
  validateUtcTimestamp "tenant provisioned_at" provisioning.provisionedAt
  refuseIf (provisioning.selfHosted ≠ provisioning.plan.selfHostingAllowed)
    "self_hosted must exactly match the selected commercial plan"

structure SubscriptionObservation where
  (subscriptionId tenantId : String)
  plan : CommercialPlan
  status : BillingStatus
  (effectiveAt expiresAt paymentProvider externalCustomerRef : String)
  paymentEvidenceHash : String

def SubscriptionObservation.validate (subscription : SubscriptionObservation) :
    Result Unit := do
  validateCanonicalId "subscription_id" subscription.subscriptionId
  validateCanonicalId "tenant_id" subscription.tenantId
  validateCanonicalId "payment_provider" subscription.paymentProvider
  validateCanonicalId "external_customer_ref" subscription.externalCustomerRef
  validateUtcTimestamp "subscription effective_at" subscription.effectiveAt
  validateUtcTimestamp "subscription expires_at" subscription.expiresAt
  refuseIf (subscription.expiresAt ≤ subscription.effectiveAt)
    "subscription effective_at must precede expires_at"
  validateSha256 "subscription payment_evidence_hash"
    subscription.paymentEvidenceHash

/-! ## Records -/

structure LedgerEntry where
  (eventId eventType tenantId occurredAt actor : String)
  details : Details

structure CommercialLedgerRecord where
  ledgerSchemaVersion : UInt32
  sequence : UInt64
  (eventId eventType tenantId occurredAt actor : String)
  details : Details
  (prevHash recordHash : String)

namespace CommercialLedgerRecord

def entry (record : CommercialLedgerRecord) : LedgerEntry where
  eventId := record.eventId
  eventType := record.eventType
  tenantId := record.tenantId
  occurredAt := record.occurredAt
  actor := record.actor
  details := record.details

def value (record : CommercialLedgerRecord) : Json :=
  .obj
    [("actor", .str record.actor), ("details", Json.ofTexts record.details),
      ("event_id", .str record.eventId),
      ("event_type", .str record.eventType),
      ("ledger_schema_version", .num record.ledgerSchemaVersion.toNat),
      ("occurred_at", .str record.occurredAt),
      ("prev_hash", .str record.prevHash),
      ("record_hash", .str record.recordHash),
      ("sequence", .num record.sequence.toNat),
      ("tenant_id", .str record.tenantId)]

def canonicalJson (record : CommercialLedgerRecord) : String :=
  Json.print Json.compactChar record.value

end CommercialLedgerRecord

def canonicalLedgerBody (sequence : UInt64) (entry : LedgerEntry)
    (prevHash : String) : String :=
  labelledLines
    [("actor", entry.actor),
      ("details", Json.print Json.compactChar (Json.ofTexts entry.details)),
      ("event_id", entry.eventId), ("event_type", entry.eventType),
      ("ledger_schema_version", toString (commercialLedgerSchemaVersion.toNat : Int)),
      ("occurred_at", entry.occurredAt), ("prev_hash", prevHash),
      ("sequence", toString (sequence.toNat : Int)),
      ("tenant_id", entry.tenantId)]

def checkDetailSet (eventType : String) (details : Details) : Result Unit :=
  if eventType = tenantProvisionedType then
    refuseIf (details.toList.map (·.1) ≠
        ["plan", "retention_policy_id", "self_hosted", "workspace_id"])
      "tenant provisioning has an invalid detail set"
  else if eventType = subscriptionObservedType then
    refuseIf (details.toList.map (·.1) ≠
        ["effective_at", "expires_at", "external_customer_ref",
          "payment_evidence_hash", "payment_provider", "plan", "status",
          "subscription_id"])
      "subscription observation has an invalid detail set"
  else
    .error ⟨"commercial event_type is not a supported typed v1 event"⟩

def checkLedgerDetails : List (String × String) → Result Unit
  | [] => pure ()
  | (key, value) :: rest => do
    validateCanonicalId "commercial detail key" key
    refuseIf (value.isEmpty = true ∨ 4096 < value.utf8ByteSize ∨
        '\r' ∈ value.toList ∨ '\n' ∈ value.toList ∨
        holdsText "secret" key = true ∨ holdsText "token" key = true ∨
        holdsText "password" key = true ∨ holdsText "credential" key = true)
      "commercial ledger details must be concise, one-line, and non-secret"
    checkLedgerDetails rest

def validateLedgerInput (entry : LedgerEntry) : Result Unit := do
  validateCanonicalId "commercial event_id" entry.eventId
  validateCanonicalId "commercial tenant_id" entry.tenantId
  validateCanonicalId "commercial actor" entry.actor
  validateUtcTimestamp "commercial occurred_at" entry.occurredAt
  checkDetailSet entry.eventType entry.details
  checkLedgerDetails entry.details.toList

def validateRecord [ContentHash] (record : CommercialLedgerRecord)
    (lineNumber : Nat) (previousHash : String) : Result Unit := do
  refuseIf (record.ledgerSchemaVersion ≠ commercialLedgerSchemaVersion ∨
      record.sequence.toNat ≠ lineNumber ∨ record.prevHash ≠ previousHash)
    ("commercial ledger chain failed at line " ++ toString lineNumber)
  validateLedgerInput record.entry
  validateSha256 "commercial ledger prev_hash" record.prevHash
  validateSha256 "commercial ledger record_hash" record.recordHash
  refuseIf (record.recordHash ≠ sha256Hex
      (canonicalLedgerBody record.sequence record.entry record.prevHash))
    ("commercial ledger hash failed at line " ++ toString lineNumber)

/-! ## Facts out of records -/

def requiredDetail (record : CommercialLedgerRecord) (key : String) : Result String :=
  match record.details[key]? with
  | some value => pure value
  | none => .error ⟨"commercial ledger " ++ record.eventId ++
      " is missing required detail " ++ key⟩

def parseBoolDetail (record : CommercialLedgerRecord) (key : String) : Result Bool := do
  let value ← requiredDetail record key
  match value with
  | "true" => pure true
  | "false" => pure false
  | _ => .error ⟨"commercial ledger " ++ record.eventId ++
      " has invalid boolean detail " ++ key⟩

def provisioningOf (record : CommercialLedgerRecord) : Result TenantProvisioning := do
  let workspaceId ← requiredDetail record "workspace_id"
  let plan ← requiredDetail record "plan"
  let plan ← CommercialPlan.parse plan
  let retentionPolicyId ← requiredDetail record "retention_policy_id"
  let selfHosted ← parseBoolDetail record "self_hosted"
  let provisioning : TenantProvisioning :=
    { tenantId := record.tenantId
      workspaceId, plan, retentionPolicyId, selfHosted
      provisionedAt := record.occurredAt }
  provisioning.validate
  pure provisioning

def addProvisioning (provisionings : OrderedMap String TenantProvisioning)
    (record : CommercialLedgerRecord) :
    Result (OrderedMap String TenantProvisioning) := do
  let provisioning ← provisioningOf record
  refuseIf (provisioning.tenantId ∈ provisionings)
    "tenant has multiple immutable provisioning records"
  pure (provisionings.insert provisioning.tenantId provisioning)

def isProvisioning (record : CommercialLedgerRecord) : Bool :=
  record.eventType == tenantProvisionedType

def isObservation (record : CommercialLedgerRecord) : Bool :=
  record.eventType == subscriptionObservedType

def provisionings (records : List CommercialLedgerRecord) :
    Result (OrderedMap String TenantProvisioning) :=
  (records.filter isProvisioning).foldlM addProvisioning ∅

structure RecordedSubscription where
  sequence : UInt64
  subscription : SubscriptionObservation

def recordedSubscription (record : CommercialLedgerRecord) :
    Result RecordedSubscription := do
  let subscriptionId ← requiredDetail record "subscription_id"
  let plan ← requiredDetail record "plan"
  let plan ← CommercialPlan.parse plan
  let status ← requiredDetail record "status"
  let status ← BillingStatus.parse status
  let effectiveAt ← requiredDetail record "effective_at"
  let expiresAt ← requiredDetail record "expires_at"
  let paymentProvider ← requiredDetail record "payment_provider"
  let externalCustomerRef ← requiredDetail record "external_customer_ref"
  let paymentEvidenceHash ← requiredDetail record "payment_evidence_hash"
  let subscription : SubscriptionObservation :=
    { subscriptionId
      tenantId := record.tenantId
      plan, status, effectiveAt, expiresAt, paymentProvider
      externalCustomerRef, paymentEvidenceHash }
  subscription.validate
  pure { sequence := record.sequence, subscription }

def subscriptions (records : List CommercialLedgerRecord) :
    Result (List RecordedSubscription) :=
  collect recordedSubscription (records.filter isObservation)

/-! ## The ledger -/

structure LedgerMemory where
  records : List CommercialLedgerRecord
  eventIds : List String
  headHash : String

structure LedgerReading where
  records : List CommercialLedgerRecord
  eventIds : List String
  previousHash : String

def LedgerReading.start : LedgerReading where
  records := []
  eventIds := []
  previousHash := emptyLedgerHash

def lastHash (records : List CommercialLedgerRecord) : String :=
  (records.getLast?.map (·.recordHash)).getD emptyLedgerHash

def LedgerReading.opened (reading : LedgerReading) : LedgerMemory where
  records := reading.records
  eventIds := reading.records.map (·.eventId)
  headHash := lastHash reading.records

inductive LedgerCall where
  | provisionTenant (eventId actor : String)
      (provisioning : TenantProvisioning)
  | recordSubscription (eventId actor observedAt : String)
      (subscription : SubscriptionObservation)

def LedgerCall.entry : LedgerCall → Result LedgerEntry
  | .provisionTenant eventId actor provisioning => do
    provisioning.validate
    pure
      { eventId
        eventType := tenantProvisionedType
        tenantId := provisioning.tenantId
        occurredAt := provisioning.provisionedAt
        actor
        details := Std.ExtTreeMap.ofList
          [("plan", provisioning.plan.asStr),
            ("retention_policy_id", provisioning.retentionPolicyId),
            ("self_hosted", toString provisioning.selfHosted),
            ("workspace_id", provisioning.workspaceId)] compare }
  | .recordSubscription eventId actor observedAt subscription => do
    subscription.validate
    validateUtcTimestamp "subscription observed_at" observedAt
    pure
      { eventId
        eventType := subscriptionObservedType
        tenantId := subscription.tenantId
        occurredAt := observedAt
        actor
        details := Std.ExtTreeMap.ofList
          [("effective_at", subscription.effectiveAt),
            ("external_customer_ref", subscription.externalCustomerRef),
            ("expires_at", subscription.expiresAt),
            ("payment_evidence_hash", subscription.paymentEvidenceHash),
            ("payment_provider", subscription.paymentProvider),
            ("plan", subscription.plan.asStr),
            ("status", subscription.status.asStr),
            ("subscription_id", subscription.subscriptionId)] compare }

section
variable [ContentHash]

def LedgerMemory.nextRecord (memory : LedgerMemory) (entry : LedgerEntry) :
    Result CommercialLedgerRecord := do
  validateLedgerInput entry
  refuseIf (entry.eventId ∈ memory.eventIds)
    "commercial ledger event_id is already recorded"
  refuseIf (2 ^ 64 ≤ memory.records.length + 1)
    "commercial ledger sequence overflow"
  let sequence := UInt64.ofNat (memory.records.length + 1)
  let prevHash := memory.headHash
  pure
    { ledgerSchemaVersion := commercialLedgerSchemaVersion
      sequence
      eventId := entry.eventId
      eventType := entry.eventType
      tenantId := entry.tenantId
      occurredAt := entry.occurredAt
      actor := entry.actor
      details := entry.details
      prevHash
      recordHash := sha256Hex (canonicalLedgerBody sequence entry prevHash) }

def LedgerMemory.accept (memory : LedgerMemory) (call : LedgerCall) :
    Result CommercialLedgerRecord := do
  let entry ← call.entry
  memory.nextRecord entry

def LedgerMemory.commit (memory : LedgerMemory)
    (record : CommercialLedgerRecord) : LedgerMemory where
  records := memory.records ++ [record]
  eventIds := memory.eventIds ++ [record.eventId]
  headHash := record.recordHash

namespace LedgerReading

variable [FromJson CommercialLedgerRecord]

def parseLine (line : String) (lineNumber : Nat) : Result CommercialLedgerRecord :=
  match FromJson.fromText line with
  | .ok document => pure document
  | .error _ => .error ⟨"commercial ledger line " ++ toString lineNumber ++
      " is not valid JSON"⟩

def readLine (reading : LedgerReading) (entry : String × Nat) : Result LedgerReading := do
  refuseIf (entry.1.isEmpty = true)
    ("commercial ledger contains an empty line at " ++ toString (entry.2 + 1))
  let record ← parseLine entry.1 (entry.2 + 1)
  validateRecord record (entry.2 + 1) reading.previousHash
  refuseIf (entry.1 ≠ record.canonicalJson ∨ record.eventId ∈ reading.eventIds)
    ("commercial ledger line " ++ toString (entry.2 + 1) ++
      " is non-canonical or duplicates an event ID")
  pure
    { records := reading.records ++ [record]
      eventIds := reading.eventIds ++ [record.eventId]
      previousHash := record.recordHash }

end LedgerReading

def checkFacts (records : List CommercialLedgerRecord) : Result Unit := do
  let _ ← provisionings records
  let _ ← subscriptions records
  pure ()

variable [FromJson CommercialLedgerRecord]

def commercialLog : LineLog LedgerReading LedgerMemory LedgerCall
    CommercialLedgerRecord PaperError where
  start := .start
  readLine := LedgerReading.readLine
  finish reading := checkFacts reading.records
  opened := LedgerReading.opened
  record := LedgerMemory.accept
  line := CommercialLedgerRecord.canonicalJson
  commit := LedgerMemory.commit
  limit := maxLedgerBytes
  tooLarge := ⟨"commercial ledger exceeds its configured 64 MiB safety limit"⟩
  notText := ⟨"stream did not contain valid UTF-8"⟩
  incomplete := ⟨"commercial ledger must end with one complete " ++
    "newline-delimited record"⟩
  writeFailed := ⟨"No space left on device (os error 28)"⟩

abbrev CommercialLedger : Type :=
  LogHandle LedgerMemory

def verifyLedgerFile (contents : List UInt8) : Result (List CommercialLedgerRecord) := do
  let reading ← commercialLog.verify contents
  pure reading.records

def CommercialLedger.openFile (contents : List UInt8) : Result CommercialLedger :=
  commercialLog.openFile contents

def CommercialLedger.append (ledger : CommercialLedger) (call : LedgerCall)
    (outcome : WriteOutcome) : Result CommercialLedgerRecord × CommercialLedger :=
  commercialLog.append ledger call outcome

end

/-! ## Entitlements -/

inductive EntitlementAccess where
  | full
  | readOnly
  | denied
  deriving DecidableEq

structure TenantEntitlement where
  tenantId : String
  subscriptionId : Option String
  plan : Option CommercialPlan
  access : EntitlementAccess
  maximumMembers : Nat
  selfHostingAllowed : Bool
  (asOf ledgerHeadHash : String)

def verifyNext [ContentHash] (seen : String × List String)
    (entry : CommercialLedgerRecord × Nat) : Result (String × List String) := do
  validateRecord entry.1 (entry.2 + 1) seen.1
  refuseIf (entry.1.eventId ∈ seen.2)
    "commercial ledger contains duplicate event IDs"
  pure (entry.1.recordHash, seen.2 ++ [entry.1.eventId])

def verifyRecordSequence [ContentHash]
    (records : List CommercialLedgerRecord) : Result Unit := do
  let _ ← records.zipIdx.foldlM verifyNext (emptyLedgerHash, [])
  pure ()

def laterSubscription (left right : RecordedSubscription) : Bool :=
  right.subscription.effectiveAt < left.subscription.effectiveAt ||
    (right.subscription.effectiveAt == left.subscription.effectiveAt &&
      right.sequence < left.sequence)

def latestSubscription (candidates : List RecordedSubscription) :
    Option RecordedSubscription :=
  candidates.foldl (fun latest candidate =>
    match latest with
    | some held =>
      if laterSubscription held candidate then some held else some candidate
    | none => some candidate) none

def accessAt (subscription : SubscriptionObservation) (asOf : String) :
    EntitlementAccess :=
  if subscription.expiresAt ≤ asOf then .denied
  else match subscription.status with
    | .paid => .full
    | .grace => .readOnly
    | .suspended => .denied
    | .cancelled => .denied

def entitlementOf (records : List CommercialLedgerRecord)
    (tenantId asOf : String) (provisioning : TenantProvisioning) :
    Option RecordedSubscription → Result TenantEntitlement
  | none => pure
      { tenantId
        subscriptionId := none
        plan := none
        access := .denied
        maximumMembers := 0
        selfHostingAllowed := false
        asOf
        ledgerHeadHash := lastHash records }
  | some recorded => do
    let subscription := recorded.subscription
    refuseIf (subscription.plan ≠ provisioning.plan)
      "subscription plan does not match immutable tenant provisioning"
    let access := accessAt subscription asOf
    pure
      { tenantId
        subscriptionId := some subscription.subscriptionId
        plan := some subscription.plan
        access
        maximumMembers :=
          if access = .denied then 0 else subscription.plan.maximumMembers
        selfHostingAllowed :=
          access = .full && subscription.plan.selfHostingAllowed
        asOf
        ledgerHeadHash := lastHash records }

def provisioningFor (provisionings : OrderedMap String TenantProvisioning)
    (tenantId : String) : Result TenantProvisioning :=
  match provisionings[tenantId]? with
  | some provisioning => pure provisioning
  | none => .error ⟨"tenant has no durable provisioning record"⟩

def deriveEntitlement [ContentHash] (records : List CommercialLedgerRecord)
    (tenantId asOf : String) : Result TenantEntitlement := do
  validateCanonicalId "entitlement tenant_id" tenantId
  validateUtcTimestamp "entitlement as_of" asOf
  verifyRecordSequence records
  let provisioned ← provisionings records
  let provisioning ← provisioningFor provisioned tenantId
  let observed ← subscriptions records
  let latest := latestSubscription (observed.filter fun recorded =>
    recorded.subscription.tenantId == tenantId &&
      decide (recorded.subscription.effectiveAt ≤ asOf))
  entitlementOf records tenantId asOf provisioning latest

end Follon.Commercial
