import Follon.Commercial.LedgerRuns

/-!
# Reopening the ledger

The ledger is a log whose records read back.  It reopens with exactly the
accepted records when no accepted call provisions a tenant again, and then
nothing but a tenant's own plans can deny it an entitlement.
-/

namespace Follon.Commercial

open Foundation Domain

section
variable [ContentHash]

/-! ## Lines -/

structure CommercialLedgerRecord.ValidAt (record : CommercialLedgerRecord)
    (lineNumber : Nat) (previousHash : String) : Prop where
  version : record.ledgerSchemaVersion = commercialLedgerSchemaVersion
  sequence : record.sequence.toNat = lineNumber
  prevHash : record.prevHash = previousHash
  input : validateLedgerInput record.entry = .ok ()
  prevDigest : isDigest record.prevHash = true
  digest : isDigest record.recordHash = true
  hashed : record.recordHash = sha256Hex
    (canonicalLedgerBody record.sequence record.entry record.prevHash)

theorem validateRecord_eq_ok {record : CommercialLedgerRecord}
    {lineNumber : Nat} {previousHash : String} :
    validateRecord record lineNumber previousHash = .ok () ↔
      record.ValidAt lineNumber previousHash := by
  simp only [validateRecord, validateSha256, bind_eq_ok, refuseIf_eq_ok,
    exists_const, not_or, not_not, not_eq_false]
  constructor
  · rintro ⟨⟨hversion, hsequence, hprev⟩, _, hinput, hprevious, hdigest, hhash⟩
    exact ⟨hversion, hsequence, hprev, hinput, hprevious, hdigest, hhash⟩
  · rintro ⟨hversion, hsequence, hprev, hinput, hprevious, hdigest, hhash⟩
    exact ⟨⟨hversion, hsequence, hprev⟩, (), hinput, hprevious, hdigest, hhash⟩

omit [ContentHash] in
theorem lastHash_append (records : List CommercialLedgerRecord)
    (record : CommercialLedgerRecord) :
    lastHash (records ++ [record]) = record.recordHash := by
  rw [lastHash, List.getLast?_concat]
  rfl

namespace LedgerReading

def add (reading : LedgerReading) (record : CommercialLedgerRecord) : LedgerReading where
  records := reading.records ++ [record]
  eventIds := reading.eventIds ++ [record.eventId]
  previousHash := record.recordHash

structure Sound (reading : LedgerReading) : Prop where
  ids : reading.eventIds = reading.records.map (·.eventId)
  last : reading.previousHash = lastHash reading.records
  digest : isDigest reading.previousHash = true
  verified : reading.records.zipIdx.foldlM verifyNext (emptyLedgerHash, [])
    = .ok (reading.previousHash, reading.eventIds)

theorem start_sound : start.Sound where
  ids := rfl
  last := rfl
  digest := by decide
  verified := rfl

variable {reading : LedgerReading}

theorem Sound.add (h : reading.Sound) {record : CommercialLedgerRecord}
    (hvalid : record.ValidAt (reading.records.length + 1) reading.previousHash)
    (hfresh : record.eventId ∉ reading.eventIds) : (reading.add record).Sound := by
  constructor
  · simp [LedgerReading.add, h.ids]
  · exact (lastHash_append _ _).symm
  · exact hvalid.digest
  · rw [LedgerReading.add, List.zipIdx_append]
    refine HashChain.foldlM_concat.mpr ⟨_, h.verified, ?_⟩
    simp only [verifyNext, bind_eq_ok, refuseIf_eq_ok, exists_const]
    refine ⟨(), validateRecord_eq_ok.mpr ?_, hfresh, rfl⟩
    simpa using hvalid

theorem Sound.valid (h : reading.Sound) :
    ∀ record ∈ reading.records, ∃ lineNumber previousHash,
      record.ValidAt lineNumber previousHash := by
  intro record hrecord
  obtain ⟨before, after, hsplit⟩ := List.append_of_mem hrecord
  have hverified := h.verified
  rw [hsplit, HashChain.zipIdx_cons_append, append_assoc] at hverified
  obtain ⟨seen, _, hrest⟩ := HashChain.foldlM_append_eq_ok.mp hverified
  obtain ⟨_, hstep, _⟩ := HashChain.foldlM_append_eq_ok.mp hrest
  obtain ⟨_, hstep, _⟩ := HashChain.foldlM_cons_eq_ok.mp hstep
  simp only [verifyNext, bind_eq_ok] at hstep
  obtain ⟨_, hvalid, _⟩ := hstep
  exact ⟨_, _, validateRecord_eq_ok.mp hvalid⟩

variable [FromJson CommercialLedgerRecord]

theorem readLine_eq_ok {next : LedgerReading} {entry : String × Nat} :
    reading.readLine entry = .ok next ↔
      entry.1 ≠ "" ∧ ∃ record, FromJson.fromText entry.1 = .ok record ∧
        record.ValidAt (entry.2 + 1) reading.previousHash ∧
        entry.1 = record.canonicalJson ∧ record.eventId ∉ reading.eventIds ∧
        reading.add record = next := by
  simp only [readLine, bind_eq_ok, refuseIf_eq_ok, exists_const,
    String.isEmpty_iff, not_or, not_not, pure_eq_ok]
  refine and_congr_right fun _ => exists_congr fun record => ?_
  rw [parseLine]
  cases (FromJson.fromText entry.1 : Except String CommercialLedgerRecord) with
  | error e => simp
  | ok document =>
    simp only [pure_eq_ok, Except.ok.injEq]
    refine and_congr_right fun _ => ?_
    constructor
    · rintro ⟨_, hvalid, ⟨hline, hfresh⟩, hnext⟩
      exact ⟨validateRecord_eq_ok.mp hvalid, hline, hfresh, hnext⟩
    · rintro ⟨hvalid, hline, hfresh, hnext⟩
      exact ⟨(), validateRecord_eq_ok.mpr hvalid, ⟨hline, hfresh⟩, hnext⟩

end LedgerReading

/-! ## Accepted calls -/

variable {reading : LedgerReading} {records : List CommercialLedgerRecord}
  {ledger : CommercialLedger}

theorem LedgerMemory.accept_valid (hhash : PrintsDigests)
    (hsound : reading.Sound) {call : LedgerCall} {record : CommercialLedgerRecord}
    (h : reading.opened.accept call = .ok record) :
    record.ValidAt (reading.records.length + 1) reading.previousHash ∧
      record.eventId ∉ reading.eventIds := by
  simp only [accept, nextRecord, bind_eq_ok, refuseIf_eq_ok, exists_const,
    pure_eq_ok, Nat.not_le] at h
  obtain ⟨entry, hentry, _, hinput, hfresh, hroom, rfl⟩ := h
  have hlast : reading.opened.headHash = reading.previousHash := hsound.last.symm
  refine ⟨⟨rfl, ?_, hlast, hinput, ?_, hhash _, rfl⟩, ?_⟩
  · exact UInt64.toNat_ofNat_of_lt' hroom
  · rw [hlast]
    exact hsound.digest
  · rw [hsound.ids]
    exact hfresh

theorem LedgerMemory.accept_readable {memory : LedgerMemory}
    {call : LedgerCall} {record : CommercialLedgerRecord}
    (h : memory.accept call = .ok record) : record.Readable := by
  simp only [accept, nextRecord, bind_eq_ok, pure_eq_ok] at h
  obtain ⟨entry, hentry, _, _, _, _, _, _, rfl⟩ := h
  exact LedgerCall.readable hentry rfl

omit [ContentHash] in
theorem CommercialLedgerRecord.canonicalJson_ne_empty
    (record : CommercialLedgerRecord) : record.canonicalJson ≠ "" := by
  intro hempty
  have hsize := congrArg String.toList hempty
  rw [canonicalJson, value, Json.print_obj] at hsize
  simp at hsize

variable [FromJson CommercialLedgerRecord]

theorem commercialLog_lawful (hhash : PrintsDigests)
    (hreads : FromJson.ReadsBack CommercialLedgerRecord.canonicalJson) :
    commercialLog.Lawful LedgerReading.records LedgerReading.Sound where
  start_records := rfl
  start_sound := LedgerReading.start_sound
  start_finished := checkFacts_eq_ok.mpr (by
    simp [commercialLog, LedgerReading.start, provisionedTenants])
  reads := by
    intro reading line next h hsound hindex
    obtain ⟨_, record, _, hvalid, _, hfresh, rfl⟩ :=
      LedgerReading.readLine_eq_ok.mp h
    rw [hindex] at hvalid
    exact ⟨hsound.add hvalid hfresh, record, rfl⟩
  reads_back := by
    intro reading call record hsound h
    obtain ⟨hvalid, hfresh⟩ := LedgerMemory.accept_valid hhash hsound h
    refine ⟨reading.add record, ?_, rfl, ?_⟩
    · exact LedgerReading.readLine_eq_ok.mpr ⟨record.canonicalJson_ne_empty,
        record, hreads record, hvalid, rfl, hfresh, rfl⟩
    · simp only [commercialLog, LedgerReading.opened, LedgerReading.add,
        LedgerMemory.commit, lastHash_append, map_append, List.map_singleton]
  one_line := by
    intro memory call record _
    exact ⟨Json.not_mem_print (by decide)
      (Json.not_mem_compactChar (by decide)) _,
      Json.not_mem_print (by decide)
        (Json.not_mem_compactChar (by decide)) _⟩

/-! ## Entitlements -/

def PlansDiffer (records : List CommercialLedgerRecord) (tenantId : String) : Prop :=
  ∃ record ∈ records, ∃ record' ∈ records, record.tenantId = tenantId ∧
    record'.tenantId = tenantId ∧
    record.details["plan"]? ≠ record'.details["plan"]?

omit [ContentHash] [FromJson CommercialLedgerRecord] in
theorem latestSubscription_mem {candidates : List RecordedSubscription}
    {latest : RecordedSubscription}
    (h : latestSubscription candidates = some latest) : latest ∈ candidates := by
  induction candidates using List.reverseRec generalizing latest with
  | nil => contradiction
  | append_singleton before candidate ih =>
    rw [latestSubscription, List.foldl_concat] at h
    have hfold : before.foldl _ none = latestSubscription before := rfl
    rw [hfold] at h
    cases hheld : latestSubscription before with
    | none =>
      rw [hheld] at h
      rw [← Option.some.inj h]
      simp
    | some held =>
      rw [hheld] at h
      simp only at h
      split at h
      · rw [← Option.some.inj h]
        exact mem_append_left _ (ih hheld)
      · rw [← Option.some.inj h]
        simp

omit [FromJson CommercialLedgerRecord] in
theorem deriveEntitlement_error (hverified : verifyRecordSequence records = .ok ())
    (hfacts : checkFacts records = .ok ())
    (hcanonical : ∀ record ∈ records, isCanonicalId record.tenantId = true)
    {tenantId asOf : String} (htenant : tenantId ∈ provisionedTenants records)
    (hasOf : isUtcTimestamp asOf = true) {e : PaperError}
    (h : deriveEntitlement records tenantId asOf = .error e) :
    PlansDiffer records tenantId := by
  simp only [checkFacts, bind_eq_ok] at hfacts
  obtain ⟨map, hmap, observed, hobserved, _⟩ := hfacts
  obtain ⟨record, hrecord, rfl⟩ := mem_map.mp htenant
  have hname := hcanonical record (mem_filter.mp hrecord).1
  obtain ⟨hget, hsome⟩ := @foldlM_addProvisioning_get _ _ _
    record.tenantId hmap
  have hfound := hsome (.inl (mem_map_of_mem hrecord))
  obtain ⟨provisioning, hprovisioning⟩ := isSome_iff_exists.mp hfound
  have hfor : provisioningFor map record.tenantId = .ok provisioning := by
    rw [provisioningFor, hprovisioning]
    rfl
  have hid : validateCanonicalId "entitlement tenant_id" record.tenantId
      = .ok () := validateCanonicalId_eq_ok.mpr hname
  have hinstant : validateUtcTimestamp "entitlement as_of" asOf = .ok () :=
    validateUtcTimestamp_eq_ok.mpr hasOf
  rw [deriveEntitlement, hid, hinstant, hverified, hmap] at h
  change (provisioningFor map record.tenantId >>= _) = _ at h
  rw [hfor] at h
  change (subscriptions records >>= _) = _ at h
  rw [hobserved] at h
  change entitlementOf records record.tenantId asOf provisioning
    (latestSubscription _) = _ at h
  cases hlatest : latestSubscription (observed.filter fun recorded =>
      recorded.subscription.tenantId == record.tenantId &&
        decide (recorded.subscription.effectiveAt ≤ asOf)) with
  | none =>
    rw [hlatest] at h
    contradiction
  | some recorded =>
    rw [hlatest] at h
    simp only [entitlementOf, bind_eq_error, refuseIf_eq_error] at h
    obtain ⟨hplans, _⟩ | ⟨_, _, h⟩ := h
    · obtain ⟨hobservation, howner⟩ :=
        mem_filter.mp (latestSubscription_mem hlatest)
      obtain ⟨observation, hmember, hread⟩ :=
        (collect_mem hobserved).2 recorded hobservation
      obtain ⟨hsubject, hplan⟩ := recordedSubscription_eq_ok hread
      obtain hempty | ⟨owner, howned, hsame, hprovisioned⟩ :=
        hget provisioning hprovisioning
      · simp at hempty
      · simp only [and_eq_true, beq_iff_eq] at howner
        refine ⟨observation, (mem_filter.mp hmember).1, owner,
          (mem_filter.mp howned).1, ?_, hsame, ?_⟩
        · rw [← hsubject, howner.1]
        · rw [hplan, (provisioningOf_eq_ok hprovisioned).2]
          intro htexts
          apply hplans
          have hparse := congrArg CommercialPlan.parse
            (Option.some.inj htexts)
          simpa using hparse
    · contradiction

/-! ## Runs of calls -/

def written (calls : List LedgerCall) : List (LedgerCall × WriteOutcome) :=
  calls.map fun call => (call, .completed)

def closed (ledger : CommercialLedger) (calls : List LedgerCall) : CommercialLedger :=
  commercialLog.run ledger (written calls)

/-- A call that passes every check of `append` and provisions a tenant the
ledger has a provisioning record of. -/
def Reprovisions (ledger : CommercialLedger) (call : LedgerCall) : Prop :=
  ∃ record, commercialLog.prepare ledger call = .ok record ∧
    isProvisioning record = true ∧
    record.tenantId ∈ provisionedTenants ledger.memory.records

omit [ContentHash] [FromJson CommercialLedgerRecord] in
theorem provisionedTenants_append (records more : List CommercialLedgerRecord) :
    provisionedTenants (records ++ more)
      = provisionedTenants records ++ provisionedTenants more := by
  rw [provisionedTenants, filter_append, map_append]
  rfl

omit [ContentHash] [FromJson CommercialLedgerRecord] in
theorem provisionedTenants_concat_nodup {record : CommercialLedgerRecord}
    (h : (provisionedTenants records).Nodup) :
    (provisionedTenants (records ++ [record])).Nodup ↔ ¬(isProvisioning record = true ∧
        record.tenantId ∈ provisionedTenants records) := by
  rw [provisionedTenants_append]
  cases hkind : isProvisioning record with
  | false =>
    have hnone : provisionedTenants [record] = [] := by
      simp [provisionedTenants, hkind]
    simp [hnone, h]
  | true =>
    have hone : provisionedTenants [record] = [record.tenantId] := by
      simp [provisionedTenants, hkind]
    rw [hone, List.nodup_append]
    simp only [true_and]
    constructor
    · rintro ⟨_, _, hdisjoint⟩ hmem
      exact hdisjoint _ hmem _ mem_cons_self rfl
    · intro hnot
      refine ⟨h, List.nodup_singleton _, ?_⟩
      rintro tenantId htenantId other hother rfl
      rw [mem_singleton.mp hother] at htenantId
      exact hnot htenantId

/-- No tenant is provisioned twice exactly when no call provisions one
again. -/
theorem tenants_nodup_iff {sound : LedgerReading → Prop}
    (hlaw : commercialLog.Lawful LedgerReading.records sound)
    (h : commercialLog.Holds ledger reading)
    (hnodup : (provisionedTenants reading.records).Nodup)
    (calls : List LedgerCall) : (provisionedTenants (reading.records ++
        commercialLog.accepted ledger (written calls))).Nodup ↔
      ∀ earlier call later, calls = earlier ++ call :: later →
        ¬Reprovisions (closed ledger earlier) call := by
  induction calls generalizing ledger reading with
  | nil => simpa [written, LineLog.accepted, LineLog.attempts] using hnodup
  | cons call rest ih =>
    have hmemory : ledger.memory.records = reading.records := by
      obtain ⟨_, _, _, _, hmemory⟩ := h
      rw [hmemory]
      rfl
    rw [LineLog.forall_calls_cons]
    change (provisionedTenants (_ ++ commercialLog.accepted ledger
      ((call, .completed) :: written rest))).Nodup ↔ _
    rw [LineLog.accepted_cons]
    change _ ↔ ¬Reprovisions ledger call ∧ ∀ earlier other later,
      rest = earlier ++ other :: later → ¬Reprovisions (closed
        (commercialLog.after ledger (call, .completed)) earlier) other
    cases hprepare : commercialLog.prepare ledger call with
    | error e =>
      have hrefused := @LineLog.after_refused _ _ _ _ _ commercialLog
        ledger (call, .completed) e hprepare
      obtain ⟨hafter, hattempt⟩ := hrefused
      have hnot : ¬Reprovisions ledger call := by
        rintro ⟨record, hrecord, _⟩
        rw [hprepare] at hrecord
        contradiction
      rw [hafter, hattempt]
      simp only [hnot, not_false_eq_true, true_and]
      exact ih h hnodup
    | ok record =>
      have hcompleted := @LineLog.after_completed _ _ _ _ _ commercialLog
        ledger (call, .completed) record hprepare rfl
      obtain ⟨hafter, hattempt⟩ := hcompleted
      have hrepeats : Reprovisions ledger call ↔
          isProvisioning record = true ∧
            record.tenantId ∈ provisionedTenants reading.records := by
        rw [Reprovisions, hprepare, hmemory]
        simp
      obtain ⟨next, hnext, hrecord⟩ := hlaw.holds_written h hprepare
      rw [← hafter] at hnext
      rw [hattempt, hrepeats]
      change (provisionedTenants (reading.records ++ (record ::
        commercialLog.accepted _ (written rest)))).Nodup ↔ _
      rw [List.append_cons, ← provisionedTenants_concat_nodup hnodup, ← hrecord]
      constructor
      · intro hall
        have hnodup' : (provisionedTenants next.records).Nodup := by
          rw [provisionedTenants_append] at hall
          exact (List.nodup_append.mp hall).1
        exact ⟨hnodup', (ih hnext hnodup').mp hall⟩
      · rintro ⟨hnodup', hrest⟩
        exact (ih hnext hnodup').mpr hrest

/-- After the calls the ledger reopens with the records it was opened with and
the accepted ones after them, and a provisioned tenant is denied an entitlement
by its own plans only. -/
structure Reopens (ledger : CommercialLedger) (calls : List LedgerCall) :
    Prop where
  opens : CommercialLedger.openFile (closed ledger calls).contents
    = .ok (closed ledger calls)
  records : verifyLedgerFile (closed ledger calls).contents
    = .ok (ledger.memory.records ++ commercialLog.accepted ledger (written calls))
  entitled : ∀ tenantId asOf e,
    tenantId ∈ provisionedTenants (closed ledger calls).memory.records →
    isUtcTimestamp asOf = true →
    deriveEntitlement (closed ledger calls).memory.records tenantId asOf = .error e →
      PlansDiffer (closed ledger calls).memory.records tenantId

/-- The ledger reopens exactly when its file provisions no tenant twice. -/
theorem reopens_iff_nodup (hhash : PrintsDigests)
    (hreads : FromJson.ReadsBack CommercialLedgerRecord.canonicalJson)
    (hholds : commercialLog.Holds ledger reading)
    (hfinish : checkFacts reading.records = .ok ()) (calls : List LedgerCall) :
    Reopens ledger calls ↔ (provisionedTenants (reading.records ++
      commercialLog.accepted ledger (written calls))).Nodup := by
  have hlaw := commercialLog_lawful hhash hreads
  obtain ⟨hreadable, hnodup⟩ := checkFacts_eq_ok.mp hfinish
  have hmemory : ledger.memory.records = reading.records := by
    obtain ⟨_, _, _, _, hmemory⟩ := hholds
    rw [hmemory]
    rfl
  have hcompleted : ∀ call ∈ written calls, call.2 = .completed := by
    simp [written]
  obtain ⟨last, hlast, hrecords⟩ := hlaw.run_completed hholds hcompleted
  have hfacts : checkFacts last.records = .ok () ↔
      (provisionedTenants last.records).Nodup := by
    rw [checkFacts_eq_ok]
    refine and_iff_right ?_
    intro record hrecord
    rw [hrecords] at hrecord
    obtain hrecord | hrecord := mem_append.mp hrecord
    · exact hreadable record hrecord
    · obtain ⟨attempt, hattempt, rfl⟩ := mem_map.mp hrecord
      obtain ⟨memory, call, hcall⟩ :=
        LineLog.mem_attempts (List.mem_of_mem_filter hattempt)
      exact LedgerMemory.accept_readable hcall
  rw [← hrecords, ← hfacts]
  constructor
  · intro h
    have hverified := h.records
    simp only [verifyLedgerFile, bind_eq_ok] at hverified
    obtain ⟨found, hfound, hsame⟩ := hverified
    obtain ⟨_, _, _, _, hfinish⟩ := hlaw.verify_eq_ok.mp hfound
    have hequal : found.records = last.records := by
      rw [hrecords, ← hmemory]
      exact Except.ok.inj hsame
    rw [← hequal]
    exact hfinish
  · intro hfinish
    have hsource := hlaw.verify_of_holds hlast hfinish
    have hopened := hlaw.openFile_of_holds hlast hfinish
    obtain ⟨source, _, _, hread, hmemory'⟩ := hlast
    have hsound := (hlaw.reads_sound hread).1
    have hsame : (closed ledger calls).memory.records = last.records := by
      rw [closed, hmemory']
      rfl
    constructor
    · exact hopened
    · rw [verifyLedgerFile, closed, hsource, hmemory, ← hrecords]
      rfl
    · intro tenantId asOf e htenant hasOf h
      rw [hsame] at htenant h ⊢
      apply deriveEntitlement_error _ hfinish _ htenant hasOf h
      · rw [verifyRecordSequence, hsound.verified]
        rfl
      · intro record hrecord
        obtain ⟨_, _, hvalid⟩ := hsound.valid record hrecord
        have hinput := hvalid.input
        simp only [validateLedgerInput, bind_eq_ok,
          validateCanonicalId_eq_ok] at hinput
        obtain ⟨_, _, _, htenantId, _⟩ := hinput
        exact htenantId

/-- Whatever is appended, the ledger reopens with exactly the accepted records
if and only if no call provisions a tenant again. -/
theorem ledger_reopens_iff (hhash : PrintsDigests)
    (hreads : FromJson.ReadsBack CommercialLedgerRecord.canonicalJson)
    {contents : List UInt8} {ledger : CommercialLedger}
    (hopen : CommercialLedger.openFile contents = .ok ledger)
    (calls : List LedgerCall) : Reopens ledger calls ↔
      ∀ earlier call later, calls = earlier ++ call :: later →
        ¬Reprovisions (closed ledger earlier) call := by
  have hlaw := commercialLog_lawful hhash hreads
  obtain ⟨rfl, reading, hholds, hverify⟩ := hlaw.holds_of_openFile hopen
  obtain ⟨_, _, _, _, hfinish⟩ := hlaw.verify_eq_ok.mp hverify
  rw [reopens_iff_nodup hhash hreads hholds hfinish calls]
  exact tenants_nodup_iff hlaw hholds (checkFacts_eq_ok.mp hfinish).2 calls

end

namespace LedgerRun

/-! ## One tenant, provisioned once and twice -/

def recordOfValue : Json → Option CommercialLedgerRecord
  | .obj [("actor", .str actor), ("details", .obj members),
      ("event_id", .str eventId), ("event_type", .str eventType),
      ("ledger_schema_version", .num version),
      ("occurred_at", .str occurredAt), ("prev_hash", .str prevHash),
      ("record_hash", .str recordHash), ("sequence", .num sequence),
      ("tenant_id", .str tenantId)] =>
      (Json.texts members).map fun details =>
        { ledgerSchemaVersion := UInt32.ofNat version.toNat
          sequence := UInt64.ofNat sequence.toNat
          details, eventId, eventType, tenantId, occurredAt, actor, prevHash
          recordHash }
  | _ => none

@[reducible] def lineReader : FromJson CommercialLedgerRecord where
  fromText line :=
    match (Json.read line).bind recordOfValue with
    | some record => .ok record
    | none => .error "expected value at line 1 column 1"

def provisioning : TenantProvisioning where
  tenantId := "acme"
  workspaceId := "main"
  plan := .professional
  retentionPolicyId := "standard"
  selfHosted := false
  provisionedAt := "2026-01-01T00:00:00Z"

def call (eventId : String) : LedgerCall :=
  .provisionTenant eventId "billing" provisioning

def entry (eventId : String) : LedgerEntry where
  eventId
  eventType := tenantProvisionedType
  tenantId := "acme"
  occurredAt := "2026-01-01T00:00:00Z"
  actor := "billing"
  details := Std.ExtTreeMap.ofList
    [("plan", "PROFESSIONAL"), ("retention_policy_id", "standard"),
      ("self_hosted", "false"), ("workspace_id", "main")] compare

/-- The digests of the two texts hashed here, which differ in length. -/
@[reducible] def recordedDigests : ContentHash where
  hexDigest bytes :=
    if bytes.length = (canonicalLedgerBody 1 (entry "first")
      emptyLedgerHash).utf8ByteSize
    then "499e7305a2b62b52ecde2b161bc307ab660e9dffd8ba1c8f91b92982d83e0508"
    else "853094245e5819d9ab46e4df99af6f5aca5fa710c54b1c7cd336b1d267421e02"

attribute [local instance] lineReader recordedDigests

theorem printsDigests : PrintsDigests := by
  intro bytes
  change isDigest (if _ then _ else _) = true
  split
  · decide
  · decide

theorem nested_value (record : CommercialLedgerRecord) :
    Json.Nested 127 record.value := by
  apply Json.Nested.obj
  simp only [forall_mem_cons, not_mem_nil, false_implies, implies_true, and_true]
  exact ⟨.str _, Json.nested_ofTexts 124 _, .str _, .str _, .num _, .str _,
    .str _, .str _, .num _, .str _⟩

theorem readsBack : FromJson.ReadsBack CommercialLedgerRecord.canonicalJson := by
  intro record
  have hread : recordOfValue record.value = some record := by
    simp only [CommercialLedgerRecord.value, recordOfValue, Json.ofTexts,
      Json.texts_ofTexts, Option.map_some, Int.toNat_natCast,
      UInt32.ofNat_toNat, UInt64.ofNat_toNat]
  simp only [FromJson.fromText, CommercialLedgerRecord.canonicalJson]
  rw [Json.read_print Json.spells_compactChar (nested_value record),
    bind_some, hread]

def start : CommercialLedger := ⟨LedgerReading.start.opened, []⟩

def record (eventId : String) (sequence : UInt64)
    (prevHash recordHash : String) : CommercialLedgerRecord where
  ledgerSchemaVersion := 1
  sequence
  eventId
  eventType := tenantProvisionedType
  tenantId := "acme"
  occurredAt := "2026-01-01T00:00:00Z"
  actor := "billing"
  details := (entry eventId).details
  prevHash
  recordHash

def first : CommercialLedgerRecord :=
  record "first" 1 emptyLedgerHash
    "499e7305a2b62b52ecde2b161bc307ab660e9dffd8ba1c8f91b92982d83e0508"

def second : CommercialLedgerRecord :=
  record "second" 2 first.recordHash
    "853094245e5819d9ab46e4df99af6f5aca5fa710c54b1c7cd336b1d267421e02"

theorem start_holds : commercialLog.Holds start .start := LineLog.holds_new _

theorem accept_call {memory : LedgerMemory} {eventId recordHash : String}
    (hinput : validateLedgerInput (entry eventId) = .ok ())
    (hfresh : eventId ∉ memory.eventIds) (hroom : memory.records.length + 1 < 2 ^ 64)
    (hhash : sha256Hex (canonicalLedgerBody
      (UInt64.ofNat (memory.records.length + 1)) (entry eventId)
      memory.headHash) = recordHash) : memory.accept (call eventId) = .ok (record eventId
      (UInt64.ofNat (memory.records.length + 1)) memory.headHash
      recordHash) := by
  have hvalid : provisioning.validate = .ok () := by
    decide
  simp only [LedgerMemory.accept, LedgerCall.entry, call,
    LedgerMemory.nextRecord, bind_eq_ok, refuseIf_eq_ok]
  refine ⟨entry eventId, ⟨(), hvalid, rfl⟩, (), hinput, (), hfresh, (),
    Nat.not_le.mpr hroom, ?_⟩
  rw [hhash]
  rfl

theorem prepare_first : commercialLog.prepare start (call "first") = .ok first := by
  refine LineLog.prepare_eq_ok.mpr ⟨?_, ?_⟩
  · exact accept_call (by decide) not_mem_nil (by decide)
      (if_pos (length_utf8 _))
  · rw [LineLog.lineBytes, length_utf8]
    decide +kernel

def provisioned : CommercialLedger :=
  ⟨start.memory.commit first, start.contents ++ commercialLog.lineBytes first⟩

theorem prepare_second : commercialLog.prepare provisioned (call "second")
    = .ok second := by
  refine LineLog.prepare_eq_ok.mpr ⟨?_, ?_⟩
  · apply accept_call (by decide) (by decide) (by decide)
    refine if_neg ?_
    rw [length_utf8]
    decide +kernel
  · rw [provisioned, LineLog.lineBytes, LineLog.lineBytes, length_append,
      length_utf8, length_utf8]
    decide +kernel

theorem accepted_first :
    commercialLog.accepted start (written [call "first"]) = [first] := by
  have hattempt : commercialLog.attempt start (call "first", .completed)
      = some (first, true) := (LineLog.after_completed prepare_first rfl).2
  rw [written, List.map_singleton, LineLog.accepted_cons, hattempt]
  rfl

theorem accepted_both :
    commercialLog.accepted start (written [call "first", call "second"])
      = [first, second] := by
  obtain ⟨hafter, hattempt⟩ :=
    @LineLog.after_completed _ _ _ _ _ commercialLog start
      (call "first", .completed) first prepare_first rfl
  have hattempt' : commercialLog.attempt provisioned
      (call "second", .completed) = some (second, true) :=
    (LineLog.after_completed prepare_second rfl).2
  rw [written, map_cons, List.map_singleton, LineLog.accepted_cons,
    LineLog.accepted_cons, hafter, hattempt]
  change _ ++ (((commercialLog.attempt provisioned
    (call "second", .completed)).toList.filter _).map _ ++ _) = _
  rw [hattempt']
  rfl

theorem start_facts : checkFacts LedgerReading.start.records = .ok () :=
  (commercialLog_lawful printsDigests readsBack).start_finished

/-- One provisioning is found again. -/
theorem one_provisioning_reopens : Reopens start [call "first"] := by
  have hlaw := commercialLog_lawful printsDigests readsBack
  apply (ledger_reopens_iff printsDigests readsBack
    (hlaw.openFile_of_holds start_holds start_facts) [call "first"]).mpr
  apply (tenants_nodup_iff hlaw start_holds List.nodup_nil _).mp
  rw [accepted_first]
  exact List.nodup_singleton "acme"

/-- Both provisionings of one tenant are accepted, and the ledger does not
reopen. -/
theorem second_provisioning_closes_ledger :
    commercialLog.accepted start (written [call "first", call "second"])
        = [first, second] ∧
      ¬Reopens start [call "first", call "second"] := by
  refine ⟨accepted_both, ?_⟩
  rw [reopens_iff_nodup printsDigests readsBack start_holds start_facts, accepted_both]
  decide +kernel

end LedgerRun

end Follon.Commercial
