import Follon.Operations.Journal

/-!
# What the operations journal keeps and what its head binds

Appended records are found again on reopening, and the journal reopened is the
journal that was closed.  The hashed text has one reading, so the head hash of
a verified file binds the whole sequence of its records.
-/

namespace Follon.Operations

open Foundation Domain

/-! ## Fields of one line -/

variable {value : String}

theorem oneLine_of_all {p : Char → Bool} (h : value.toList.all p = true)
    (hfeed : p '\n' = false) : OneLine value := by
  intro hmem
  have hp := all_eq_true.mp h '\n' hmem
  rw [hfeed] at hp
  contradiction

theorem oneLine_of_isCanonicalId (h : isCanonicalId value = true) : OneLine value := by
  simp only [isCanonicalId, and_eq_true] at h
  exact oneLine_of_all h.2 (by decide)

theorem oneLine_of_isDigest (h : isDigest value = true) : OneLine value := by
  simp only [isDigest, and_eq_true] at h
  exact oneLine_of_all h.2 (by decide)

theorem oneLine_of_isUtcTimestamp (h : isUtcTimestamp value = true) : OneLine value := by
  simp only [isUtcTimestamp, hasCanonicalShape, and_eq_true] at h
  intro hmem
  obtain ⟨index, hindex, hget⟩ := List.getElem_of_mem hmem
  have hentry : ('\n', index) ∈ value.toList.zipIdx := by
    rw [List.mem_zipIdx_iff_getElem?]
    rw [List.getElem?_eq_getElem hindex, hget]
  have hchar := all_eq_true.mp h.1.2 _ hentry
  simp only at hchar
  split_ifs at hchar <;> exact absurd hchar (by decide)

theorem oneLine_toString (n : Int) : OneLine (toString n) := by
  intro hmem
  have hprint : '\n' ∈ (Json.print Json.compactChar (.num n)).toList := by
    rwa [Json.print]
  exact Json.not_mem_print (by decide)
    (Json.not_mem_compactChar (by decide)) _ hprint

theorem oneLine_print (value : Json) : OneLine (Json.print Json.compactChar value) :=
  Json.not_mem_print (by decide) (Json.not_mem_compactChar (by decide)) value

theorem oneLine_of_isEventComponents {count : Nat} {components : List String}
    (h : isEventComponents count components = true) :
    ∀ component ∈ components, OneLine component := by
  induction components generalizing count with
  | nil => simp
  | cons component rest ih =>
    cases rest with
    | nil =>
      simp only [isEventComponents, and_eq_true, beq_iff_eq] at h
      obtain ⟨⟨_, hhead⟩, htail⟩ := h
      obtain ⟨digits, hdigits⟩ := List.head?_eq_some_iff.mp hhead
      rw [hdigits, List.tail_cons] at htail
      intro other hother
      rw [mem_singleton.mp hother, OneLine, hdigits]
      intro hmem
      obtain hsame | hmem := mem_cons.mp hmem
      · contradiction
      · exact absurd (all_eq_true.mp htail _ hmem) (by decide)
    | cons next more =>
      simp only [isEventComponents, and_eq_true] at h
      obtain ⟨⟨_, hall⟩, hrest⟩ := h
      intro other hother
      obtain rfl | hother := mem_cons.mp hother
      · exact oneLine_of_all hall (by decide)
      · exact ih hrest other hother

theorem oneLine_of_isEventType (h : isEventType value = true) : OneLine value := by
  intro hmem
  obtain hsame | ⟨part, hpart, hc⟩ :=
    mem_splitAtChar '.' value.toList [] (.inr hmem)
  · contradiction
  · exact oneLine_of_isEventComponents h part hpart hc

theorem nextSequence_ne_zero {sequence next : UInt64}
    (h : nextSequence sequence = .ok next) : next ≠ 0 := by
  simp only [nextSequence, bind_eq_ok, refuseIf_eq_ok, exists_const, pure_eq_ok] at h
  obtain ⟨hroom, rfl⟩ := h
  intro hzero
  have hvalue := congrArg UInt64.toNat hzero
  have hbound := sequence.toNat_lt
  rw [UInt64.toNat_add, UInt64.toNat_one, UInt64.toNat_zero,
    Nat.mod_eq_of_lt (by omega)] at hvalue
  omega

theorem JournalRecord.canonicalJson_ne_empty (record : JournalRecord) :
    record.canonicalJson ≠ "" := by
  intro hempty
  have hsize := congrArg String.toList hempty
  rw [canonicalJson, value, Json.print_obj] at hsize
  simp at hsize

section
variable [ContentHash]

/-! ## What is hashed -/

theorem validateJournalInput_oneLine {input : JournalEntryInput}
    (h : validateJournalInput input = .ok ()) :
    OneLine input.entryId ∧ OneLine input.actor ∧ OneLine input.occurredAt ∧
      OneLine input.eventType := by
  simp only [validateJournalInput, bind_eq_ok, validateCanonicalId_eq_ok,
    validateUtcTimestamp_eq_ok, refuseIf_eq_ok, exists_const,
    not_eq_false] at h
  obtain ⟨hentry, hactor, hoccurred, hevent, _⟩ := h
  exact ⟨oneLine_of_isCanonicalId hentry, oneLine_of_isCanonicalId hactor,
    oneLine_of_isUtcTimestamp hoccurred, oneLine_of_isEventType hevent⟩

variable {prevHash : String} {reading next : JournalReading}

theorem journalBodyRows_oneLine {sequence : UInt64} {input : JournalEntryInput}
    (h : validateJournalInput input = .ok ()) (hprev : isDigest prevHash = true) :
    ∀ row ∈ journalBodyRows sequence input prevHash, OneLine row.2 := by
  obtain ⟨hentry, hactor, hoccurred, hevent⟩ := validateJournalInput_oneLine h
  simp only [journalBodyRows, forall_mem_cons, not_mem_nil,
    false_implies, implies_true, and_true]
  exact ⟨hactor, oneLine_print _, hentry, hevent, oneLine_toString _,
    hoccurred, oneLine_of_isDigest hprev, oneLine_toString _⟩

theorem canonicalJournalBody_inj {sequence sequence' : UInt64}
    {input input' : JournalEntryInput} {prevHash' : String}
    (h : validateJournalInput input = .ok ()) (h' : validateJournalInput input' = .ok ())
    (hprev : isDigest prevHash = true) (hprev' : isDigest prevHash' = true)
    (hbody : canonicalJournalBody sequence input prevHash
      = canonicalJournalBody sequence' input' prevHash') :
    sequence = sequence' ∧ input = input' ∧ prevHash = prevHash' := by
  have hlabels : (journalBodyRows sequence input prevHash).map (·.1)
      = (journalBodyRows sequence' input' prevHash').map (·.1) := rfl
  have hrows := labelledLines_inj hlabels (journalBodyRows_oneLine h hprev)
    (journalBodyRows_oneLine h' hprev') hbody
  simp only [journalBodyRows, List.cons.injEq, Prod.mk.injEq, true_and,
    and_true] at hrows
  obtain ⟨hactor, hdetails, hentry, hevent, hoccurred, hprevious, hsequence⟩ :=
    hrows
  refine ⟨UInt64.toNat_inj.mp (Json.toString_nat_inj hsequence), ?_, hprevious⟩
  have hsame := Json.print_ofTexts_inj Json.spells_compactChar hdetails
  cases input
  cases input'
  exact (JournalEntryInput.mk.injEq ..).mpr
    ⟨hentry, hevent, hoccurred, hactor, hsame⟩

/-! ## The chain of records -/

def chainStep (prevHash : String) (record : JournalRecord) : Except Unit String :=
  if record.prevHash = prevHash ∧ record.recordHash = record.bodyHash then
    .ok record.recordHash
  else .error ()

theorem chainStep_eq_ok {head : String} {record : JournalRecord} :
    chainStep prevHash record = .ok head ↔
      record.prevHash = prevHash ∧ record.recordHash = record.bodyHash ∧
        record.recordHash = head := by
  rw [chainStep]
  split
  · simp_all
  · simp_all

structure JournalRecord.Valid (record : JournalRecord) : Prop where
  version : record.journalSchemaVersion = operationsJournalSchemaVersion
  input : validateJournalInput record.input = .ok ()
  prevHash : isDigest record.prevHash = true
  recordHash : isDigest record.recordHash = true
  sequence : record.sequence ≠ 0

theorem JournalRecord.intoRecord_eq_ok {persisted record : JournalRecord} :
    persisted.intoRecord = .ok record ↔
      persisted.Valid ∧ persisted = record := by
  simp only [intoRecord, validateSha256, bind_eq_ok, refuseIf_eq_ok, exists_const, pure_eq_ok, not_not, not_eq_false]
  constructor
  · rintro ⟨hversion, _, hinput, hprev, hhash, hsequence, hsame⟩
    exact ⟨⟨hversion, hinput, hprev, hhash, hsequence⟩, hsame⟩
  · rintro ⟨⟨hversion, hinput, hprev, hhash, hsequence⟩, hsame⟩
    exact ⟨hversion, (), hinput, hprev, hhash, hsequence, hsame⟩

/-- What a verified reading is: its records are valid, hash-chained up to the
head, and its identifiers are theirs. -/
structure JournalReading.Sound (reading : JournalReading) : Prop where
  healthy : reading.inspection.healthy = true
  trusted : reading.inspection.failureReason = none
  head : isDigest reading.inspection.headHash = true
  ids : reading.entryIds = reading.records.map (·.entryId)
  valid : ∀ record ∈ reading.records, record.Valid
  chained : reading.records.foldlM chainStep emptyJournalHash
    = .ok reading.inspection.headHash

theorem JournalReading.start_sound : JournalReading.start.Sound where
  healthy := rfl
  trusted := rfl
  head := by decide
  ids := rfl
  valid := by simp [JournalReading.start]
  chained := rfl

structure JournalReading.Adds (reading : JournalReading)
    (record : JournalRecord) (next : JournalReading) : Prop where
  valid : record.Valid
  sequence : nextSequence reading.inspection.sequence = .ok record.sequence
  prevHash : record.prevHash = reading.inspection.headHash
  fresh : record.entryId ∉ reading.entryIds
  hashed : record.recordHash = record.bodyHash
  next : next =
    { inspection :=
        { reading.inspection with
          sequence := record.sequence, headHash := record.recordHash }
      entryIds := reading.entryIds ++ [record.entryId]
      records := reading.records ++ [record] }

theorem JournalReading.accept_eq_ok {lineNumber : Nat} {record : JournalRecord} :
    reading.accept lineNumber record = .ok next ↔
      reading.Adds record next := by
  simp only [accept, bind_eq_ok, JournalRecord.intoRecord_eq_ok, refuseIf_eq_ok,
    exists_const, pure_eq_ok, not_or, not_not]
  constructor
  · rintro ⟨_, ⟨hvalid, rfl⟩, expected, hexpected, ⟨hsame, hprev, hfresh⟩, hhash, rfl⟩
    exact ⟨hvalid, by rw [hexpected, hsame], hprev, hfresh, hhash, rfl⟩
  · rintro ⟨hvalid, hsequence, hprev, hfresh, hhash, rfl⟩
    exact ⟨record, ⟨hvalid, rfl⟩, record.sequence, hsequence,
      ⟨rfl, hprev, hfresh⟩, hhash, rfl⟩

theorem JournalReading.Adds.sound {record : JournalRecord}
    (h : reading.Adds record next) (hsound : reading.Sound) : next.Sound := by
  obtain rfl := h.next
  constructor
  · exact hsound.healthy
  · exact hsound.trusted
  · exact h.valid.recordHash
  · simp [hsound.ids]
  · intro other hother
    obtain hother | hother := mem_append.mp hother
    · exact hsound.valid other hother
    · rw [mem_singleton.mp hother]
      exact h.valid
  · refine HashChain.foldlM_concat.mpr ⟨_, hsound.chained, ?_⟩
    exact chainStep_eq_ok.mpr ⟨h.prevHash, h.hashed, rfl⟩

variable [FromJson JournalRecord]

theorem JournalReading.readLine_eq_ok {entry : String × Nat} :
    reading.readLine entry = .ok next ↔
      entry.1 ≠ "" ∧ ∃ record, FromJson.fromText entry.1 = .ok record ∧
        reading.Adds record next := by
  simp only [readLine, bind_eq_ok, refuseIf_eq_ok, exists_const,
    String.isEmpty_iff, accept_eq_ok]
  refine and_congr_right fun _ => exists_congr fun record => ?_
  rw [parseLine]
  cases (FromJson.fromText entry.1 : Except String JournalRecord) with
  | ok persisted => simp [pure, Except.pure]
  | error e => simp

omit [FromJson JournalRecord] in
theorem JournalMemory.nextRecord_adds (hhash : PrintsDigests)
    (hsound : reading.Sound) {input : JournalEntryInput} {record : JournalRecord}
    (h : reading.toJournalMemory.nextRecord input = .ok record) :
    ∃ next, reading.Adds record next := by
  simp only [nextRecord, bind_eq_ok, refuseIf_eq_ok, exists_const, pure_eq_ok] at h
  obtain ⟨_, hinput, hfresh, sequence, hsequence, rfl⟩ := h
  exact ⟨_, ⟨rfl, hinput, hsound.head, hhash _,
    nextSequence_ne_zero hsequence⟩, hsequence, rfl, hfresh, rfl, rfl⟩

theorem operationsLog_lawful (hhash : PrintsDigests)
    (hreads : FromJson.ReadsBack JournalRecord.canonicalJson) :
    operationsLog.Lawful JournalReading.records JournalReading.Sound where
  start_records := rfl
  start_sound := JournalReading.start_sound
  start_finished := rfl
  reads := by
    intro reading line next h hsound _
    obtain ⟨_, record, _, hadds⟩ := JournalReading.readLine_eq_ok.mp h
    exact ⟨hadds.sound hsound, record, by rw [hadds.next]⟩
  reads_back := by
    intro reading input record hsound h
    obtain ⟨next, hadds⟩ := JournalMemory.nextRecord_adds hhash hsound h
    refine ⟨next, ?_, by rw [hadds.next], ?_⟩
    · exact JournalReading.readLine_eq_ok.mpr
        ⟨record.canonicalJson_ne_empty, record, hreads record, hadds⟩
    · have hhealthy := hsound.healthy
      have htrusted := hsound.trusted
      rw [hadds.next]
      simp only [operationsLog, JournalMemory.commit, hhealthy, htrusted]
  one_line := by
    intro memory input record _
    exact ⟨Json.not_mem_print (by decide)
      (Json.not_mem_compactChar (by decide)) _,
      Json.not_mem_print (by decide)
        (Json.not_mem_compactChar (by decide)) _⟩

/-! ## The head of a file -/

def hashedBodies (records : List JournalRecord) : List (List UInt8) :=
  records.map fun record =>
    (canonicalJournalBody record.sequence record.input record.prevHash).toUTF8.toList

/-- What two files hash has no collision, and none of it has the hash an empty
journal starts from. -/
structure NoCollision (records records' : List JournalRecord) : Prop where
  injective : Set.InjOn ContentHash.hexDigest
    {body | body ∈ hashedBodies (records ++ records')}
  genesis : ∀ body ∈ hashedBodies (records ++ records'),
    ContentHash.hexDigest body ≠ emptyJournalHash

def JournalRecord.BoundIn (record : JournalRecord) (bodies : List (List UInt8)) : Prop :=
  record.Valid ∧ ∀ body ∈ hashedBodies [record], body ∈ bodies

omit [FromJson JournalRecord] in
theorem chainStep_back {bodies : List (List UInt8)}
    (hinjective : Set.InjOn ContentHash.hexDigest {body | body ∈ bodies})
    {prevHash' head head' : String} {record record' : JournalRecord}
    (hbound : record.BoundIn bodies) (hbound' : record'.BoundIn bodies)
    (h : chainStep prevHash record = .ok head)
    (h' : chainStep prevHash' record' = .ok head') (hhead : head = head') :
    prevHash = prevHash' ∧ record = record' := by
  obtain ⟨hvalid, hbody⟩ := hbound
  obtain ⟨hvalid', hbody'⟩ := hbound'
  obtain ⟨hprev, hhash, rfl⟩ := chainStep_eq_ok.mp h
  obtain ⟨hprev', hhash', rfl⟩ := chainStep_eq_ok.mp h'
  have hdigest : record.bodyHash = record'.bodyHash := by
    rw [← hhash, ← hhash', hhead]
  have htext := utf8_injective (hinjective
    (hbody _ mem_cons_self) (hbody' _ mem_cons_self) hdigest)
  obtain ⟨hsequence, hinput, hprevious⟩ := canonicalJournalBody_inj
    hvalid.input hvalid'.input hvalid.prevHash hvalid'.prevHash htext
  have hversion := hvalid.version.trans hvalid'.version.symm
  refine ⟨hprev.symm.trans (hprevious.trans hprev'), ?_⟩
  cases record
  cases record'
  simp only [JournalRecord.input, JournalEntryInput.mk.injEq] at hinput
  obtain ⟨hentry, hevent, hoccurred, hactor, hdetails⟩ := hinput
  exact (JournalRecord.mk.injEq ..).mpr ⟨hversion, hsequence, hentry, hevent,
    hoccurred, hactor, hdetails, hprevious, hhead⟩

omit [FromJson JournalRecord] in
theorem JournalReading.Sound.records_eq {reading' : JournalReading}
    (h : reading.Sound) (h' : reading'.Sound)
    (hcollision : NoCollision reading.records reading'.records)
    (hhead : reading.inspection.headHash = reading'.inspection.headHash) :
    reading.records = reading'.records := by
  have hbound : ∀ record ∈ reading.records ++ reading'.records,
      record.BoundIn (hashedBodies (reading.records ++ reading'.records)) := by
    intro record hrecord
    constructor
    · obtain hrecord | hrecord := mem_append.mp hrecord
      · exact h.valid record hrecord
      · exact h'.valid record hrecord
    · intro body hbody
      rw [hashedBodies, List.map_singleton, mem_singleton] at hbody
      rw [hbody]
      exact mem_map_of_mem hrecord
  apply HashChain.items_eq
    (fun _ _ _ _ _ _ => chainStep_back hcollision.injective) _ _ _
    h.chained h'.chained hhead
  · intro prevHash record head hrecord hstep hkey
    obtain ⟨_, hhash, rfl⟩ := chainStep_eq_ok.mp hstep
    apply hcollision.genesis _ (hrecord.2 _ mem_cons_self)
    rw [← hkey, hhash]
    rfl
  · intro visit hvisit
    exact hbound _ (mem_append_left _ (HashChain.mem_of_visit hvisit))
  · intro visit hvisit
    exact hbound _ (mem_append_right _ (HashChain.mem_of_visit hvisit))

/-- A journal reopened after any appends is the journal that was closed, with
the records reported as written after those it was opened with; and two files
that verify with one head hash hold the same records. -/
theorem operational_journal_kept_and_bound (hhash : PrintsDigests)
    (hreads : FromJson.ReadsBack JournalRecord.canonicalJson) :
    (∀ contents journal (inputs : List JournalEntryInput),
      OperationalJournal.openFile contents = .ok journal →
        ∃ before closed, closed = operationsLog.run journal
            (inputs.map fun input => (input, .completed)) ∧
          OperationalJournal.readVerifiedRecords contents = .ok before ∧
          OperationalJournal.openFile closed.contents = .ok closed ∧
          OperationalJournal.readVerifiedRecords closed.contents =
            .ok (before ++ operationsLog.accepted journal
              (inputs.map fun input => (input, .completed)))) ∧
      ∀ contents contents' reading reading', verifyJournalFile contents = .ok reading →
          verifyJournalFile contents' = .ok reading' →
          NoCollision reading.records reading'.records →
          reading.inspection.headHash = reading'.inspection.headHash →
            reading.records = reading'.records := by
  have hlaw := operationsLog_lawful hhash hreads
  constructor
  · intro contents journal inputs hopen
    obtain ⟨rfl, reading, hholds, hverify⟩ := hlaw.holds_of_openFile hopen
    have hcompleted : ∀ call ∈ inputs.map fun input =>
        (input, WriteOutcome.completed), call.2 = .completed := by
      simp
    obtain ⟨closed, hclosed, hrecords⟩ :=
      hlaw.run_completed hholds hcompleted
    refine ⟨reading.records, _, rfl, ?_, hlaw.openFile_of_holds hclosed rfl, ?_⟩
    · simp only [OperationalJournal.readVerifiedRecords, verifyJournalFile, hverify]
      rfl
    · simp only [OperationalJournal.readVerifiedRecords, verifyJournalFile,
        hlaw.verify_of_holds hclosed rfl]
      rw [← hrecords]
      rfl
  · intro contents contents' reading reading' h h' hcollision hhead
    obtain ⟨_, _, _, hreads, _⟩ := hlaw.verify_eq_ok.mp h
    obtain ⟨_, _, _, hreads', _⟩ := hlaw.verify_eq_ok.mp h'
    exact (hlaw.reads_sound hreads).1.records_eq (hlaw.reads_sound hreads').1
      hcollision hhead

end

namespace JournalRun

/-! ## A journal of one record -/

def recordOfValue : Json → Option JournalRecord
  | .obj [("actor", .str actor), ("details", .obj members),
      ("entry_id", .str entryId), ("event_type", .str eventType),
      ("journal_schema_version", .num version),
      ("occurred_at", .str occurredAt), ("prev_hash", .str prevHash),
      ("record_hash", .str recordHash), ("sequence", .num sequence)] =>
      (Json.texts members).map fun details =>
        { journalSchemaVersion := UInt32.ofNat version.toNat
          sequence := UInt64.ofNat sequence.toNat
          details, entryId, eventType, occurredAt, actor, prevHash, recordHash }
  | _ => none

@[reducible] def lineReader : FromJson JournalRecord where
  fromText line :=
    match (Json.read line).bind recordOfValue with
    | some record => .ok record
    | none => .error "expected value at line 1 column 1"

def input : JournalEntryInput where
  entryId := "entry-1"
  eventType := "operations.report_generated.v1"
  occurredAt := "2026-01-01T00:00:00Z"
  actor := "ops"
  details := Std.ExtTreeMap.ofList [("note", "quiet session")] compare

@[reducible] def recordedDigest : ContentHash where
  hexDigest bytes :=
    if bytes = (canonicalJournalBody 1 input emptyJournalHash).toUTF8.toList
    then "ea51bdb125b213c34cd4d5450791596cda33407fff7b724c3196048ffd7e292e"
    else "e3b0c44298fc1c149afbf4c8996fb92427ae41e4649b934ca495991b7852b855"

attribute [local instance] lineReader recordedDigest

theorem printsDigests : PrintsDigests := by
  intro bytes
  change isDigest (if _ then _ else _) = true
  split
  · decide
  · decide

theorem nested_value (record : JournalRecord) : Json.Nested 127 record.value := by
  apply Json.Nested.obj
  simp only [forall_mem_cons, not_mem_nil, false_implies, implies_true, and_true]
  exact ⟨.str _, Json.nested_ofTexts 124 _, .str _, .str _, .num _, .str _,
    .str _, .str _, .num _⟩

theorem readsBack : FromJson.ReadsBack JournalRecord.canonicalJson := by
  intro record
  have hread : recordOfValue record.value = some record := by
    simp only [JournalRecord.value, recordOfValue, Json.ofTexts,
      Json.texts_ofTexts, Option.map_some, Int.toNat_natCast, UInt32.ofNat_toNat, UInt64.ofNat_toNat]
  simp only [FromJson.fromText, JournalRecord.canonicalJson]
  rw [Json.read_print Json.spells_compactChar (nested_value record),
    bind_some, hread]

def start : OperationalJournal := ⟨JournalReading.start.toJournalMemory, []⟩

def calls : List (JournalEntryInput × WriteOutcome) := [(input, .completed)]

def record : JournalRecord where
  journalSchemaVersion := 1
  sequence := 1
  entryId := "entry-1"
  eventType := "operations.report_generated.v1"
  occurredAt := "2026-01-01T00:00:00Z"
  actor := "ops"
  details := input.details
  prevHash := emptyJournalHash
  recordHash :=
    "ea51bdb125b213c34cd4d5450791596cda33407fff7b724c3196048ffd7e292e"

theorem nextRecord_input : start.memory.nextRecord input = .ok record := by
  have hvalid : validateJournalInput input = .ok () := by
    decide
  have hdigest : sha256Hex (canonicalJournalBody 1 input emptyJournalHash)
      = record.recordHash :=
    if_pos rfl
  simp only [JournalMemory.nextRecord, bind_eq_ok, refuseIf_eq_ok]
  refine ⟨(), hvalid, (), not_mem_nil, 1, rfl, ?_⟩
  exact congrArg (fun hash => (pure { record with recordHash := hash } :
    Result JournalRecord)) hdigest

theorem prepare_input : operationsLog.prepare start input = .ok record := by
  refine LineLog.prepare_eq_ok.mpr ⟨nextRecord_input, ?_⟩
  rw [LineLog.lineBytes, length_utf8]
  decide +kernel

theorem accepted_calls : operationsLog.accepted start calls = [record] := by
  have hattempt : operationsLog.attempt start (input, .completed)
      = some (record, true) := (LineLog.after_completed prepare_input rfl).2
  rw [calls, LineLog.accepted_cons, hattempt]
  rfl

theorem noCollision : NoCollision [record] [record] := by
  have hbodies : ∀ body ∈ hashedBodies ([record] ++ [record]),
      body = (canonicalJournalBody 1 input emptyJournalHash).toUTF8.toList := by
    intro body hbody
    obtain hbody | hbody := mem_cons.mp hbody
    · exact hbody
    · exact mem_singleton.mp hbody
  constructor
  · intro body hbody body' hbody' _
    rw [hbodies body hbody, hbodies body' hbody']
  · intro body _ hzeros
    have hhead : (ContentHash.hexDigest body).toList.head? = some 'e' := by
      change (if _ then _ else _ : String).toList.head? = _
      split
      · decide
      · decide
    rw [hzeros] at hhead
    exact absurd hhead (by decide)

theorem start_holds : operationsLog.Holds start .start := LineLog.holds_new _

/-- One record is appended to a new journal, found again, and bound by the
head hash of the file. -/
theorem one_record_kept_and_bound :
    OperationalJournal.openFile (operationsLog.run start calls).contents
        = .ok (operationsLog.run start calls) ∧
      OperationalJournal.readVerifiedRecords
        (operationsLog.run start calls).contents = .ok [record] ∧
      ∀ reading reading', verifyJournalFile (operationsLog.run start calls).contents
          = .ok reading →
        verifyJournalFile (operationsLog.run start calls).contents
          = .ok reading' → reading.records = reading'.records := by
  have hlaw := operationsLog_lawful printsDigests readsBack
  obtain ⟨hkept, hbound⟩ :=
    operational_journal_kept_and_bound printsDigests readsBack
  obtain ⟨before, closed, rfl, hbefore, hopen, hrecords⟩ :=
    hkept [] start [input] (hlaw.openFile_of_holds start_holds rfl)
  have hcalls : ([input].map fun input => (input, WriteOutcome.completed))
      = calls := rfl
  have hnone : before = [] := by
    rw [OperationalJournal.readVerifiedRecords, verifyJournalFile,
      show [] = start.contents from rfl,
      hlaw.verify_of_holds start_holds rfl] at hbefore
    exact (Except.ok.inj hbefore).symm
  rw [hcalls] at hopen hrecords
  rw [hnone, nil_append, accepted_calls] at hrecords
  refine ⟨hopen, hrecords, ?_⟩
  intro reading reading' h h'
  have hreading : reading.records = [record] := by
    simp only [OperationalJournal.readVerifiedRecords, bind_eq_ok] at hrecords
    obtain ⟨found, hfound, hsame⟩ := hrecords
    obtain rfl := Except.ok.inj (hfound.symm.trans h)
    exact Except.ok.inj hsame
  obtain rfl := Except.ok.inj (h.symm.trans h')
  apply hbound _ _ reading reading h h _ rfl
  rw [hreading]
  exact noCollision

end JournalRun

end Follon.Operations
