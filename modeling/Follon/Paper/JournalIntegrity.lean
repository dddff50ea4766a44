import Follon.Paper.Journal

/-!
# What the PAPER journal keeps and betrays

Appended snapshots are found again on reopening.  The records of a file are
bound to one another by their hashes, so a file that opens and still holds a
hashed record holds everything before it unchanged.
-/

namespace Follon.Paper

open Foundation Domain

section

variable {State : Type} [SerdeJson (PersistentJournalRecord State)]
  [ContentHash]

namespace JournalReading

variable {reading reading' : JournalReading State} {line : String}
  {index : Nat}

inductive Accepts (reading : JournalReading State) (line : String) :
    PersistentJournalRecord State → JournalReading State → Prop
  | v3 {record : PersistentJournalRecordV3 State}
      (hversion : record.schemaVersion = paperJournalSchemaVersion)
      (hsequence : record.sequence = reading.nextSequence)
      (hprevious : record.previousHash = reading.previousHash)
      (hentry : record.entryHash = paperRecordHash record) :
      Accepts reading line (.v3 record)
        ⟨reading.nextSequence + 1, record.entryHash, true, some record.state⟩
  | v2 {record : PersistentJournalRecordV2 State}
      (hmodern : reading.modernRecordSeen = false)
      (hversion : record.schemaVersion = legacyPaperJournalSchemaVersion)
      (hsequence : record.sequence = reading.nextSequence) :
      Accepts reading line (.v2 record)
        ⟨reading.nextSequence + 1, legacyPaperRecordHash reading.previousHash line,
          reading.modernRecordSeen, some record.state⟩

theorem accept_eq_ok {record : PersistentJournalRecord State} :
    reading.accept line index record = .ok reading' ↔
      Accepts reading line record reading' := by
  constructor
  · intro h
    cases record with
    | v3 record =>
      simp only [accept, bind_eq_ok, refuseIf_eq_ok, exists_const, pure_eq_ok, not_or, not_not] at h
      obtain ⟨⟨hversion, hsequence, hprevious, hentry⟩, rfl⟩ := h
      exact .v3 hversion hsequence hprevious hentry
    | v2 record =>
      simp only [accept, bind_eq_ok, refuseIf_eq_ok, exists_const, pure_eq_ok, not_or, not_not,
        not_eq_true] at h
      obtain ⟨⟨hmodern, hversion, hsequence⟩, rfl⟩ := h
      exact .v2 hmodern hversion hsequence
  · intro h
    cases h with
    | v3 hversion hsequence hprevious hentry =>
      simp only [accept, bind_eq_ok, refuseIf_eq_ok, exists_const, not_or, not_not]
      exact ⟨⟨hversion, hsequence, hprevious, hentry⟩, rfl⟩
    | v2 hmodern hversion hsequence =>
      simp only [accept, bind_eq_ok, refuseIf_eq_ok, exists_const, not_or,
        not_not, not_eq_true]
      exact ⟨⟨hmodern, hversion, hsequence⟩, rfl⟩

theorem readLine_eq_ok : reading.readLine (line, index) = .ok reading' ↔
      line ≠ "" ∧ ∃ record, SerdeJson.fromText line = .ok record ∧
        SerdeJson.toText record = line ∧
        Accepts reading line record reading' := by
  simp only [readLine, bind_eq_ok, refuseIf_eq_ok, exists_const,
    String.isEmpty_iff, not_not, accept_eq_ok]
  refine and_congr_right fun _ => exists_congr fun record => ?_
  rw [parseLine]
  cases SerdeJson.fromText (α := PersistentJournalRecord State) line with
  | ok value => simp [pure, Except.pure]
  | error e => simp

end JournalReading

/-! ## Appending -/

namespace PaperJournalFile

def Holds (journal : PaperJournalFile State) : Prop :=
  Terminated journal.contents ∧ ∃ reading, readContents journal.contents = .ok reading ∧
      journal.nextSequence = reading.nextSequence ∧
      journal.previousHash = reading.previousHash ∧
      journal.latest = reading.latest

variable {journal : PaperJournalFile State}

variable {contents : String}

theorem openWith_eq_ok : openWith contents = .ok journal ↔
      contents.utf8ByteSize ≤ maxPaperJournalBytes ∧
        ∃ reading, readContents contents = .ok reading ∧
          ⟨contents, reading.nextSequence, reading.previousHash,
            reading.latest⟩ = journal := by
  simp only [openWith, bind_eq_ok, refuseIf_eq_ok, exists_const, Nat.not_lt, pure_eq_ok]

theorem holds_of_openWith (h : openWith contents = .ok journal)
    (hterminated : Terminated contents) : journal.Holds := by
  obtain ⟨-, reading, hreading, rfl⟩ := openWith_eq_ok.mp h
  exact ⟨hterminated, reading, hreading, rfl, rfl, rfl⟩

theorem Holds.openWith (h : journal.Holds)
    (hsize : journal.contents.utf8ByteSize ≤ maxPaperJournalBytes) :
    openWith journal.contents = .ok journal := by
  obtain ⟨-, reading, hreading, hsequence, hhash, hlatest⟩ := h
  refine openWith_eq_ok.mpr ⟨hsize, reading, hreading, ?_⟩
  rw [← hsequence, ← hhash, ← hlatest]

theorem lines_appended (h : journal.Holds)
    (hobjects : SerdeJson.WritesObjects (PersistentJournalRecord State))
    (state : State) : lines (journal.append state).contents = lines journal.contents
      ++ [SerdeJson.toText (PersistentJournalRecord.v3 (journal.nextRecord state))] :=
  lines_append h.1 (hobjects.not_mem _ (by decide))
    (hobjects.not_mem _ (by decide))

theorem Holds.append (h : journal.Holds)
    (hserde : SerdeJson.RoundTrips (PersistentJournalRecord State))
    (hobjects : SerdeJson.WritesObjects (PersistentJournalRecord State))
    (state : State) : (journal.append state).Holds := by
  have hlines := lines_appended h hobjects state
  obtain ⟨-, reading, hreading, hsequence, hhash, -⟩ := h
  refine ⟨.inr ⟨_, rfl⟩, ⟨reading.nextSequence + 1, (journal.nextRecord state).entryHash,
    true, some state⟩, ?_, congrArg (· + 1) hsequence, rfl, rfl⟩
  rw [readContents, hlines, List.zipIdx_append]
  refine HashChain.foldlM_concat.mpr ⟨reading, hreading, ?_⟩
  refine JournalReading.readLine_eq_ok.mpr ⟨hobjects.ne_empty _, _, hserde _, rfl, ?_⟩
  exact .v3 rfl hsequence hhash rfl

theorem Holds.appendAll (h : journal.Holds)
    (hserde : SerdeJson.RoundTrips (PersistentJournalRecord State))
    (hobjects : SerdeJson.WritesObjects (PersistentJournalRecord State))
    (states : List State) : (journal.appendAll states).Holds := by
  induction states generalizing journal with
  | nil => exact h
  | cons state rest ih => exact ih (h.append hserde hobjects state)

theorem appendAll_latest (journal : PaperJournalFile State) (states : List State) :
    (journal.appendAll states).latest = states.getLast?.or journal.latest ∧
      (journal.appendAll states).nextSequence
        = journal.nextSequence + states.length := by
  induction states generalizing journal with
  | nil => exact ⟨rfl, rfl⟩
  | cons state rest ih =>
    obtain ⟨hlatest, hsequence⟩ := ih (journal.append state)
    refine ⟨hlatest.trans ?_, hsequence.trans ?_⟩
    · rw [List.getLast?_cons]
      cases rest.getLast? with
      | none => rfl
      | some last => rfl
    · simp only [append, length_cons]
      omega

end PaperJournalFile

/-! ## Hashes -/

def hashedInput (reading : JournalReading State) (line : String) : Option (List UInt8) :=
  match SerdeJson.fromText (α := PersistentJournalRecord State) line with
  | .ok (.v3 record) => some (canonicalRecord record)
  | .ok (.v2 _) => some (legacyAnchor reading.previousHash line)
  | .error _ => none

def hashedInputs (State : Type) [SerdeJson (PersistentJournalRecord State)]
    (contents : String) : List (List UInt8) :=
  (HashChain.visits JournalReading.readLine (JournalReading.start : JournalReading State)
    (lines contents).zipIdx).filterMap fun visit =>
      hashedInput visit.1 visit.2.1

def inputsOf (State : Type) [SerdeJson (PersistentJournalRecord State)]
    (contents contents' : String) : Set (List UInt8) :=
  {input | input ∈ hashedInputs State contents ++
    hashedInputs State contents'}

def NoCollision (State : Type) [SerdeJson (PersistentJournalRecord State)]
    (contents contents' : String) : Prop :=
  Set.InjOn ContentHash.hexDigest (inputsOf State contents contents')

def Digits64 : Prop := ∀ bytes, (ContentHash.hexDigest bytes).utf8ByteSize = 64

omit [ContentHash] in
theorem head_of_brace {text : String} (h : text.toList.head? = some '\x7b') :
    text.toUTF8.toList.head? = some 123 := by
  obtain ⟨rest, hrest⟩ := List.head?_eq_some_iff.mp h
  have htext : text = "\x7b" ++ String.ofList rest := by
    apply toList_injective
    rw [toList_append, hrest]
    exact congrArg _ toList_ofList.symm
  have hbrace : "\x7b".toUTF8.toList = [123] := by
    rw [toList_eq_data]
    decide
  rw [htext, utf8_append, hbrace]
  rfl

omit [ContentHash] in
theorem legacyAnchor_head (previousHash line : String) :
    (legacyAnchor previousHash line).head? = some 102 := by
  have hstem : "follon-paper-journal-v2-anchor".toUTF8.toList.head?
      = some 102 := by
    rw [toList_eq_data]
    decide
  simp only [legacyAnchor, List.head?_append, hstem]
  rfl

omit [ContentHash] in
theorem legacyAnchor_inj {previousHash previousHash' line line' : String}
    (hsize : previousHash.utf8ByteSize = previousHash'.utf8ByteSize)
    (h : legacyAnchor previousHash line = legacyAnchor previousHash' line') :
    previousHash = previousHash' ∧ line = line' := by
  simp only [legacyAnchor, lengthPrefixed, append_assoc,
    List.append_cancel_left_eq] at h
  obtain ⟨hprevious, hrest⟩ := List.append_inj h (by
    rw [length_utf8, length_utf8, hsize])
  obtain ⟨-, hline⟩ := List.append_inj hrest (by
    rw [length_bigEndian, length_bigEndian])
  exact ⟨utf8_injective hprevious, utf8_injective hline⟩

omit [ContentHash] in
theorem canonicalRecord_ne
    (hobjects : SerdeJson.WritesObjects (PersistentJournalRecord State))
    (record : PersistentJournalRecordV3 State) (previousHash line : String) :
    canonicalRecord record ≠ legacyAnchor previousHash line := by
  intro h
  have hhead := head_of_brace (hobjects.brace (.v3 record.unsigned))
  rw [← canonicalRecord, h, legacyAnchor_head] at hhead
  contradiction

namespace JournalReading

/-- What holds of every line read: it stands where its sequence number says,
and what it hashes is among `inputs`. -/
def Bound (inputs : Set (List UInt8)) (reading : JournalReading State)
    (entry : String × Nat) : Prop :=
  entry.2 + 1 = reading.nextSequence ∧ reading.previousHash.utf8ByteSize = 64 ∧
    ∀ input ∈ hashedInput reading entry.1, input ∈ inputs

def key (reading : JournalReading State) : Nat × String :=
  (reading.nextSequence, reading.previousHash)

variable {reading reading' : JournalReading State} {line : String}
  {record : PersistentJournalRecord State}

theorem Accepts.nextSequence (h : Accepts reading line record reading') :
    reading'.nextSequence = reading.nextSequence + 1 := by
  cases h with
  | v3 => rfl
  | v2 => rfl

theorem Accepts.hash (h : Accepts reading line record reading') (hdigits : Digits64) :
    reading'.previousHash.utf8ByteSize = 64 := by
  cases h with
  | v3 _ _ _ hentry =>
    simp only [hentry]
    exact hdigits _
  | v2 => exact hdigits _

theorem visits_numbered (hdigits : Digits64) (entries : List String)
    (index : Nat) (reading : JournalReading State)
    (hindex : index + 1 = reading.nextSequence)
    (hhash : reading.previousHash.utf8ByteSize = 64) :
    ∀ visit ∈ HashChain.visits readLine reading (entries.zipIdx index),
      visit.2.2 + 1 = visit.1.nextSequence ∧
        visit.1.previousHash.utf8ByteSize = 64 := by
  induction entries generalizing index reading with
  | nil => simp [HashChain.visits]
  | cons line rest ih =>
    intro visit hvisit
    rw [List.zipIdx_cons, HashChain.visits] at hvisit
    rcases mem_cons.mp hvisit with rfl | hvisit
    · exact ⟨hindex, hhash⟩
    · cases hstep : reading.readLine (line, index) with
      | error e =>
        rw [hstep] at hvisit
        contradiction
      | ok next =>
        rw [hstep] at hvisit
        obtain ⟨-, record, -, -, haccepts⟩ := readLine_eq_ok.mp hstep
        refine ih (index + 1) next ?_ (haccepts.hash hdigits) visit hvisit
        rw [haccepts.nextSequence, hindex]

variable {inputs : Set (List UInt8)}

theorem visits_bound (hdigits : Digits64) {contents : String}
    (hinputs : ∀ input ∈ hashedInputs State contents, input ∈ inputs) :
    ∀ visit ∈ HashChain.visits readLine (start : JournalReading State)
      (lines contents).zipIdx, Bound inputs visit.1 visit.2 := by
  intro visit hvisit
  have hzeros : (start : JournalReading State).previousHash.utf8ByteSize
      = 64 := by
    change (String.ofList (List.replicate 64 '0')).utf8ByteSize = 64
    decide
  obtain ⟨hindex, hhash⟩ :=
    visits_numbered hdigits (lines contents) 0 start rfl hzeros visit hvisit
  refine ⟨hindex, hhash, fun input hinput => hinputs input ?_⟩
  exact List.mem_filterMap.mpr ⟨visit, hvisit, hinput⟩

omit [SerdeJson (PersistentJournalRecord State)] [ContentHash] in
theorem unsigned_inj {record record' : PersistentJournalRecordV3 State}
    (h : record.unsigned = record'.unsigned)
    (hentry : record.entryHash = record'.entryHash) : record = record' := by
  cases record
  cases record'
  simp_all [PersistentJournalRecordV3.unsigned]

theorem step_back (hserde : SerdeJson.RoundTrips (PersistentJournalRecord State))
    (hobjects : SerdeJson.WritesObjects (PersistentJournalRecord State))
    (hinj : Set.InjOn ContentHash.hexDigest inputs) (s : JournalReading State)
    (a : String × Nat) (s' : JournalReading State) (a' : String × Nat)
    (t t' : JournalReading State) (h : Bound inputs s a)
    (h' : Bound inputs s' a') (hstep : s.readLine a = .ok t)
    (hstep' : s'.readLine a' = .ok t') (hkey : t.key = t'.key)
    : s.key = s'.key ∧ a = a' := by
  obtain ⟨line, index⟩ := a
  obtain ⟨line', index'⟩ := a'
  obtain ⟨-, record, hread, htext, haccepts⟩ := readLine_eq_ok.mp hstep
  obtain ⟨-, record', hread', htext', haccepts'⟩ := readLine_eq_ok.mp hstep'
  obtain ⟨hsequence, hhash⟩ := Prod.mk.inj hkey
  rw [haccepts.nextSequence, haccepts'.nextSequence,
    Nat.add_right_cancel_iff] at hsequence
  have hindex : index = index' := by
    have hfirst := h.1
    have hsecond := h'.1
    omega
  suffices hsame : s.previousHash = s'.previousHash ∧ line = line' by
    refine ⟨?_, ?_⟩
    · rw [key, key, hsequence, hsame.1]
    · rw [hsame.2, hindex]
  have hsize := h.2.1.trans h'.2.1.symm
  have hbound : ∀ input ∈ hashedInput s line, input ∈ inputs := h.2.2
  have hbound' : ∀ input ∈ hashedInput s' line', input ∈ inputs := h'.2.2
  simp only [hashedInput, hread, Option.mem_def] at hbound
  simp only [hashedInput, hread', Option.mem_def] at hbound'
  cases haccepts with
  | @v3 record _ _ hprevious hentry =>
    have hfirst := hbound _ rfl
    cases haccepts' with
    | @v3 record' _ _ hprevious' hentry' =>
      simp only [hentry, hentry'] at hhash
      have hcanonical := hinj hfirst (hbound' _ rfl) hhash
      have hunsigned := PersistentJournalRecord.v3.inj
        (hserde.injective (utf8_injective hcanonical))
      have hrecord := unsigned_inj hunsigned
        (hentry.trans (hhash.trans hentry'.symm))
      rw [← hprevious, ← hprevious', ← htext, ← htext', hrecord]
      exact ⟨rfl, rfl⟩
    | v2 =>
      simp only [hentry] at hhash
      exact absurd (hinj hfirst (hbound' _ rfl) hhash)
        (canonicalRecord_ne hobjects _ _ _)
  | v2 =>
    have hfirst := hbound _ rfl
    cases haccepts' with
    | v3 _ _ _ hentry' =>
      simp only [hentry'] at hhash
      exact absurd (hinj hfirst (hbound' _ rfl) hhash).symm
        (canonicalRecord_ne hobjects _ _ _)
    | v2 => exact legacyAnchor_inj hsize (hinj hfirst (hbound' _ rfl) hhash)

theorem step_forward (s : JournalReading State) (a : String × Nat)
    (t : JournalReading State) (h : Bound inputs s a) (hstep : s.readLine a = .ok t) :
    t.key ≠ (start : JournalReading State).key := by
  obtain ⟨-, record, -, -, haccepts⟩ := readLine_eq_ok.mp hstep
  have hnext := haccepts.nextSequence
  have hnumber := h.1
  intro hkey
  have hone : t.nextSequence = 1 := congrArg Prod.fst hkey
  omega

end JournalReading

theorem hashedInputs_append {journal : PaperJournalFile State} (h : journal.Holds)
    (hserde : SerdeJson.RoundTrips (PersistentJournalRecord State))
    (hobjects : SerdeJson.WritesObjects (PersistentJournalRecord State))
    (state : State) : hashedInputs State (journal.append state).contents
      = hashedInputs State journal.contents
        ++ [canonicalRecord (journal.nextRecord state)] := by
  obtain ⟨-, reading, hreading, -⟩ := id h
  rw [hashedInputs, PaperJournalFile.lines_appended h hobjects, List.zipIdx_append,
    HashChain.visits_append hreading, filterMap_append]
  have hread := hserde (.v3 (journal.nextRecord state))
  refine congrArg (hashedInputs State journal.contents ++ ·) ?_
  rw [List.zipIdx_cons, List.zipIdx_nil, HashChain.visits_single]
  simp only [List.filterMap_cons, List.filterMap_nil, hashedInput, hread]

/-! ## Files that open -/

/-- What is assumed of the encoder and the hash, which are not collected here:
the encoder's values are objects on one line and read back, the hash prints 64
digits. -/
structure SerdeAndSha (State : Type) [SerdeJson (PersistentJournalRecord State)]
    [ContentHash] : Prop where
  roundTrips : SerdeJson.RoundTrips (PersistentJournalRecord State)
  objects : SerdeJson.WritesObjects (PersistentJournalRecord State)
  digits : Digits64

namespace PaperJournalFile

variable {contents edited : String}

variable {t reading : JournalReading State} {line : String}

theorem entries_eq (hassumed : SerdeAndSha State)
    (hcollision : NoCollision State contents edited)
    {before before' after after' : List (String × Nat)} {t' : JournalReading State}
    (hlines : (lines contents).zipIdx = before ++ after)
    (hlines' : (lines edited).zipIdx = before' ++ after')
    (h : before.foldlM JournalReading.readLine .start = .ok t)
    (h' : before'.foldlM JournalReading.readLine .start = .ok t')
    (hkey : t.key = t'.key) : before = before' := by
  have hbound : ∀ visit ∈ HashChain.visits JournalReading.readLine
      (JournalReading.start : JournalReading State) (lines contents).zipIdx,
      JournalReading.Bound (inputsOf State contents edited) visit.1 visit.2 :=
    JournalReading.visits_bound hassumed.digits fun _ hinput =>
      mem_append_left _ hinput
  have hbound' : ∀ visit ∈ HashChain.visits JournalReading.readLine
      (JournalReading.start : JournalReading State) (lines edited).zipIdx,
      JournalReading.Bound (inputsOf State contents edited) visit.1 visit.2 :=
    JournalReading.visits_bound hassumed.digits fun _ hinput =>
      mem_append_right _ hinput
  rw [hlines, HashChain.visits_append h] at hbound
  rw [hlines', HashChain.visits_append h'] at hbound'
  exact HashChain.items_eq
    (JournalReading.step_back hassumed.roundTrips hassumed.objects hcollision)
    JournalReading.step_forward
    (fun visit hvisit => hbound visit (mem_append_left _ hvisit))
    (fun visit hvisit => hbound' visit (mem_append_left _ hvisit))
    h h' hkey

variable {before after : List String} {s reading' : JournalReading State}
  {record : PersistentJournalRecordV3 State}

theorem readContents_at (h : readContents contents = .ok reading)
    (hlines : lines contents = before ++ line :: after) :
    ∃ s t : JournalReading State, s.readLine (line, before.length) = .ok t ∧
      (before.zipIdx ++ [(line, before.length)]).foldlM
        JournalReading.readLine .start = .ok t := by
  rw [readContents, hlines, HashChain.zipIdx_cons_append] at h
  obtain ⟨t, hbefore, -⟩ := HashChain.foldlM_append_eq_ok.mp h
  obtain ⟨s, -, hstep⟩ := HashChain.foldlM_concat.mp hbefore
  exact ⟨s, t, hstep, hbefore⟩

theorem key_of_v3 {index : Nat}
    (hread : SerdeJson.fromText line = .ok (PersistentJournalRecord.v3 record))
    (hstep : s.readLine (line, index) = .ok t) :
    t.key = (record.sequence + 1, record.entryHash) := by
  obtain ⟨-, found, hfound, -, haccepts⟩ :=
    JournalReading.readLine_eq_ok.mp hstep
  rw [hread] at hfound
  obtain rfl := Except.ok.inj hfound
  cases haccepts with
  | v3 _ hsequence =>
    rw [hsequence]
    rfl

theorem before_kept_record (hassumed : SerdeAndSha State)
    (h : readContents contents = .ok reading) (h' : readContents edited = .ok reading')
    (hcollision : NoCollision State contents edited)
    (hlines' : lines edited = before ++ line :: after) (hkept : line ∈ lines contents)
    (hread : SerdeJson.fromText line = .ok (PersistentJournalRecord.v3 record)) :
    ∃ rest, lines contents = before ++ line :: rest := by
  obtain ⟨before', rest, hlines⟩ := List.append_of_mem hkept
  obtain ⟨s, t, hstep, hprefix⟩ := readContents_at h hlines
  obtain ⟨s', t', hstep', hprefix'⟩ := readContents_at h' hlines'
  have hkey : t.key = t'.key :=
    (key_of_v3 hread hstep).trans (key_of_v3 hread hstep').symm
  have hentries := entries_eq hassumed hcollision
    (by rw [hlines, HashChain.zipIdx_cons_append])
    (by rw [hlines', HashChain.zipIdx_cons_append])
    hprefix hprefix' hkey
  have hbefore := congrArg (List.map Prod.fst) hentries
  simp only [map_append, List.zipIdx_map_fst, map_cons,
    map_nil, List.append_left_inj] at hbefore
  exact ⟨rest, by rw [hlines, hbefore]⟩

theorem foldlM_nextSequence {entries : List (String × Nat)}
    (h : entries.foldlM JournalReading.readLine s = .ok t) :
    t.nextSequence = s.nextSequence + entries.length := by
  induction entries generalizing s with
  | nil =>
    obtain rfl := Except.ok.inj h
    rfl
  | cons entry rest ih =>
    obtain ⟨u, hstep, hrest⟩ := HashChain.foldlM_cons_eq_ok.mp h
    obtain ⟨-, record, -, -, haccepts⟩ :=
      JournalReading.readLine_eq_ok.mp hstep
    rw [ih hrest, haccepts.nextSequence, length_cons]
    omega

theorem lines_eq_of_head (hassumed : SerdeAndSha State)
    (h : readContents contents = .ok reading) (h' : readContents edited = .ok reading')
    (hcollision : NoCollision State contents edited)
    (hsequence : reading'.nextSequence - 1 = reading.nextSequence - 1)
    (hhash : reading'.previousHash = reading.previousHash) :
    lines edited = lines contents := by
  have hnext : reading.nextSequence = 1 + (lines contents).zipIdx.length :=
    foldlM_nextSequence h
  have hnext' : reading'.nextSequence = 1 + (lines edited).zipIdx.length :=
    foldlM_nextSequence h'
  have hkey : reading.key = reading'.key :=
    Prod.ext (by simp only [JournalReading.key]; omega) hhash.symm
  have hentries := entries_eq hassumed hcollision (append_nil _).symm
    (append_nil _).symm h h' hkey
  have hlines := congrArg (List.map Prod.fst) hentries
  rw [List.zipIdx_map_fst, List.zipIdx_map_fst] at hlines
  exact hlines.symm

structure Reopens (journal final : PaperJournalFile State)
    (states : List State) : Prop where
  reopened : final.contents.utf8ByteSize ≤ maxPaperJournalBytes →
    openWith final.contents = .ok final
  latest : final.latest = states.getLast?.or journal.latest
  sequence : final.sequence = journal.sequence + states.length

/-- What an edited file that opens has in common with the original: whatever
stood before a hashed record that was left in it, and everything when its
sequence number and its head hash are the original's. -/
structure Betrays (original : PaperJournalFile State) (edited : String)
    (reopened : PaperJournalFile State) : Prop where
  before : ∀ (before after : List String) (line : String)
    (record : PersistentJournalRecordV3 State),
    lines edited = before ++ line :: after → line ∈ lines original.contents →
      SerdeJson.fromText line = .ok (PersistentJournalRecord.v3 record) →
      ∃ rest, lines original.contents = before ++ line :: rest
  head : reopened.sequence = original.sequence → reopened.headHash = original.headHash →
    lines edited = lines original.contents

/-- Appended snapshots are found again, and an edited file that opens shows
where it was edited. -/
theorem durable_and_tamper_evident (hassumed : SerdeAndSha State)
    {journal : PaperJournalFile State} (hopen : openWith contents = .ok journal)
    (hterminated : Terminated contents) (states : List State) :
    Reopens journal (journal.appendAll states) states ∧
      ∀ edited reopened, openWith edited = .ok reopened →
        NoCollision State (journal.appendAll states).contents edited →
        Betrays (journal.appendAll states) edited reopened := by
  have hholds := (holds_of_openWith hopen hterminated).appendAll
    hassumed.roundTrips hassumed.objects states
  obtain ⟨hlatest, hnext⟩ := appendAll_latest journal states
  refine ⟨⟨hholds.openWith, hlatest, ?_⟩, fun edited reopened hedited
    hcollision => ?_⟩
  · obtain ⟨-, reading, hreading, rfl⟩ := openWith_eq_ok.mp hopen
    have hfirst := foldlM_nextSequence hreading
    have hone : (JournalReading.start : JournalReading State).nextSequence = 1 := rfl
    simp only [sequence] at hnext ⊢
    omega
  · obtain ⟨-, reading', hreading', rfl⟩ := openWith_eq_ok.mp hedited
    obtain ⟨-, reading, hreading, hsequence, hhash, -⟩ := hholds
    constructor
    · intro before after line record hlines hkept hread
      exact before_kept_record hassumed hreading hreading' hcollision hlines
        hkept hread
    · intro hsame hhead
      refine lines_eq_of_head hassumed hreading hreading' hcollision ?_ ?_
      · rw [← hsequence]
        exact hsame
      · rw [← hhash]
        exact hhead

end PaperJournalFile

end

/-! ## A record rewritten -/

namespace JournalRun

def recordJson : PersistentJournalRecord String → Json
  | .v3 record => .obj
      [("schema_version", .num record.schemaVersion), ("sequence", .num record.sequence),
        ("previous_hash", .str record.previousHash),
        ("state", .str record.state),
        ("entry_hash", .str record.entryHash)]
  | .v2 record => .obj
      [("schema_version", .num record.schemaVersion), ("sequence", .num record.sequence),
        ("state", .str record.state)]

def recordOfJson : Json → Option (PersistentJournalRecord String)
  | .obj [("schema_version", .num version), ("sequence", .num sequence),
      ("previous_hash", .str previousHash), ("state", .str state),
      ("entry_hash", .str entryHash)] =>
      some (.v3 ⟨version.toNat, sequence.toNat, previousHash, state, entryHash⟩)
  | .obj [("schema_version", .num version), ("sequence", .num sequence),
      ("state", .str state)] =>
      some (.v2 ⟨version.toNat, sequence.toNat, state⟩)
  | _ => none

instance : SerdeJson (PersistentJournalRecord String) where
  toText record := (recordJson record).print Json.compactChar
  fromText text :=
    match (Json.read text).bind recordOfJson with
    | some record => .ok record
    | none => .error "data did not match any variant"

@[reducible] def recordedDigests : ContentHash where
  hexDigest bytes :=
    if bytes = @canonicalRecord String _
        ⟨3, 1, String.ofList (List.replicate 64 '0'), "flat", ""⟩ then
      "29919691c7f9f48e2b686ed98bb6b723ea6b0f0de04820d066432ad40701900e"
    else
      "512413d16966ed39b180de791b237c781baa3291db7258ea214a16aa9eb2fd12"

attribute [local instance] recordedDigests

theorem recordOfJson_recordJson (record : PersistentJournalRecord String) :
    recordOfJson (recordJson record) = some record := by
  cases record with
  | v3 record => rfl
  | v2 record => rfl

theorem nested_recordJson (record : PersistentJournalRecord String) :
    Json.Nested 127 (recordJson record) := by
  cases record with
  | v3 record =>
    refine .obj fun member hmember => ?_
    simp only [mem_cons, not_mem_nil, or_false] at hmember
    rcases hmember with rfl | rfl | rfl | rfl | rfl
    · exact .num _
    · exact .num _
    · exact .str _
    · exact .str _
    · exact .str _
  | v2 record =>
    refine .obj fun member hmember => ?_
    simp only [mem_cons, not_mem_nil, or_false] at hmember
    rcases hmember with rfl | rfl | rfl
    · exact .num _
    · exact .num _
    · exact .str _

theorem assumed : SerdeAndSha String := by
  refine ⟨fun record => ?_, ⟨fun record => ?_, fun record c hc => ?_⟩,
    fun bytes => ?_⟩
  · simp only [SerdeJson.fromText, SerdeJson.toText]
    rw [Json.read_print Json.spells_compactChar (nested_recordJson record),
      bind_some, recordOfJson_recordJson]
  · cases record with
    | v3 record =>
      simp only [SerdeJson.toText, recordJson, Json.print_obj, toList_append]
      rfl
    | v2 record =>
      simp only [SerdeJson.toText, recordJson, Json.print_obj, toList_append]
      rfl
  · by_contra hlow
    have houtside : Json.isOutside c = true := by
      simp only [Json.isOutside, or_eq_true, decide_eq_true_eq]
      exact .inl (by omega)
    exact Json.not_mem_print houtside
      (Json.not_mem_compactChar (by omega)) _ hc
  · simp only [ContentHash.hexDigest]
    split
    · decide
    · decide

def fresh : PaperJournalFile String :=
  ⟨"", 1, String.ofList (List.replicate 64 '0'), none⟩

theorem fresh_opens : PaperJournalFile.openWith "" = .ok fresh :=
  PaperJournalFile.openWith_eq_ok.mpr ⟨by decide, .start, rfl, rfl⟩

theorem durable_and_tamper_evident_two_snapshots :
    PaperJournalFile.Reopens fresh (fresh.appendAll ["flat", "long"])
        ["flat", "long"] ∧
      ∀ edited reopened, PaperJournalFile.openWith edited = .ok reopened →
        NoCollision String (fresh.appendAll ["flat", "long"]).contents
          edited →
        PaperJournalFile.Betrays (fresh.appendAll ["flat", "long"]) edited
          reopened :=
  PaperJournalFile.durable_and_tamper_evident assumed fresh_opens (.inl rfl) _

theorem fresh_holds : fresh.Holds :=
  PaperJournalFile.holds_of_openWith fresh_opens (.inl rfl)

theorem hashedInputs_fresh (state : String) :
    hashedInputs String (fresh.append state).contents
      = [canonicalRecord (fresh.unsignedRecord state)] :=
  hashedInputs_append fresh_holds assumed.roundTrips assumed.objects state

theorem canonicalRecord_fresh {state state' : String}
    (h : canonicalRecord (fresh.unsignedRecord state)
      = canonicalRecord (fresh.unsignedRecord state')) : state = state' := by
  have hrecord := PersistentJournalRecord.v3.inj
    (assumed.roundTrips.injective (utf8_injective h))
  exact congrArg PersistentJournalRecordV3.state hrecord

theorem digest_flat : ContentHash.hexDigest
      (canonicalRecord (fresh.unsignedRecord "flat"))
    = "29919691c7f9f48e2b686ed98bb6b723ea6b0f0de04820d066432ad40701900e" :=
  if_pos rfl

theorem digest_long : ContentHash.hexDigest
      (canonicalRecord (fresh.unsignedRecord "long"))
    = "512413d16966ed39b180de791b237c781baa3291db7258ea214a16aa9eb2fd12" :=
  if_neg fun h => absurd (canonicalRecord_fresh h) (by decide)

theorem long_size : (fresh.append "long").contents.utf8ByteSize
    ≤ maxPaperJournalBytes := by
  have hhash : paperRecordHash (fresh.unsignedRecord "long") = _ := digest_long
  simp only [PaperJournalFile.append, PaperJournalFile.nextRecord, hhash]
  decide +kernel

/-- The only record of a journal changed and its hash taken anew. -/
theorem rewritten_record_opens : SerdeAndSha String ∧
      PaperJournalFile.openWith "" = .ok fresh ∧
      NoCollision String (fresh.append "flat").contents
        (fresh.append "long").contents ∧
      PaperJournalFile.openWith (fresh.append "long").contents
        = .ok (fresh.append "long") ∧
      ¬lines (fresh.append "long").contents
        <+: lines (fresh.append "flat").contents := by
  have hholds := fresh_holds.append assumed.roundTrips assumed.objects "long"
  refine ⟨assumed, fresh_opens, ?_, hholds.openWith long_size, ?_⟩
  · intro input hinput other hother hsame
    simp only [inputsOf, hashedInputs_fresh, Set.mem_ofPred_eq,
      List.singleton_append, mem_cons, not_mem_nil,
      or_false] at hinput hother
    rcases hinput with rfl | rfl
    · rcases hother with rfl | rfl
      · rfl
      · rw [digest_flat, digest_long] at hsame
        exact absurd hsame (by decide)
    · rcases hother with rfl | rfl
      · rw [digest_flat, digest_long] at hsame
        exact absurd hsame (by decide)
      · rfl
  · intro hprefix
    rw [PaperJournalFile.lines_appended fresh_holds assumed.objects,
      PaperJournalFile.lines_appended fresh_holds assumed.objects] at hprefix
    have hnone : lines fresh.contents = [] := rfl
    rw [hnone, nil_append, nil_append,
      List.cons_prefix_cons] at hprefix
    have hrecord := PersistentJournalRecord.v3.inj
      (assumed.roundTrips.injective hprefix.1)
    have hstate : "long" = "flat" := congrArg PersistentJournalRecordV3.state hrecord
    contradiction

end JournalRun

end Follon.Paper
