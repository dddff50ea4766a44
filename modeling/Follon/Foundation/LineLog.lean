import Follon.Foundation.Digest
import Follon.Foundation.HashChain

/-!
# Logs of lines

A log is kept as one line a record in a file that only grows.  A write that
fails leaves the first of its bytes in the file, and the open log as it was.
What a file holds is what its lines leave when they are read in order.
-/

namespace Follon.Foundation

inductive WriteOutcome where
  | completed
  | failed (written : Nat)
  deriving DecidableEq

/-- One kind of log: `σ` is what a reading has found so far, `μ` what an open
log remembers, `ι` what is appended and `ρ` the record it becomes. -/
structure LineLog (σ μ ι ρ ε : Type) where
  start : σ
  readLine : σ → String × Nat → Except ε σ
  finish : σ → Except ε Unit
  opened : σ → μ
  record : μ → ι → Except ε ρ
  line : ρ → String
  commit : μ → ρ → μ
  limit : Nat
  (tooLarge notText incomplete writeFailed : ε)

structure LogHandle (μ : Type) where
  memory : μ
  contents : List UInt8

namespace LineLog

variable {σ μ ι ρ ε : Type} (log : LineLog σ μ ι ρ ε)

def sourceText (contents : List UInt8) : Option String :=
  String.fromUTF8? ⟨contents.toArray⟩

def readLines (source : String) : Except ε σ := do
  let reading ← (lines source).zipIdx.foldlM log.readLine log.start
  log.finish reading
  pure reading

def readText (source : String) : Except ε σ :=
  if source.isEmpty then .ok log.start
  else if source.toList.getLast? ≠ some '\n' then .error log.incomplete
  else log.readLines source

def verify (contents : List UInt8) : Except ε σ :=
  if log.limit < contents.length then .error log.tooLarge
  else match sourceText contents with
    | some source => log.readText source
    | none => .error log.notText

def openFile (contents : List UInt8) : Except ε (LogHandle μ) :=
  match log.verify contents with
  | .ok reading => .ok ⟨log.opened reading, contents⟩
  | .error e => .error e

def lineBytes (record : ρ) : List UInt8 := (log.line record ++ "\n").toUTF8.toList

def prepare (handle : LogHandle μ) (input : ι) : Except ε ρ :=
  match log.record handle.memory input with
  | .ok record =>
    if log.limit < handle.contents.length + (log.lineBytes record).length then
      .error log.tooLarge
    else .ok record
  | .error e => .error e

def append (handle : LogHandle μ) (input : ι) (outcome : WriteOutcome) :
    Except ε ρ × LogHandle μ :=
  match log.prepare handle input with
  | .error e => (.error e, handle)
  | .ok record =>
    match outcome with
    | .completed =>
      (.ok record, ⟨log.commit handle.memory record,
        handle.contents ++ log.lineBytes record⟩)
    | .failed written =>
      (.error log.writeFailed, ⟨handle.memory,
        handle.contents ++ (log.lineBytes record).take written⟩)

/-! ## Runs -/

def after (handle : LogHandle μ) (call : ι × WriteOutcome) : LogHandle μ :=
  (log.append handle call.1 call.2).2

def run (handle : LogHandle μ) (calls : List (ι × WriteOutcome)) : LogHandle μ :=
  calls.foldl log.after handle

def attempt (handle : LogHandle μ) (call : ι × WriteOutcome) : Option (ρ × Bool) :=
  match log.prepare handle call.1 with
  | .ok record => some (record, (log.append handle call.1 call.2).1.isOk)
  | .error _ => none

def attempts : LogHandle μ → List (ι × WriteOutcome) → List (ρ × Bool)
  | _, [] => []
  | handle, call :: rest =>
    (log.attempt handle call).toList ++ attempts (log.after handle call) rest

def accepted (handle : LogHandle μ) (calls : List (ι × WriteOutcome)) : List ρ :=
  ((log.attempts handle calls).filter (·.2)).map (·.1)

def Silent (handle : LogHandle μ) (call : ι × WriteOutcome) : Prop :=
  ∀ record, log.prepare handle call.1 = .ok record → call.2 = .failed 0

def FailsWhole (handle : LogHandle μ) (call : ι × WriteOutcome)
    (rest : List (ι × WriteOutcome)) : Prop :=
  ∀ record written, log.prepare handle call.1 = .ok record →
    call.2 = .failed written → written = 0 ∨ ((log.lineBytes record).length ≤ written ∧
        ∀ before other later, rest = before ++ other :: later →
          log.Silent (log.run (log.after handle call) before) other)

def WritesWhole (handle : LogHandle μ) (calls : List (ι × WriteOutcome)) : Prop :=
  ∀ before call rest, calls = before ++ call :: rest →
    log.FailsWhole (log.run handle before) call rest

/-! ## What a log must do -/

structure Lawful (records : σ → List ρ) (sound : σ → Prop) : Prop where
  start_records : records log.start = []
  start_sound : sound log.start
  start_finished : log.finish log.start = .ok ()
  reads : ∀ s line t, log.readLine s line = .ok t → sound s →
    line.2 = (records s).length → sound t ∧ ∃ record, records t = records s ++ [record]
  reads_back : ∀ s input record, sound s → log.record (log.opened s) input = .ok record →
      ∃ t, log.readLine s (log.line record, (records s).length) = .ok t ∧
        records t = records s ++ [record] ∧
        log.opened t = log.commit (log.opened s) record
  one_line : ∀ memory input record, log.record memory input = .ok record →
    '\n' ∉ (log.line record).toList ∧ '\r' ∉ (log.line record).toList

def Reads (source : String) (reading : σ) : Prop :=
  Terminated source ∧ (lines source).zipIdx.foldlM log.readLine log.start = .ok reading

def Holds (handle : LogHandle μ) (reading : σ) : Prop :=
  ∃ source, handle.contents = source.toUTF8.toList ∧
    handle.contents.length ≤ log.limit ∧ log.Reads source reading ∧
    handle.memory = log.opened reading

def KeepsFinished (records : σ → List ρ) (handle : LogHandle μ)
    (call : ι × WriteOutcome) : Prop :=
  ∀ s t record, log.Holds handle s → log.finish s = .ok () →
    log.prepare handle call.1 = .ok record →
    records t = records s ++ [record] → log.finish t = .ok ()

variable {log} {records : σ → List ρ} {sound : σ → Prop}

/-! ## Reading -/

theorem sourceText_utf8 (source : String) :
    sourceText source.toUTF8.toList = some source :=
  fromUTF8_utf8 source

variable {contents : List UInt8} {source : String} {reading s : σ} {input : ι}
  {record : ρ} {calls : List (ι × WriteOutcome)}

theorem utf8_of_sourceText (h : sourceText contents = some source) :
    contents = source.toUTF8.toList := by
  rw [sourceText, String.fromUTF8?] at h
  split at h
  · cases h
    rw [toList_eq_data]
    rfl
  · contradiction

theorem terminated_of_getLast (h : source.toList.getLast? = some '\n')
    : Terminated source := by
  obtain ⟨before, hbefore⟩ := List.getLast?_eq_some_iff.mp h
  refine .inr ⟨String.ofList before, ?_⟩
  apply toList_injective
  rw [hbefore, toList_append, toList_ofList]
  rfl

theorem getLast_of_terminated (h : Terminated source) (hne : source ≠ "")
    : source.toList.getLast? = some '\n' := by
  obtain rfl | ⟨before, rfl⟩ := h
  · contradiction
  · rw [toList_append]
    exact List.getLast?_concat

theorem readLines_eq_ok : log.readLines source = .ok reading ↔
      (lines source).zipIdx.foldlM log.readLine log.start = .ok reading ∧
        log.finish reading = .ok () := by
  rw [readLines]
  cases hlines : (lines source).zipIdx.foldlM log.readLine log.start with
  | error e => simp [bind, Except.bind]
  | ok found =>
    cases hfinish : log.finish found with
    | error e =>
      simp only [bind, Except.bind, hfinish, Except.ok.injEq, reduceCtorEq,
        false_iff, not_and]
      rintro rfl
      simp [hfinish]
    | ok u =>
      simp only [bind, Except.bind, hfinish, pure, Except.pure,
        Except.ok.injEq, iff_self_and]
      rintro rfl
      exact hfinish

theorem Lawful.readText_eq_ok (hlaw : log.Lawful records sound) :
    log.readText source = .ok reading ↔
      log.Reads source reading ∧ log.finish reading = .ok () := by
  by_cases hempty : source = ""
  · subst hempty
    have hread : log.readText "" = .ok log.start := by
      rw [readText, if_pos (by decide)]
    rw [hread]
    constructor
    · intro h
      obtain rfl := Except.ok.inj h
      exact ⟨⟨.inl rfl, rfl⟩, hlaw.start_finished⟩
    · intro h
      exact h.1.2
  · rw [readText, if_neg (by simpa using hempty)]
    constructor
    · intro h
      split at h
      · contradiction
      · rename_i hlast
        obtain ⟨hlines, hfinish⟩ := readLines_eq_ok.mp h
        exact ⟨⟨terminated_of_getLast (not_not.mp hlast), hlines⟩, hfinish⟩
    · intro h
      obtain ⟨⟨hterminated, hlines⟩, hfinish⟩ := h
      rw [if_neg (not_not.mpr (getLast_of_terminated hterminated hempty))]
      exact readLines_eq_ok.mpr ⟨hlines, hfinish⟩

theorem Lawful.verify_eq_ok (hlaw : log.Lawful records sound) :
    log.verify contents = .ok reading ↔ contents.length ≤ log.limit ∧
        ∃ source : String, contents = source.toUTF8.toList ∧
          log.Reads source reading ∧ log.finish reading = .ok () := by
  constructor
  · intro h
    rw [verify] at h
    split at h
    · contradiction
    · rename_i hlimit
      cases hsource : sourceText contents with
      | none =>
        rw [hsource] at h
        contradiction
      | some source =>
        rw [hsource] at h
        exact ⟨Nat.not_lt.mp hlimit, source, utf8_of_sourceText hsource,
          hlaw.readText_eq_ok.mp h⟩
  · intro h
    obtain ⟨hlimit, source, rfl, hreads⟩ := h
    rw [verify, if_neg (Nat.not_lt.mpr hlimit), sourceText_utf8]
    exact hlaw.readText_eq_ok.mpr hreads

theorem Lawful.holds_of_openFile (hlaw : log.Lawful records sound)
    {handle : LogHandle μ} (h : log.openFile contents = .ok handle) :
    handle.contents = contents ∧ ∃ reading, log.Holds handle reading ∧
      log.verify contents = .ok reading := by
  cases hverify : log.verify contents with
  | error e =>
    rw [openFile, hverify] at h
    contradiction
  | ok reading =>
    rw [openFile, hverify] at h
    obtain rfl := Except.ok.inj h
    obtain ⟨hlimit, source, hsource, hreads, _⟩ :=
      hlaw.verify_eq_ok.mp hverify
    exact ⟨rfl, reading, ⟨source, hsource, hlimit, hreads, rfl⟩, rfl⟩

theorem Lawful.verify_of_holds (hlaw : log.Lawful records sound)
    {handle : LogHandle μ} (h : log.Holds handle reading)
    (hfinish : log.finish reading = .ok ()) :
    log.verify handle.contents = .ok reading := by
  obtain ⟨source, hsource, hlimit, hreads, _⟩ := h
  exact hlaw.verify_eq_ok.mpr ⟨hlimit, source, hsource, hreads, hfinish⟩

theorem Lawful.openFile_of_holds (hlaw : log.Lawful records sound)
    {handle : LogHandle μ} (h : log.Holds handle reading)
    (hfinish : log.finish reading = .ok ()) :
    log.openFile handle.contents = .ok handle := by
  have hverify := hlaw.verify_of_holds h hfinish
  obtain ⟨_, _, _, _, hmemory⟩ := h
  rw [openFile, hverify]
  simp only [← hmemory]

theorem holds_new (log : LineLog σ μ ι ρ ε) :
    log.Holds ⟨log.opened log.start, []⟩ log.start := by
  refine ⟨"", ?_, Nat.zero_le _, ⟨.inl rfl, rfl⟩, rfl⟩
  rw [toList_eq_data]
  rfl

theorem Lawful.lines_sound (hlaw : log.Lawful records sound)
    {texts : List String} {t : σ} (hsound : sound s)
    (h : (texts.zipIdx (records s).length).foldlM log.readLine s = .ok t) :
    sound t ∧ (records t).length = (records s).length + texts.length := by
  induction texts generalizing s with
  | nil =>
    obtain rfl := Except.ok.inj h
    exact ⟨hsound, rfl⟩
  | cons line rest ih =>
    rw [List.zipIdx_cons] at h
    obtain ⟨next, hnext, hrest⟩ := HashChain.foldlM_cons_eq_ok.mp h
    obtain ⟨hsound', record, hrecord⟩ :=
      hlaw.reads s _ next hnext hsound rfl
    have hlength : (records next).length = (records s).length + 1 := by
      rw [hrecord, length_append, List.length_singleton]
    rw [← hlength] at hrest
    obtain ⟨hsound'', hcount⟩ := ih hsound' hrest
    refine ⟨hsound'', ?_⟩
    rw [hcount, hlength, length_cons]
    omega

theorem Lawful.reads_sound (hlaw : log.Lawful records sound)
    (h : log.Reads source reading) :
    sound reading ∧ (records reading).length = (lines source).length := by
  have hlines := h.2
  have hstart : (records log.start).length = 0 := by
    rw [hlaw.start_records, List.length_nil]
  rw [← hstart] at hlines
  obtain ⟨hsound, hlength⟩ := hlaw.lines_sound hlaw.start_sound hlines
  exact ⟨hsound, by omega⟩

/-! ## Appending -/

theorem Lawful.reads_append (hlaw : log.Lawful records sound) (h : log.Reads source s)
    (hrecord : log.record (log.opened s) input = .ok record) :
    ∃ t, log.Reads (source ++ log.line record ++ "\n") t ∧
      records t = records s ++ [record] ∧
      log.opened t = log.commit (log.opened s) record := by
  obtain ⟨hsound, hlength⟩ := hlaw.reads_sound h
  obtain ⟨hfeed, hreturn⟩ := hlaw.one_line _ _ _ hrecord
  obtain ⟨t, ht, hrecords, hopened⟩ :=
    hlaw.reads_back s input record hsound hrecord
  refine ⟨t, ⟨.inr ⟨_, rfl⟩, ?_⟩, hrecords, hopened⟩
  rw [lines_append h.1 hfeed hreturn, List.zipIdx_append]
  refine HashChain.foldlM_concat.mpr ⟨s, h.2, ?_⟩
  rw [Nat.zero_add, ← hlength]
  exact ht

theorem prepare_eq_ok {handle : LogHandle μ} : log.prepare handle input = .ok record ↔
      log.record handle.memory input = .ok record ∧
        handle.contents.length + (log.lineBytes record).length ≤ log.limit := by
  rw [prepare]
  cases hrecord : log.record handle.memory input with
  | error e => simp
  | ok found =>
    simp only [Except.ok.injEq]
    split
    · simp
      grind
    · simp
      grind

theorem Lawful.holds_written (hlaw : log.Lawful records sound)
    {handle : LogHandle μ} (h : log.Holds handle s)
    (hprepare : log.prepare handle input = .ok record) :
    ∃ t, log.Holds ⟨log.commit handle.memory record,
        handle.contents ++ log.lineBytes record⟩ t ∧
      records t = records s ++ [record] := by
  obtain ⟨source, hsource, hlimit, hreads, hmemory⟩ := h
  obtain ⟨hrecord, hsize⟩ := prepare_eq_ok.mp hprepare
  rw [hmemory] at hrecord
  obtain ⟨t, ht, hrecords, hopened⟩ := hlaw.reads_append hreads hrecord
  refine ⟨t, ⟨source ++ log.line record ++ "\n", ?_, ?_, ht, ?_⟩, hrecords⟩
  · rw [hsource, lineBytes, String.append_assoc, utf8_append source]
  · rw [length_append]
    exact hsize
  · rw [hmemory, hopened]

/-! ## Runs -/

variable {handle : LogHandle μ} {call : ι × WriteOutcome}

theorem after_refused {e : ε} (h : log.prepare handle call.1 = .error e) :
    log.after handle call = handle ∧ log.attempt handle call = none := by
  simp only [after, append, attempt, h, and_self]

theorem after_completed {record : ρ} (h : log.prepare handle call.1 = .ok record)
    (hcompleted : call.2 = .completed) :
    log.after handle call = ⟨log.commit handle.memory record,
        handle.contents ++ log.lineBytes record⟩ ∧
      log.attempt handle call = some (record, true) := by
  simp only [after, append, attempt, h, hcompleted, true_and]
  rfl

theorem after_failed {record : ρ} {written : Nat}
    (h : log.prepare handle call.1 = .ok record)
    (hfailed : call.2 = .failed written) : log.after handle call = ⟨handle.memory,
        handle.contents ++ (log.lineBytes record).take written⟩ ∧
      log.attempt handle call = some (record, false) := by
  simp only [after, append, attempt, h, hfailed, true_and]
  rfl

theorem lineBytes_length (log : LineLog σ μ ι ρ ε) (record : ρ) :
    1 ≤ (log.lineBytes record).length := by
  rw [lineBytes, utf8_append, length_append]
  have hfeed : ("\n" : String).toUTF8.toList.length = 1 := by
    rw [toList_eq_data]
    rfl
  omega

theorem accepted_room (log : LineLog σ μ ι ρ ε)
    (calls : List (ι × WriteOutcome)) (handle : LogHandle μ) :
    handle.contents.length + (log.accepted handle calls).length ≤
      (log.run handle calls).contents.length := by
  induction calls generalizing handle with
  | nil => simp [accepted, attempts, run]
  | cons call rest ih =>
    have hrest := ih (log.after handle call)
    simp only [accepted, attempts, run, List.foldl_cons, filter_append,
      map_append, length_append] at hrest ⊢
    cases hprepare : log.prepare handle call.1 with
    | error e =>
      obtain ⟨hafter, hattempt⟩ := after_refused hprepare
      rw [hafter] at hrest ⊢
      rw [hattempt]
      simpa using hrest
    | ok record =>
      cases houtcome : call.2 with
      | completed =>
        obtain ⟨hafter, hattempt⟩ := after_completed hprepare houtcome
        have hline := lineBytes_length log record
        rw [hafter] at hrest ⊢
        rw [hattempt]
        simp only [length_append, Option.toList_some,
          List.filter_cons_of_pos, List.filter_nil, map_cons,
          map_nil, length_cons, List.length_nil] at hrest ⊢
        omega
      | failed written =>
        obtain ⟨hafter, hattempt⟩ := after_failed hprepare houtcome
        rw [hafter] at hrest ⊢
        rw [hattempt]
        simp only [length_append] at hrest ⊢
        simp
        simp at hrest
        omega

theorem accepted_cons (handle : LogHandle μ) (call : ι × WriteOutcome)
    (rest : List (ι × WriteOutcome)) : log.accepted handle (call :: rest) =
      ((log.attempt handle call).toList.filter (·.2)).map (·.1) ++
        log.accepted (log.after handle call) rest := by
  simp only [accepted, attempts, filter_append, map_append]

theorem mem_attempts {handle : LogHandle μ} {attempt : ρ × Bool}
    (h : attempt ∈ log.attempts handle calls) :
    ∃ memory input, log.record memory input = .ok attempt.1 := by
  induction calls generalizing handle with
  | nil => simp [attempts] at h
  | cons call rest ih =>
    rw [attempts] at h
    obtain h | h := mem_append.mp h
    · cases hprepare : log.prepare handle call.1 with
      | error e =>
        rw [(after_refused hprepare).2] at h
        contradiction
      | ok record =>
        simp only [LineLog.attempt, hprepare, Option.toList_some,
          mem_singleton] at h
        rw [h]
        exact ⟨handle.memory, call.1, (prepare_eq_ok.mp hprepare).1⟩
    · exact ih h

theorem forall_calls_cons {α : Type} {P : List α → α → Prop} {call : α}
    {rest : List α} : (∀ before other later, call :: rest = before ++ other :: later →
      P before other) ↔
      P [] call ∧ ∀ before other later, rest = before ++ other :: later →
        P (call :: before) other := by
  constructor
  · intro h
    refine ⟨h [] call rest rfl, ?_⟩
    intro before other later hcalls
    exact h (call :: before) other later (by rw [hcalls, cons_append])
  · rintro ⟨hcall, hrest⟩ before other later hcalls
    cases before with
    | nil =>
      obtain ⟨rfl, _⟩ := List.cons.inj hcalls
      exact hcall
    | cons first before =>
      obtain ⟨rfl, hsplit⟩ := List.cons.inj hcalls
      exact hrest before other later hsplit

theorem Lawful.run_completed (hlaw : log.Lawful records sound)
    {handle : LogHandle μ} (h : log.Holds handle s)
    (hcompleted : ∀ call ∈ calls, call.2 = .completed) :
    ∃ t, log.Holds (log.run handle calls) t ∧
      records t = records s ++ log.accepted handle calls := by
  induction calls generalizing handle s with
  | nil => exact ⟨s, h, (append_nil _).symm⟩
  | cons call rest ih =>
    obtain ⟨hcall, hrest⟩ := forall_mem_cons.mp hcompleted
    rw [accepted_cons]
    change ∃ t, log.Holds (log.run (log.after handle call) rest) t ∧ _
    cases hprepare : log.prepare handle call.1 with
    | error e =>
      obtain ⟨hafter, hattempt⟩ := after_refused hprepare
      rw [hafter, hattempt]
      exact ih h hrest
    | ok record =>
      obtain ⟨hafter, hattempt⟩ := after_completed hprepare hcall
      obtain ⟨next, hnext, hrecord⟩ := hlaw.holds_written h hprepare
      rw [← hafter] at hnext
      obtain ⟨t, ht, hrecords⟩ := ih hnext hrest
      refine ⟨t, ht, ?_⟩
      rw [hrecords, hrecord, hattempt, append_assoc]
      rfl

theorem WritesWhole.rest {rest : List (ι × WriteOutcome)}
    (h : log.WritesWhole handle (call :: rest)) :
    log.WritesWhole (log.after handle call) rest := by
  intro before other later hcalls
  apply h (call :: before) other later
  rw [hcalls, cons_append]

theorem after_silent (h : log.Silent handle call) : log.after handle call = handle := by
  cases hprepare : log.prepare handle call.1 with
  | error e => exact (after_refused hprepare).1
  | ok record =>
    rw [(after_failed hprepare (h record hprepare)).1, List.take_zero, append_nil]

theorem run_silent (h : ∀ before call later, calls = before ++ call :: later →
      log.Silent (log.run handle before) call) : log.run handle calls = handle := by
  induction calls with
  | nil => rfl
  | cons call rest ih =>
    have hafter : log.after handle call = handle := after_silent (h [] call rest rfl)
    change log.run (log.after handle call) rest = handle
    rw [hafter]
    apply ih
    intro before other later hcalls
    have hother := h (call :: before) other later
      (by rw [hcalls, cons_append])
    change log.Silent (log.run (log.after handle call) before) other
      at hother
    rwa [hafter] at hother

def Recovers (log : LineLog σ μ ι ρ ε) (records : σ → List ρ) (s : σ)
    (handle : LogHandle μ) (calls : List (ι × WriteOutcome)) (t : σ) : Prop :=
  ∃ kept : List (ρ × Bool), records t = records s ++ kept.map (·.1) ∧
    kept.Sublist (log.attempts handle calls) ∧
    kept.filter (·.2) = (log.attempts handle calls).filter (·.2)

theorem Recovers.cons {s next t : σ} {attempt : List (ρ × Bool)}
    {rest : List (ι × WriteOutcome)}
    (h : Recovers log records next (log.after handle call) rest t)
    (kept : List (ρ × Bool)) (hattempt : (log.attempt handle call).toList = attempt)
    (hkept : kept.Sublist attempt) (hreported : kept.filter (·.2) = attempt.filter (·.2))
    (hrecords : records next = records s ++ kept.map (·.1)) :
    Recovers log records s handle (call :: rest) t := by
  obtain ⟨more, hmore, hsublist, hfilter⟩ := h
  refine ⟨kept ++ more, ?_, ?_, ?_⟩
  · rw [hmore, hrecords, map_append, append_assoc]
  · rw [attempts, hattempt]
    exact hkept.append hsublist
  · rw [attempts, hattempt, filter_append, filter_append, hreported, hfilter]

theorem Lawful.run_recovers (hlaw : log.Lawful records sound)
    {handle : LogHandle μ} (h : log.Holds handle s)
    (hfinish : log.finish s = .ok ()) (hwhole : log.WritesWhole handle calls)
    (hkeeps : ∀ before call rest, calls = before ++ call :: rest →
      call.2 ≠ .failed 0 → log.KeepsFinished records (log.run handle before) call) :
    ∃ memory t, log.Holds ⟨memory, (log.run handle calls).contents⟩ t ∧
      log.finish t = .ok () ∧ Recovers log records s handle calls t := by
  induction calls generalizing handle s with
  | nil =>
    exact ⟨handle.memory, s, h, hfinish, [], (append_nil _).symm, .slnil, rfl⟩
  | cons call rest ih =>
    have hrest := hwhole.rest
    have hlater : ∀ before other later, rest = before ++ other :: later →
        other.2 ≠ .failed 0 → log.KeepsFinished records
          (log.run (log.after handle call) before) other := by
      intro before other later hcalls
      apply hkeeps (call :: before) other later
      rw [hcalls, cons_append]
    change ∃ memory t, log.Holds
      ⟨memory, (log.run (log.after handle call) rest).contents⟩ t ∧ _
    cases hprepare : log.prepare handle call.1 with
    | error e =>
      obtain ⟨hafter, hattempt⟩ := after_refused hprepare
      rw [hafter] at hrest hlater
      obtain ⟨memory, t, ht, hfinish', hrecovers⟩ := ih h hfinish hrest hlater
      rw [hafter]
      rw [← hafter] at hrecovers
      exact ⟨memory, t, ht, hfinish', hrecovers.cons []
        (by rw [hattempt]; rfl) (.refl _) rfl (append_nil _).symm⟩
    | ok record =>
      obtain ⟨next, hnext, hrecord⟩ := hlaw.holds_written h hprepare
      have hnext_finish (hwrites : call.2 ≠ .failed 0) :
          log.finish next = .ok () :=
        hkeeps [] call rest rfl hwrites s next record h hfinish hprepare
          hrecord
      cases houtcome : call.2 with
      | completed =>
        obtain ⟨hafter, hattempt⟩ := after_completed hprepare houtcome
        rw [← hafter] at hnext
        obtain ⟨memory, t, ht, hfinish', hrecovers⟩ :=
          ih hnext (hnext_finish (by simp [houtcome])) hrest hlater
        exact ⟨memory, t, ht, hfinish', hrecovers.cons [(record, true)]
          (by rw [hattempt]; rfl) (.refl _) rfl hrecord⟩
      | failed written =>
        obtain ⟨hafter, hattempt⟩ := after_failed hprepare houtcome
        have hone : (log.attempt handle call).toList
            = [(record, false)] := by
          rw [hattempt]
          rfl
        obtain rfl | ⟨hlength, hsilent⟩ :=
          hwhole [] call rest rfl record written hprepare houtcome
        · have hhandle : log.after handle call = handle := by
            rw [hafter, List.take_zero, append_nil]
          rw [hhandle] at hrest hlater
          obtain ⟨memory, t, ht, hfinish', hrecovers⟩ :=
            ih h hfinish hrest hlater
          rw [hhandle]
          rw [← hhandle] at hrecovers
          exact ⟨memory, t, ht, hfinish', hrecovers.cons [] hone
            (List.nil_sublist _) rfl (append_nil _).symm⟩
        · have hwrites : call.2 ≠ .failed 0 := by
            have hline := lineBytes_length log record
            rw [houtcome]
            simp only [ne_eq, WriteOutcome.failed.injEq]
            omega
          have hrun : log.run (log.after handle call) rest
              = log.after handle call := run_silent hsilent
          have hnone : log.accepted (log.after handle call) rest
              = [] := by
            have hroom := accepted_room log rest (log.after handle call)
            rw [hrun] at hroom
            apply List.eq_nil_of_length_eq_zero
            omega
          refine ⟨log.commit handle.memory record, next, ?_,
            hnext_finish hwrites, [(record, false)], hrecord, ?_, ?_⟩
          · rw [hrun, hafter, List.take_of_length_le hlength]
            exact hnext
          · rw [attempts, hone]
            exact List.singleton_sublist.mpr mem_cons_self
          · rw [attempts, hone, filter_append]
            simpa [accepted] using hnone

def ReopensAfter (log : LineLog σ μ ι ρ ε) (records : σ → List ρ)
    (contents : List UInt8) (handle : LogHandle μ)
    (calls : List (ι × WriteOutcome)) : Prop :=
  ∃ before found reopened, log.verify contents = .ok before ∧
    log.verify (log.run handle calls).contents = .ok found ∧
    log.openFile (log.run handle calls).contents = .ok reopened ∧
    Recovers log records before handle calls found

theorem Lawful.reopensAfter (hlaw : log.Lawful records sound)
    (hopen : log.openFile contents = .ok handle) (hwhole : log.WritesWhole handle calls)
    (hkeeps : ∀ before call rest, calls = before ++ call :: rest →
      call.2 ≠ .failed 0 → log.KeepsFinished records (log.run handle before) call) :
    log.ReopensAfter records contents handle calls := by
  obtain ⟨rfl, before, hholds, hverify⟩ := hlaw.holds_of_openFile hopen
  obtain ⟨_, _, _, _, hfinish⟩ := hlaw.verify_eq_ok.mp hverify
  obtain ⟨memory, found, hfound, hfinished, hrecovers⟩ :=
    hlaw.run_recovers hholds hfinish hwhole hkeeps
  have hsource := hlaw.verify_of_holds hfound hfinished
  have hopened := hlaw.openFile_of_holds hfound hfinished
  exact ⟨before, found, _, hverify, hsource, hopened, hrecovers⟩

theorem openFile_torn {written rest : String} (hempty : handle.contents = [])
    (hprepare : log.prepare handle input = .ok record)
    (hline : log.line record = written ++ rest) (hwritten : written ≠ "")
    (hlast : written.toList.getLast? ≠ some '\n')
    (hlimit : written.utf8ByteSize ≤ log.limit) : log.openFile (log.run handle
      [(input, .failed written.utf8ByteSize)]).contents
      = .error log.incomplete := by
  have hafter := (@after_failed _ _ _ _ _ log handle
    (input, .failed written.utf8ByteSize) _ _ hprepare rfl).1
  have hbytes : log.lineBytes record
      = written.toUTF8.toList ++ (rest ++ "\n").toUTF8.toList := by
    rw [lineBytes, hline, String.append_assoc, utf8_append]
  have hcontents : (log.run handle [(input, .failed written.utf8ByteSize)]).contents
      = written.toUTF8.toList := by
    change (log.after handle _).contents = _
    rw [hafter, hempty, nil_append, hbytes]
    exact List.take_left' (length_utf8 written)
  have htext : log.readText written = .error log.incomplete := by
    rw [readText, if_neg (by simpa using hwritten), if_pos hlast]
  rw [hcontents, openFile, verify, if_neg, sourceText_utf8]
  · simp only [htext]
  · rw [length_utf8]
    omega

end LineLog

end Follon.Foundation
