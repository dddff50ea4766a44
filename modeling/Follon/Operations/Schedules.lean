import Follon.Operations.Snapshot

/-!
# Schedule status and missed days

The next due instant of a daily schedule against the daily instant that its
last completion completed.  A missed day is due again only while the
schedule's own instant of the snapshot's day has come.
-/

namespace Follon.Operations

open Foundation Domain

/-! ## Daily instants -/

def dailyInstants (time : Nat × Nat) : Set Int :=
  Set.range fun date => instantOn date time

def Completed (time : Nat × Nat) (completed done : Int) : Prop :=
  IsGreatest {i ∈ dailyInstants time | i ≤ completed} done

def IsTimeOfDay (time : Nat × Nat) : Prop := time.1 ≤ 23 ∧ time.2 ≤ 59

variable {time : Nat × Nat}

theorem instantOn_bounds (h : IsTimeOfDay time) (date : Int) :
    date * dayLength ≤ instantOn date time ∧
      instantOn date time < (date + 1) * dayLength := by
  obtain ⟨hhour, hminute⟩ := h
  unfold instantOn dayLength
  constructor <;> omega

theorem dateOf_instantOn (h : IsTimeOfDay time) (date : Int) :
    dateOf (instantOn date time) = date := by
  have hbounds := instantOn_bounds h date
  unfold dateOf dayLength at *
  omega

variable {date instant asOf : Int} {value : String}

theorem instantOn_lt_instantOn {date' : Int} :
    instantOn date time < instantOn date' time ↔ date < date' := by
  unfold instantOn dayLength
  omega

theorem instantOn_le_instantOn {date' : Int} :
    instantOn date time ≤ instantOn date' time ↔ date ≤ date' := by
  unfold instantOn dayLength
  omega

theorem instantOn_mem (date : Int) : instantOn date time ∈ dailyInstants time :=
  ⟨date, rfl⟩

theorem lt_instantOn_of_dateOf_lt (h : dateOf instant < date)
    : instant < instantOn date time := by
  unfold dateOf at h
  unfold instantOn
  unfold dayLength at *
  omega

theorem dateOf_le_dateOf {instant' : Int} (h : instant ≤ instant') :
    dateOf instant ≤ dateOf instant' := by
  unfold dateOf dayLength
  omega

theorem completed_iff {completed done : Int}
    (h : instantOn (dateOf completed) time ≤ completed) : Completed time completed done ↔
      done = instantOn (dateOf completed) time := by
  have hgreatest : Completed time completed
      (instantOn (dateOf completed) time) := by
    refine ⟨⟨instantOn_mem _, h⟩, ?_⟩
    rintro _ ⟨⟨date, rfl⟩, hle⟩
    refine instantOn_le_instantOn.mpr (not_lt.mp ?_)
    intro hlt
    exact absurd hle (not_le.mpr (lt_instantOn_of_dateOf_lt hlt))
  constructor
  · exact fun hdone => hdone.unique hgreatest
  · rintro rfl
    exact hgreatest

/-! ## Times read from a snapshot -/

theorem parseUtcTime_eq_ok : parseUtcTime value = .ok instant ↔
      isUtcTimestamp value = true ∧ parseUtc value = some instant := by
  unfold parseUtcTime
  simp only [bind_eq_ok, validateUtcTimestamp_eq_ok, exists_const]
  refine and_congr_right fun _ => ?_
  cases parseUtc value with
  | none => exact ⟨fun h => by contradiction, fun h => by contradiction⟩
  | some instant' =>
    constructor
    · exact fun h => congrArg some (Except.ok.inj h)
    · exact fun h => congrArg Except.ok (Option.some.inj h)

theorem daysBefore_lastDate : lastDate + 1 = (daysBefore 10000 1 : Nat) := by
  decide +kernel

theorem dateOf_instant {time : CivilTime} (h : time.IsDate) :
    dateOf time.instant = time.days := by
  obtain ⟨-, -, hhour, hminute, hsecond⟩ := h
  unfold dateOf dayLength CivilTime.instant CivilTime.secondsOf
  split <;> omega

theorem dateOf_parseUtc (h : parseUtc value = some instant) :
    0 ≤ dateOf instant ∧ dateOf instant ≤ lastDate := by
  obtain ⟨hshape, hdate, rfl⟩ := CivilTime.instant_of_parseUtc h
  have hyear : (CivilTime.ofChars value.toList).year < 10000 := by
    have hfield := (CivilTime.shaped_of_hasCanonicalShape hshape).year
    have hlimit := CivilTime.digitsValue_lt_pow hfield.2
    rwa [hfield.1] at hlimit
  have hfirst : CivilTime.IsDate ⟨10000, 1, 1, 0, 0, 0⟩ :=
    ⟨by decide, by decide, by decide, by decide, by decide⟩
  have hdays := CivilTime.days_lt hdate hfirst (.inl hyear)
  have hlast := daysBefore_lastDate
  rw [dateOf_instant hdate]
  change _ < daysBefore 10000 1 + 1 - 1 at hdays
  omega

theorem formatUtcTime_ok {instant : Int} (hfirst : 0 ≤ dateOf instant)
    (hlast : dateOf instant ≤ lastDate) (hwhole : 1000000000 ∣ instant) :
    ∃ text, formatUtcTime instant = .ok text ∧
      parseUtc text = some instant := by
  have hnext := daysBefore_lastDate
  have hdays : (instant / 1000000000).toNat / 86400 < daysBefore 10000 1 := by
    unfold dateOf dayLength at *
    omega
  have hyear : civilYear ((instant / 1000000000).toNat / 86400) < 10000 := by
    by_contra hlimit
    have hle := daysBefore_civilYear_le ((instant / 1000000000).toNat / 86400)
    have hmono := CivilTime.daysBefore_year_mono (not_lt.mp hlimit)
    omega
  refine ⟨formatUtc (instant / 1000000000).toNat, ?_, ?_⟩
  · simp only [formatUtcTime, bind_eq_ok, refuseIf_eq_ok, not_or, not_lt, not_le]
    refine ⟨(), ⟨?_, hyear⟩, rfl⟩
    unfold dateOf dayLength at hfirst
    omega
  · rw [parseUtc_formatUtc hyear]
    apply congrArg some
    unfold dateOf dayLength at hfirst
    omega

theorem isTimeOfDay_of_parseScheduleTime
    (h : parseScheduleTime value = .ok time) : IsTimeOfDay time := by
  simp only [parseScheduleTime, bind_eq_ok, refuseIf_eq_ok] at h
  obtain ⟨-, -, h⟩ := h
  cases hhour : parseByte (value.toUTF8.toList.take 2) with
  | none =>
    rw [hhour] at h
    contradiction
  | some hour =>
    cases hminute : parseByte (value.toUTF8.toList.drop 3) with
    | none =>
      rw [hhour, hminute] at h
      contradiction
    | some minute =>
      rw [hhour, hminute] at h
      simp only [bind_eq_ok, refuseIf_eq_ok, not_or, not_lt] at h
      obtain ⟨-, ⟨hhour, hminute, -⟩, h⟩ := h
      obtain rfl := Except.ok.inj h
      exact ⟨hhour, hminute⟩

/-! ## What a validated snapshot gives -/

/-- A time of day is declared, and a completion is of a day whose instant had
come. -/
structure DailySchedule.Valid (schedule : DailySchedule) : Prop where
  scheduleId : isCanonicalId schedule.scheduleId = true
  purpose : ¬(isBlank schedule.purpose = true ∨ 256 < schedule.purpose.utf8ByteSize ∨
    holdsLineBreak schedule.purpose = true)
  time : ∃ time, parseScheduleTime schedule.timeUtc = .ok time
  completed : ∀ value ∈ schedule.lastCompletedAt,
    validateScheduleCompletionTime schedule value = .ok ()

theorem validateScheduleCompletionTime_eq_ok {schedule : DailySchedule}
    (htime : parseScheduleTime schedule.timeUtc = .ok time) :
    validateScheduleCompletionTime schedule value = .ok () ↔
      ∃ completed, parseUtcTime value = .ok completed ∧
        instantOn (dateOf completed) time ≤ completed := by
  simp only [validateScheduleCompletionTime, scheduledInstantFor, htime,
    bind_eq_ok, refuseIf_eq_ok]
  constructor
  · rintro ⟨completed, hparse, scheduledFor, ⟨_, h, hscheduled⟩, hle⟩
    obtain rfl := Except.ok.inj h
    obtain rfl := Except.ok.inj hscheduled
    exact ⟨completed, hparse, not_lt.mp hle⟩
  · rintro ⟨completed, hparse, hle⟩
    exact ⟨completed, hparse, _, ⟨_, rfl, rfl⟩, not_lt.mpr hle⟩

namespace OperationsSnapshot

theorem exists_foldlM_checkSchedule {asOf : String} {schedules : List DailySchedule} :
    (∃ ids, schedules.foldlM (checkSchedule asOf) ∅ = .ok ids) ↔
      (∀ schedule ∈ schedules, schedule.Valid ∧
        ∀ value ∈ schedule.lastCompletedAt, ¬asOf < value) ∧
        (schedules.map DailySchedule.scheduleId).Nodup := by
  rw [@KeyedRows.exists_foldlM_distinct _ _ DailySchedule.scheduleId _ _ _ _
    (fun schedule => schedule.Valid ∧
      ∀ value ∈ schedule.lastCompletedAt, ¬asOf < value)]
  · simp only [Std.ExtTreeSet.not_mem_empty, not_false_eq_true, and_true]
  · intro seen schedule seen'
    simp only [checkSchedule, bind_eq_ok, validateCanonicalId_eq_ok,
      refuseIf_eq_ok, exists_const, pure_eq_ok,
      checkAll_eq_ok, Option.mem_toList, exists_and_right, exists_unit_eq_ok]
    constructor
    · rintro ⟨hid, hpurpose, htime, hcompleted, rfl⟩
      obtain ⟨hnew, hpurpose⟩ := not_or.mp hpurpose
      exact ⟨⟨⟨⟨hid, hpurpose, htime, fun value h => (hcompleted value h).1⟩,
        fun value h => (hcompleted value h).2⟩, hnew⟩, rfl⟩
    · rintro ⟨⟨⟨hvalid, hbefore⟩, hnew⟩, rfl⟩
      exact ⟨hvalid.scheduleId, not_or.mpr ⟨hnew, hvalid.purpose⟩, hvalid.time,
        fun value h => ⟨hvalid.completed value h, hbefore value h⟩, rfl⟩

theorem valid_of_validate [ContentHash] {snapshot : OperationsSnapshot}
    (h : snapshot.validate = .ok ()) : isUtcTimestamp snapshot.asOf = true ∧
      ∀ schedule ∈ snapshot.schedules, schedule.Valid ∧
        ∀ value ∈ schedule.lastCompletedAt, ¬snapshot.asOf < value := by
  simp only [validate, bind_eq_ok] at h
  obtain ⟨_, hasOf, _, -, _, -, _, -, _, -, _, -, _, -, _, -, _, -, _, -, _, -,
    _, -, _, -, _, -, _, -, ids, hschedules, -⟩ := h
  exact ⟨validateUtcTimestamp_eq_ok.mp hasOf,
    (exists_foldlM_checkSchedule.mp ⟨ids, hschedules⟩).1⟩

end OperationsSnapshot

/-! ## The next instant -/

def DailySchedule.Completes (schedule : DailySchedule) (time : Nat × Nat)
    (done : Int) : Prop :=
  ∃ value ∈ schedule.lastCompletedAt, ∃ completed,
    parseUtc value = some completed ∧ Completed time completed done

structure IsNext (asOf : Int) (schedule : DailySchedule) (time : Nat × Nat)
    (next : Int) : Prop where
  isLeast : IsLeast {i ∈ dailyInstants time | dateOf asOf ≤ dateOf i ∧
    ∀ done, schedule.Completes time done → done < i} next
  earliest : ∀ done, schedule.Completes time done →
    (IsLeast {i ∈ dailyInstants time | done < i} next ↔
      dateOf asOf ≤ dateOf done + 1)

theorem completes_iff {schedule : DailySchedule} {completed done : Int}
    (hlast : schedule.lastCompletedAt = some value)
    (hparse : parseUtc value = some completed)
    (hcame : instantOn (dateOf completed) time ≤ completed) :
    schedule.Completes time done ↔
      done = instantOn (dateOf completed) time := by
  rw [← completed_iff hcame]
  constructor
  · rintro ⟨value', hvalue', completed', hparse', hdone⟩
    rw [hlast] at hvalue'
    obtain rfl := Option.some.inj hvalue'
    rw [hparse] at hparse'
    obtain rfl := Option.some.inj hparse'
    exact hdone
  · exact fun hdone => ⟨value, hlast, completed, hparse, hdone⟩

theorem isLeast_instantOn {p : Int → Prop}
    (hdate : ∀ date', p (instantOn date' time) ↔ date ≤ date') :
    IsLeast {i ∈ dailyInstants time | p i} (instantOn date time) := by
  refine ⟨⟨instantOn_mem date, (hdate date).mpr (le_refl date)⟩, ?_⟩
  rintro _ ⟨⟨date', rfl⟩, hp⟩
  exact instantOn_le_instantOn.mpr ((hdate date').mp hp)

theorem isNext_of_fresh (h : IsTimeOfDay time) {schedule : DailySchedule}
    (hfresh : ∀ done, ¬schedule.Completes time done) :
    IsNext asOf schedule time (instantOn (dateOf asOf) time) where
  isLeast := by
    apply isLeast_instantOn
    intro date'
    rw [dateOf_instantOn h]
    exact and_iff_left fun done hdone => absurd hdone (hfresh done)
  earliest done hdone := absurd hdone (hfresh done)

theorem isNext_of_completed (h : IsTimeOfDay time) {asOf : Int}
    {schedule : DailySchedule} {date : Int}
    (hdone : ∀ done, schedule.Completes time done ↔
      done = instantOn date time) : IsNext asOf schedule time
      (instantOn (max (dateOf asOf) (date + 1)) time) where
  isLeast := by
    apply isLeast_instantOn
    intro date'
    simp only [hdone, forall_eq, dateOf_instantOn h, instantOn_lt_instantOn]
    omega
  earliest done hcompletes := by
    obtain rfl := (hdone done).mp hcompletes
    have hafter : IsLeast {i ∈ dailyInstants time | instantOn date time < i}
        (instantOn (date + 1) time) := by
      apply isLeast_instantOn
      intro date'
      rw [instantOn_lt_instantOn]
      omega
    rw [dateOf_instantOn h]
    constructor
    · intro hleast
      have hsame := instantOn_le_instantOn.mp
        (le_of_eq (hleast.unique hafter))
      omega
    · intro hle
      rw [max_eq_right hle]
      exact hafter

theorem nextInstant_spec {schedule : DailySchedule} (h : IsTimeOfDay time)
    (hvalid : schedule.Valid) (htime : parseScheduleTime schedule.timeUtc = .ok time)
    (hbefore : ∀ value ∈ schedule.lastCompletedAt, ∀ completed,
      parseUtc value = some completed → dateOf completed ≤ dateOf asOf) :
    (∀ next, nextInstant asOf time schedule.lastCompletedAt = .ok next →
      IsNext asOf schedule time next) ∧ (dateOf asOf ≠ lastDate → ∃ next,
      nextInstant asOf time schedule.lastCompletedAt = .ok next) := by
  cases hlast : schedule.lastCompletedAt with
  | none =>
    constructor
    · intro next hnext
      obtain rfl := Except.ok.inj hnext
      apply isNext_of_fresh h
      rintro done ⟨value, hvalue, -⟩
      rw [hlast] at hvalue
      contradiction
    · exact fun _ => ⟨_, rfl⟩
  | some value =>
    obtain ⟨completed, hparsed, hcame⟩ :=
      (validateScheduleCompletionTime_eq_ok htime).mp
        (hvalid.completed value hlast)
    have hparse := (parseUtcTime_eq_ok.mp hparsed).2
    have hdate := hbefore value hlast completed hparse
    have hnext := @isNext_of_completed time h asOf schedule (dateOf completed)
      fun done => completes_iff hlast hparse hcame
    simp only [nextInstant, hparsed, bind_eq_ok]
    by_cases hsame : dateOf completed = dateOf asOf
    · rw [hsame, max_eq_right (by omega)] at hnext
      constructor
      · rintro next ⟨_, hcompleted, hresult⟩
        obtain rfl := Except.ok.inj hcompleted
        rw [if_pos hsame] at hresult
        simp only [bind_eq_ok] at hresult
        obtain ⟨-, -, hresult⟩ := hresult
        obtain rfl := Except.ok.inj hresult
        exact hnext
      · intro hlimit
        refine ⟨instantOn (dateOf asOf + 1) time, completed, rfl, ?_⟩
        rw [if_pos hsame, refuseIf, if_neg hlimit]
        rfl
    · rw [max_eq_left (by omega)] at hnext
      constructor
      · rintro next ⟨_, hcompleted, hresult⟩
        obtain rfl := Except.ok.inj hcompleted
        rw [if_neg hsame] at hresult
        obtain rfl := Except.ok.inj hresult
        exact hnext
      · exact fun _ =>
          ⟨instantOn (dateOf asOf) time, completed, rfl, if_neg hsame⟩

/-! ## The status of a schedule -/

structure ScheduleStatus.Truthful (status : ScheduleStatus) (asOf : Int)
    (schedule : DailySchedule) (time : Nat × Nat) (next : Int) : Prop where
  enabled : status.enabled = schedule.enabled
  lastCompletedAt : status.lastCompletedAt = schedule.lastCompletedAt
  nextDueAt : parseUtc status.nextDueAt = some next
  isNext : IsNext asOf schedule time next
  due : status.due = true ↔ schedule.enabled = true ∧ next ≤ asOf
  missed : status.due = true ↔ schedule.enabled = true ∧
    ∃ i ∈ dailyInstants time, dateOf i = dateOf asOf ∧ i ≤ asOf ∧
      ∀ done, schedule.Completes time done → done < i

theorem IsNext.le_iff {next : Int} {schedule : DailySchedule}
    (h : IsNext asOf schedule time next) :
    next ≤ asOf ↔ ∃ i ∈ dailyInstants time, dateOf i = dateOf asOf ∧
      i ≤ asOf ∧ ∀ done, schedule.Completes time done → done < i := by
  obtain ⟨⟨hdaily, hdate, hafter⟩, hleast⟩ := h.isLeast
  constructor
  · intro hle
    exact ⟨next, hdaily, le_antisymm (dateOf_le_dateOf hle) hdate, hle, hafter⟩
  · rintro ⟨i, hi, hsame, hle, hundone⟩
    exact (hleast ⟨hi, hsame.ge, hundone⟩).trans hle

theorem instantOn_whole (h : instant ∈ dailyInstants time) : 1000000000 ∣ instant := by
  obtain ⟨date, rfl⟩ := h
  change 1000000000 ∣ instantOn date time
  unfold instantOn dayLength
  omega

theorem deriveScheduleStatus_truthful {schedule : DailySchedule}
    {status : ScheduleStatus} (hvalid : schedule.Valid) (hasOf : 0 ≤ dateOf asOf)
    (hbefore : ∀ value ∈ schedule.lastCompletedAt, ∀ completed,
      parseUtc value = some completed → dateOf completed ≤ dateOf asOf)
    (h : deriveScheduleStatus asOf schedule = .ok status) :
    status.scheduleId = schedule.scheduleId ∧ ∃ time next,
      parseScheduleTime schedule.timeUtc = .ok time ∧
        status.Truthful asOf schedule time next := by
  simp only [deriveScheduleStatus, bind_eq_ok] at h
  obtain ⟨time, htime, next, hnext, text, htext, hstatus⟩ := h
  obtain rfl := Except.ok.inj hstatus
  have hday := isTimeOfDay_of_parseScheduleTime htime
  have hspec := (nextInstant_spec hday hvalid htime hbefore).1 next hnext
  have hle := hspec.isLeast.1
  refine ⟨rfl, time, next, htime, rfl, rfl, ?_, hspec, ?_, ?_⟩
  · simp only [formatUtcTime, bind_eq_ok, refuseIf_eq_ok, not_or,
      not_le, not_lt] at htext
    obtain ⟨-, ⟨-, hyear⟩, htext⟩ := htext
    obtain rfl := Except.ok.inj htext
    have hfirst := hle.2.1
    have hwhole := instantOn_whole hle.1
    change parseUtc (formatUtc _) = _
    rw [parseUtc_formatUtc hyear]
    apply congrArg some
    unfold dateOf dayLength at hasOf hfirst
    omega
  · simp only [and_eq_true, decide_eq_true_eq]
  · simp only [and_eq_true, decide_eq_true_eq, hspec.le_iff]

theorem exists_deriveScheduleStatus {schedule : DailySchedule}
    (hvalid : schedule.Valid) (hasOf : 0 ≤ dateOf asOf ∧ dateOf asOf < lastDate)
    (hbefore : ∀ value ∈ schedule.lastCompletedAt, ∀ completed,
      parseUtc value = some completed → dateOf completed ≤ dateOf asOf) :
    ∃ status, deriveScheduleStatus asOf schedule = .ok status := by
  obtain ⟨time, htime⟩ := hvalid.time
  have hday := isTimeOfDay_of_parseScheduleTime htime
  have hspec := nextInstant_spec hday hvalid htime hbefore
  obtain ⟨next, hnext⟩ := hspec.2 (by omega)
  have hisNext := hspec.1 next hnext
  have hle : next ≤ instantOn (dateOf asOf + 1) time := by
    apply hisNext.isLeast.2
    refine ⟨instantOn_mem _, ?_, ?_⟩
    · rw [dateOf_instantOn hday]
      omega
    · rintro done ⟨value, hvalue, completed, hparse, hdone⟩
      have hdate := hbefore value hvalue completed hparse
      exact lt_of_le_of_lt hdone.1.2
        (lt_instantOn_of_dateOf_lt (by omega))
  have hlimit := dateOf_le_dateOf hle
  rw [dateOf_instantOn hday] at hlimit
  have hfirst := hisNext.isLeast.1.2.1
  obtain ⟨text, htext, -⟩ := @formatUtcTime_ok next (by omega) (by omega)
    (instantOn_whole hisNext.isLeast.1.1)
  simp only [deriveScheduleStatus, bind_eq_ok]
  exact ⟨_, time, htime, next, hnext, text, htext, rfl⟩

/-- The next due instant is the first that is neither done nor of a day before
the snapshot's; it is the first after the completed one exactly when no whole
day lies between. -/
theorem schedule_status_exact [ContentHash] {snapshot : OperationsSnapshot}
    {asOf : Int} (hvalid : snapshot.validate = .ok ())
    (hasOf : parseUtc snapshot.asOf = some asOf) : (dateOf asOf ≠ lastDate →
      ∃ statuses, deriveScheduleStatuses snapshot = .ok statuses) ∧
    ∀ statuses, deriveScheduleStatuses snapshot = .ok statuses →
      ∀ schedule ∈ snapshot.schedules, ∃ status ∈ statuses,
        status.scheduleId = schedule.scheduleId ∧ ∃ time next,
          parseScheduleTime schedule.timeUtc = .ok time ∧
            status.Truthful asOf schedule time next := by
  obtain ⟨hutc, hschedules⟩ := OperationsSnapshot.valid_of_validate hvalid
  have hdates := dateOf_parseUtc hasOf
  have hparse : parseUtcTime snapshot.asOf = .ok asOf :=
    parseUtcTime_eq_ok.mpr ⟨hutc, hasOf⟩
  have hbefore : ∀ schedule ∈ snapshot.schedules,
      ∀ value ∈ schedule.lastCompletedAt, ∀ completed,
        parseUtc value = some completed → dateOf completed ≤ dateOf asOf := by
    intro schedule hschedule value hvalue completed hcompleted
    apply dateOf_le_dateOf
    have hnot := (hschedules schedule hschedule).2 value hvalue
    rwa [lt_iff_instant_lt hasOf hcompleted, not_lt] at hnot
  constructor
  · intro hlimit
    obtain ⟨statuses, hstatuses⟩ := @exists_collect _ _
      (deriveScheduleStatus asOf) snapshot.schedules fun schedule hschedule =>
        exists_deriveScheduleStatus (hschedules schedule hschedule).1
          (by omega) (hbefore schedule hschedule)
    simp only [deriveScheduleStatuses, bind_eq_ok]
    exact ⟨_, (), hvalid, asOf, hparse, statuses, hstatuses, rfl⟩
  · intro sorted hsorted schedule hschedule
    simp only [deriveScheduleStatuses, bind_eq_ok] at hsorted
    obtain ⟨-, -, asOf', hparse', statuses, hstatuses, hsorted⟩ := hsorted
    obtain rfl := Except.ok.inj (hparse.symm.trans hparse')
    obtain rfl := Except.ok.inj hsorted
    obtain ⟨status, hmem, hstatus⟩ := exists_mem_collect hstatuses hschedule
    exact ⟨status, (List.mem_insertionSort _).mpr hmem,
      deriveScheduleStatus_truthful (hschedules schedule hschedule).1 hdates.1
        (hbefore schedule hschedule) hstatus⟩

namespace ScheduleSample

@[reducible] def contentHash : ContentHash :=
  ⟨fun _ => "0000000000000000000000000000000000000000000000000000000000000000"⟩

attribute [local instance] contentHash

def digest : String := "0000000000000000000000000000000000000000000000000000000000000000"

def riskLimit (parameterId : String) : ParameterValue where
  parameterId := parameterId
  value := Decimal.zero
  minimum := Decimal.zero
  maximum := Decimal.zero
  control := .twoPerson
  approval := some
    { approvalId := "approval-1", requestedBy := "operator-1"
      approvedBy := "operator-2", approvedAt := "2026-08-01T09:00:00Z"
      approvalSubjectHash := digest, authorizationPolicyHash := digest
      approvalEvidenceHash := digest }

def schedule : DailySchedule where
  scheduleId := "schedule.reconcile"
  purpose := "Reconcile"
  timeUtc := "16:00"
  enabled := true
  lastCompletedAt := some "2026-08-08T16:05:00Z"

def snapshot : OperationsSnapshot where
  asOf := "2026-08-10T12:00:00Z"
  environment := "PAPER"
  accountId := "account-1"
  currency := "USD"
  configurationId := "configuration-1"
  configurationVersion := "1"
  configurationContentHash := digest
  reproducibility :=
    { strategyId := "strategy-1", strategyVersion := "1"
      strategyBundleHash := digest, datasetId := "dataset-1"
      datasetVersion := "1", datasetHash := digest, replayEventHash := digest }
  parameters :=
    { parameterSetId := "set-1", revision := "r1", previousRevision := none
      previousParameterSetFingerprint := none
      values := reservedRiskLimitParameterIds.map riskLimit }
  startingEquity := Decimal.zero
  cash := Decimal.zero
  peakEquity := .ulp
  positions := []
  riskLimits :=
    { maxGrossExposure := Decimal.zero
      maxSingleInstrumentExposure := Decimal.zero
      maxDrawdownBps := Decimal.zero, maxWorkingOrders := 0
      maxUnknownOrders := 0, maxUnresolvedIncidents := 0 }
  health :=
    { auditHealthy := true, reconciliationHealthy := true
      brokerConnected := true, activeKillSwitches := [], workingOrders := 0
      unknownOrders := 0, unresolvedIncidents := 0 }
  attributionEntries := []
  schedules := [schedule]

def status : ScheduleStatus where
  scheduleId := "schedule.reconcile"
  purpose := "Reconcile"
  timeUtc := "16:00"
  enabled := true
  nextDueAt := "2026-08-10T16:00:00Z"
  due := false
  lastCompletedAt := some "2026-08-08T16:05:00Z"

def completed : Int := instantOf "2026-08-08T16:05:00Z"

def ninth : Int := instantOf "2026-08-09T16:00:00Z"

def noon : Int := instantOf "2026-08-10T12:00:00Z"

def tenth : Int := instantOf "2026-08-10T16:00:00Z"

theorem snapshot_evaluated : (snapshot.validate = .ok () ∧
      deriveScheduleStatuses snapshot = .ok [status] ∧
      parseScheduleTime schedule.timeUtc = .ok (16, 0) ∧
      parseUtc snapshot.asOf = some noon ∧
      parseUtc status.nextDueAt = some tenth) ∧
      (parseUtc "2026-08-08T16:05:00Z" = some completed ∧
        instantOn (dateOf completed) (16, 0) ≤ completed ∧
        instantOn (dateOf completed) (16, 0) < ninth) ∧
      instantOn (dateOf ninth) (16, 0) = ninth ∧
      ninth ≤ instantOf snapshot.asOf ∧ ¬tenth ≤ ninth := by
  decide +kernel

/-- Completed on the eighth, missed on the ninth, and not due on the tenth. -/
theorem missed_day_not_due : (snapshot.validate = .ok () ∧ schedule ∈ snapshot.schedules ∧
      parseScheduleTime schedule.timeUtc = .ok (16, 0) ∧
      deriveScheduleStatuses snapshot = .ok [status]) ∧
      ∃ done, schedule.Completes (16, 0) done ∧
        (ninth ∈ dailyInstants (16, 0) ∧ done < ninth ∧
          ninth ≤ instantOf snapshot.asOf ∧ schedule.enabled = true ∧
          status.due = false) ∧
        ∃ next, parseUtc status.nextDueAt = some next ∧
          ¬IsLeast {i ∈ dailyInstants (16, 0) | done < i} next := by
  obtain ⟨⟨hvalid, hderived, htime, -, hnext⟩, ⟨hcompleted, hday, hbefore⟩,
    hninth, hdue, hlate⟩ := snapshot_evaluated
  refine ⟨⟨hvalid, mem_cons_self, htime, hderived⟩,
    instantOn (dateOf completed) (16, 0), ?_, ?_, tenth, hnext, ?_⟩
  · exact (completes_iff rfl hcompleted hday).mpr rfl
  · exact ⟨⟨dateOf ninth, hninth⟩, hbefore, hdue, rfl, rfl⟩
  · intro hleast
    exact hlate (hleast.2 ⟨⟨dateOf ninth, hninth⟩, hbefore⟩)

/-- The noon's status names the instant of the tenth. -/
theorem schedule_status_exact_snapshot :
    ∃ told ∈ [status], told.scheduleId = schedule.scheduleId ∧
      ∃ time next, parseScheduleTime schedule.timeUtc = .ok time ∧
        told.Truthful (instantOf "2026-08-10T12:00:00Z") schedule time next := by
  obtain ⟨⟨hvalid, hderived, -, hasOf, -⟩, -⟩ := snapshot_evaluated
  exact (schedule_status_exact hvalid hasOf).2 [status] hderived schedule
    mem_cons_self

end ScheduleSample

end Follon.Operations
