import Follon.Domain.CivilTime
import Mathlib.Tactic.IntervalCases

/-!
# Civil dates from day numbers

The source counts years from March, so that a leap day is the last day of its
year.  The date it computes is the one whose day number it was given.
-/

namespace Follon.News

open Domain

def civilFromDays (daysSinceUnixEpoch : Int) : Int × Nat × Nat :=
  let z := daysSinceUnixEpoch + 719468
  let era := (if 0 ≤ z then z else z - 146096).tdiv 146097
  let dayOfEra := z - era * 146097
  let yearOfEra := (dayOfEra - dayOfEra.tdiv 1460 + dayOfEra.tdiv 36524 -
    dayOfEra.tdiv 146096).tdiv 365
  let year := yearOfEra + era * 400
  let dayOfYear := dayOfEra -
    (365 * yearOfEra + yearOfEra.tdiv 4 - yearOfEra.tdiv 100)
  let monthPrime := (5 * dayOfYear + 2).tdiv 153
  let day := dayOfYear - (153 * monthPrime + 2).tdiv 5 + 1
  let month := monthPrime + if monthPrime < 10 then 3 else -9
  (year + if month ≤ 2 then 1 else 0, month.toNat, day.toNat)

/-! ## Years from March -/

/-- Days of the years before `year`, each taken from 1 March. -/
def marchDays (year : Nat) : Nat := 365 * year + year / 4 - year / 100 + year / 400

theorem ceilDiv_eq (year : Nat) {every : Nat} (h : 0 < every) :
    (year + (every - 1)) / every =
      year / every + if year % every = 0 then 0 else 1 := by
  have hsucc := CivilTime.ceilDiv_succ year h
  have hfloor : (year + 1 + (every - 1)) / every = year / every + 1 := by
    rw [Nat.add_assoc, Nat.add_sub_cancel' h, Nat.add_div_right _ h]
  rw [hfloor] at hsucc
  split at hsucc <;> simp_all

theorem daysBefore_march (year : Nat) : daysBefore year 3 = marchDays year + 60 := by
  have hfirst := CivilTime.daysBefore_first year
  rw [ceilDiv_eq year (by decide), ceilDiv_eq year (by decide),
    ceilDiv_eq year (by decide)] at hfirst
  have hfebruary : daysBefore year 3 =
      daysBefore year 1 + 31 + daysInMonth year 2 := by
    rw [CivilTime.daysBefore_succ_month (by decide),
      CivilTime.daysBefore_succ_month (by decide)]
    rfl
  have hfour : year % 400 = 0 → year % 100 = 0 := by omega
  have hhundredth : year % 100 = 0 → year % 4 = 0 := by omega
  have hhundred : year / 100 ≤ year := Nat.div_le_self _ _
  have hzero : year % 100 = 0 ∨ 0 < year := by omega
  rw [hfebruary, hfirst]
  unfold marchDays daysInMonth isLeapYear
  simp only [Bool.and_eq_true, Bool.or_eq_true, beq_iff_eq, bne_iff_ne]
  generalize year / 4 = fours at *
  generalize year / 100 = hundreds at *
  generalize year / 400 = fourHundreds at *
  generalize year % 4 = four at *
  generalize year % 100 = hundred at *
  generalize year % 400 = fourHundred at *
  split <;> split <;> split <;> split <;> omega

theorem daysBefore_march_succ (year : Nat) :
    daysBefore year 13 = marchDays year + 366 := by
  have hmarch := daysBefore_march year
  rw [CivilTime.daysBefore_succ_month (by decide),
    CivilTime.daysBefore_succ_month (by decide)] at hmarch
  rw [CivilTime.daysBefore_thirteen]
  have hjanuary : daysInMonth year 1 = 31 := rfl
  omega

variable {mp doe c q y doy : Nat}

theorem daysBefore_monthPrime (year : Nat) (h : mp ≤ 9) :
    daysBefore year (mp + 3) = marchDays year + 60 + (153 * mp + 2) / 5 := by
  induction mp with
  | zero => exact daysBefore_march year
  | succ mp ih =>
    have hmonth := @CivilTime.daysBefore_succ_month year (mp + 3) (by omega)
    rw [show mp + 1 + 3 = mp + 3 + 1 from rfl, hmonth, ih (by omega)]
    have hlength : daysInMonth year (mp + 3) + (153 * mp + 2) / 5 =
        (153 * (mp + 1) + 2) / 5 := by
      have hmp : mp ≤ 8 := by omega
      interval_cases mp <;> rfl
    omega

/-! ## Years of an era -/

theorem exists_cycles (h : doe < 146097) :
    ∃ c q y r, doe = 36524 * c + 1461 * q + 365 * y + r ∧ c ≤ 3 ∧ q ≤ 24 ∧
      y ≤ 3 ∧ r ≤ 365 ∧ (r = 365 → y = 3 ∧ (q = 24 → c = 3)) := by
  let c := doe / 36524 - doe / 146096
  let doc := doe - 36524 * c
  let doq := doc % 1461
  let y := doq / 365 - doq / 1460
  have hc : c ≤ 3 ∧ 36524 * c ≤ doe ∧ doc ≤ 36524 ∧
      (doc = 36524 → c = 3) := by omega
  have hdoq : doc = 1461 * (doc / 1461) + doq ∧ doq < 1461 := by omega
  have hy : y ≤ 3 ∧ 365 * y ≤ doq ∧ doq - 365 * y ≤ 365 ∧
      (doq - 365 * y = 365 → y = 3) := by omega
  exact ⟨c, doc / 1461, y, doq - 365 * y, by omega, hc.1, by omega, hy.1,
    by omega, by omega⟩

theorem yearOfEra_eq {r : Nat} (hc : c ≤ 3) (hq : q ≤ 24) (hy : y ≤ 3)
    (hr : r ≤ 365) (hleap : r = 365 → y = 3 ∧ (q = 24 → c = 3)) :
    let doe := 36524 * c + 1461 * q + 365 * y + r
    (doe - doe / 1460 + doe / 36524 - doe / 146096) / 365 =
      100 * c + 4 * q + y := by
  intro doe
  have hcycles : doe / 1460 =
      25 * c + q + if 1460 ≤ 24 * c + q + 365 * y + r then 1 else 0 := by
    split <;> omega
  have hdoc : 1461 * q + 365 * y + r ≤ 36524 ∧
      (1461 * q + 365 * y + r = 36524 → c = 3) := by omega
  have hlast : doe / 36524 - doe / 146096 = c ∧
      doe / 146096 ≤ doe / 36524 := by
    change (36524 * c + 1461 * q + 365 * y + r) / 36524 -
      (36524 * c + 1461 * q + 365 * y + r) / 146096 = c ∧ _
    interval_cases c <;> omega
  have hle : doe / 1460 ≤ doe := Nat.div_le_self _ _
  have hnumerator : doe - doe / 1460 + doe / 36524 - doe / 146096 =
      doe - doe / 1460 + c := by omega
  rw [hnumerator, hcycles]
  split <;> omega

theorem marchDays_cycles (era : Nat) (hc : c ≤ 3) (hq : q ≤ 24) (hy : y ≤ 3)
    : marchDays (100 * c + 4 * q + y + 400 * era) =
      146097 * era + 36524 * c + 1461 * q + 365 * y := by
  unfold marchDays
  omega

/-! ## The date -/

theorem civilFromDays_eq {days era yoe : Nat}
    (hdays : days + 719468 = era * 146097 + doe) (hdoe : doe < 146097)
    (hyoe : (doe - doe / 1460 + doe / 36524 - doe / 146096) / 365 = yoe)
    (hdoy : doe = 365 * yoe + yoe / 4 - yoe / 100 + doy)
    (hmp : (5 * doy + 2) / 153 = mp) : civilFromDays days =
      (((yoe + era * 400 + if mp < 10 then 0 else 1 : Nat) : Int),
        if mp < 10 then mp + 3 else mp - 9,
        doy - (153 * mp + 2) / 5 + 1) := by
  have hz : ((days : Int) + 719468) = ((era * 146097 + doe : Nat) : Int) := by
    omega
  have hera : ((days : Int) + 719468).tdiv 146097 = era := by
    rw [hz, Int.tdiv_eq_ediv_of_nonneg (by omega)]
    omega
  have hrest : (days : Int) + 719468 - era * 146097 = doe := by omega
  have hyears : ((doe : Int) - (doe : Int).tdiv 1460 +
      (doe : Int).tdiv 36524 - (doe : Int).tdiv 146096).tdiv 365 = yoe := by
    have h := @Int.tdiv_eq_ediv_of_nonneg doe
    rw [h (by omega), h (by omega), h (by omega),
      Int.tdiv_eq_ediv_of_nonneg (by omega)]
    omega
  have hday : (doe : Int) - (365 * yoe + (yoe : Int).tdiv 4 -
      (yoe : Int).tdiv 100) = doy := by
    rw [Int.tdiv_eq_ediv_of_nonneg (by omega),
      Int.tdiv_eq_ediv_of_nonneg (by omega)]
    omega
  have hmonth : (5 * (doy : Int) + 2).tdiv 153 = mp := by
    rw [Int.tdiv_eq_ediv_of_nonneg (by omega)]
    omega
  have hfirst : (153 * (mp : Int) + 2).tdiv 5 =
      ((153 * mp + 2) / 5 : Nat) := by
    rw [Int.tdiv_eq_ediv_of_nonneg (by omega)]
    omega
  have hstart : (153 * mp + 2) / 5 ≤ doy := by omega
  have hdate : ((doy : Int) - ((153 * mp + 2) / 5 : Nat) + 1).toNat =
      doy - (153 * mp + 2) / 5 + 1 := by omega
  unfold civilFromDays
  dsimp only
  rw [if_pos (by omega), hera, hrest, hyears, hday, hmonth, hfirst]
  by_cases hlow : mp < 10
  · have hnumber : (mp : Int) + (if (mp : Int) < 10 then 3 else -9) =
        (mp + 3 : Nat) := by
      rw [if_pos (by omega)]
      rfl
    rw [hnumber, if_neg (by omega), if_pos hlow, if_pos hlow]
    refine Prod.ext ?_ (Prod.ext rfl ?_)
    · change (yoe : Int) + era * 400 + 0 = ((yoe + era * 400 + 0 : Nat) : Int)
      omega
    · exact hdate
  · have hnumber : (mp : Int) + (if (mp : Int) < 10 then 3 else -9) =
        (mp - 9 : Nat) := by
      rw [if_neg (by omega)]
      omega
    rw [hnumber, if_pos (by omega), if_neg hlow, if_neg hlow]
    refine Prod.ext ?_ (Prod.ext rfl ?_)
    · change (yoe : Int) + era * 400 + 1 = ((yoe + era * 400 + 1 : Nat) : Int)
      omega
    · exact hdate

theorem date_of_march {year : Nat} (hmp : (5 * doy + 2) / 153 = mp)
    (hdoy : doy ≤ 365) (hleap : doy = 365 → isLeapYear (year + 1) = true) :
    let year' := year + if mp < 10 then 0 else 1
    let month := if mp < 10 then mp + 3 else mp - 9
    let day := doy - (153 * mp + 2) / 5 + 1
    (1 ≤ month ∧ month ≤ 12) ∧ (1 ≤ day ∧ day ≤ daysInMonth year' month) ∧
      daysBefore year' month + day - 1 = marchDays year + doy + 60 := by
  by_cases hlow : mp < 10
  · simp only [if_pos hlow]
    rw [daysBefore_monthPrime _ (show mp ≤ 9 by omega)]
    have hlength : (153 * mp + 2) / 5 + daysInMonth year (mp + 3) =
        (153 * (mp + 1) + 2) / 5 := by
      clear hmp
      interval_cases mp <;> rfl
    simp only [Nat.add_zero]
    omega
  · simp only [if_neg hlow]
    have hnext : daysBefore (year + 1) 1 = marchDays year + 366 := by
      rw [CivilTime.daysBefore_succ_year, daysBefore_march_succ]
    have hmonths : mp = 10 ∨ mp = 11 := by omega
    rcases hmonths with rfl | rfl
    · change _ ∧ (_ ∧ _ ≤ 31) ∧ daysBefore (year + 1) 1 + _ - 1 = _
      omega
    · have hsecond : daysBefore (year + 1) 2 = marchDays year + 397 := by
        rw [CivilTime.daysBefore_succ_month (Nat.le_refl 1), hnext]
        rfl
      have hlength : doy - (153 * 11 + 2) / 5 + 1 ≤
          if isLeapYear (year + 1) then 29 else 28 := by
        by_cases hlast : doy = 365
        · rw [if_pos (hleap hlast)]
          omega
        · split <;> omega
      change _ ∧ (_ ∧ _ ≤ if isLeapYear (year + 1) then 29 else 28) ∧
        daysBefore (year + 1) 2 + _ - 1 = _
      exact ⟨by decide, ⟨by omega, hlength⟩, by omega⟩

theorem civilFromDays_spec (days : Nat) :
    ∃ year month day : Nat, civilFromDays days = ((year : Int), month, day) ∧
      (1 ≤ month ∧ month ≤ 12) ∧
      (1 ≤ day ∧ day ≤ daysInMonth year month) ∧
      daysBefore year month + day - 1 = days + 719528 := by
  have hdoe : (days + 719468) % 146097 < 146097 := Nat.mod_lt _ (by decide)
  have hdays : days + 719468 =
      (days + 719468) / 146097 * 146097 + (days + 719468) % 146097 := by
    omega
  generalize (days + 719468) / 146097 = era at hdays
  generalize (days + 719468) % 146097 = doe at hdays hdoe
  obtain ⟨c, q, y, r, rfl, hc, hq, hy, hr, hleap⟩ := exists_cycles hdoe
  have hyoe := yearOfEra_eq hc hq hy hr hleap
  have hmarch := marchDays_cycles era hc hq hy
  have hyears : 365 * (100 * c + 4 * q + y) + (100 * c + 4 * q + y) / 4 -
      (100 * c + 4 * q + y) / 100 =
        36524 * c + 1461 * q + 365 * y := by
    have hfours : (100 * c + 4 * q + y) / 4 = 25 * c + q := by omega
    have hhundreds : (100 * c + 4 * q + y) / 100 = c := by omega
    rw [hfours, hhundreds]
    omega
  have hleapYear : r = 365 →
      isLeapYear (100 * c + 4 * q + y + era * 400 + 1) = true := by
    intro hlast
    obtain ⟨rfl, hcentury⟩ := hleap hlast
    simp only [isLeapYear, Bool.and_eq_true, Bool.or_eq_true, beq_iff_eq, bne_iff_ne]
    have hfour : (100 * c + 4 * q + 3 + era * 400 + 1) % 4 = 0 := by omega
    refine ⟨hfour, ?_⟩
    by_cases hq' : q = 24
    · right
      rw [hq', hcentury hq']
      omega
    · left
      omega
  rw [civilFromDays_eq hdays hdoe hyoe (by rw [hyears]) rfl]
  obtain ⟨hmonth, hday, hnumber⟩ := date_of_march rfl hr hleapYear
  refine ⟨_, _, _, rfl, hmonth, hday, hnumber.trans ?_⟩
  rw [Nat.mul_comm era, hmarch]
  omega

end Follon.News

/-!
## Replay times

A Unix time in nanoseconds as a second of the replay clock: an availability
time is rounded up to the next second, a source time is cut to its second.
-/

namespace Follon.News

open Domain Foundation

def replayTimeFromUnixSeconds (seconds : Nat) (timestampName : String) :
    Result String := do
  let days := seconds / 86400
  let secondsOfDay := seconds % 86400
  refuseIf (2 ^ 63 ≤ days)
    (timestampName ++ " is outside the replay clock range")
  let (year, month, day) := civilFromDays days
  refuseIf (¬(0 ≤ year ∧ year ≤ 9999))
    (timestampName ++ " is outside the replay clock range")
  pure (padded 4 year.toNat ++ "-" ++ padded 2 month ++ "-" ++ padded 2 day ++
    "T" ++ padded 2 (secondsOfDay / 3600) ++ ":" ++
    padded 2 (secondsOfDay % 3600 / 60) ++ ":" ++
    padded 2 (secondsOfDay % 60) ++ "Z")

def replayTimeFromUnixNs (eventTimeNs : UInt64) : Result String := do
  refuseIf (eventTimeNs = 0) "event_time_ns must be positive"
  replayTimeFromUnixSeconds (eventTimeNs.toNat / 1000000000) "event_time_ns"

/-- `seconds.checked_add(1)` unless the time is a whole second. -/
def roundedSeconds (availabilityTimeNs : UInt64) : Result Nat :=
  let seconds := availabilityTimeNs.toNat / 1000000000
  if availabilityTimeNs.toNat % 1000000000 = 0 then
    .ok seconds
  else do
    refuseIf (2 ^ 64 ≤ seconds + 1)
      "availability_time_ns is outside the replay clock range"
    pure (seconds + 1)

def replayAvailabilityTimeFromUnixNs (availabilityTimeNs : UInt64) : Result String := do
  refuseIf (availabilityTimeNs = 0) "availability_time_ns must be positive"
  let seconds ← roundedSeconds availabilityTimeNs
  replayTimeFromUnixSeconds seconds "availability_time_ns"

/-! ## The second a text names -/

def unixEpoch : Int := instantOf "1970-01-01T00:00:00Z"

theorem unixEpoch_eq : unixEpoch = 62167219200000000000 := by
  decide +kernel

structure Names (text : String) (seconds : Nat) : Prop where
  valid : ∀ name, validateUtcTimestamp name text = .ok ()
  instant : parseUtc text = some (unixEpoch + seconds * 1000000000)
  only : ∀ other, parseUtc other = parseUtc text → other = text

variable {text : String} {seconds : Nat} {t : UInt64}

theorem eq_of_parseUtc_eq {other : String} {instant : Int}
    (h : parseUtc text = some instant) (h' : parseUtc other = some instant) :
    other = text := by
  have hlt := mt (lt_iff_instant_lt h h').mp (lt_irrefl instant)
  have hlt' := mt (lt_iff_instant_lt h' h).mp (lt_irrefl instant)
  exact le_antisymm (not_lt.mp hlt) (not_lt.mp hlt')

theorem names_of_parseUtc (h : parseUtc text = some (unixEpoch + seconds * 1000000000)) :
    Names text seconds where
  valid name := by
    rw [validateUtcTimestamp_eq_ok, isUtcTimestamp,
      (CivilTime.instant_of_parseUtc h).1, h]
    rfl
  instant := h
  only other hother := eq_of_parseUtc_eq h (hother.trans h)

theorem Names.le {text' : String} {seconds' : Nat} (h : Names text seconds)
    (h' : Names text' seconds') (hle : seconds ≤ seconds') : text ≤ text' := by
  rw [← not_lt, lt_iff_instant_lt h'.instant h.instant]
  omega

/-- The largest second of a 64-bit count of nanoseconds, rounded up. -/
def lastSecond : Nat := 18446744074

theorem replayTimeFromUnixSeconds_names {seconds : Nat}
    (h : seconds ≤ lastSecond) (timestampName : String) :
    ∃ text, replayTimeFromUnixSeconds seconds timestampName = .ok text ∧
      Names text seconds := by
  unfold lastSecond at h
  obtain ⟨year, month, day, hcivil, hmonth, hday, hnumber⟩ :=
    civilFromDays_spec (seconds / 86400)
  have hyear : year < 10000 := by
    have hyears := le_daysBefore year
    have hmonths := @CivilTime.daysBefore_month_mono year 1 month
      (Nat.le_refl 1) hmonth.1
    omega
  have hparse := @parseUtc_fields year month day (seconds % 86400 / 3600)
    (seconds % 86400 % 3600 / 60) (seconds % 86400 % 60) hyear hmonth hday
    (by omega) (by omega) (by omega)
  rw [hnumber] at hparse
  refine ⟨_, ?_, names_of_parseUtc (hparse.trans ?_)⟩
  · simp only [replayTimeFromUnixSeconds, hcivil, bind_eq_ok, refuseIf_eq_ok]
    exact ⟨(), by omega, (), by omega, rfl⟩
  · rw [unixEpoch_eq]
    apply congrArg some
    omega

theorem replayTimeFromUnixNs_names (ht : 0 < t) :
    ∃ text seconds, replayTimeFromUnixNs t = .ok text ∧ Names text seconds ∧
      IsGreatest {s : ℕ | s * 1000000000 ≤ t.toNat} seconds := by
  have hlimit := t.toNat_lt
  obtain ⟨text, htext, hnames⟩ := @replayTimeFromUnixSeconds_names
    (t.toNat / 1000000000) (by unfold lastSecond; omega) "event_time_ns"
  refine ⟨text, _, ?_, hnames, Nat.div_mul_le_self _ _, ?_⟩
  · simp only [replayTimeFromUnixNs, bind_eq_ok, refuseIf_eq_ok]
    exact ⟨(), fun hzero => UInt64.ne_of_lt ht hzero.symm, htext⟩
  · intro s hs
    exact (Nat.le_div_iff_mul_le (by decide)).mpr hs

theorem roundedSeconds_ok (t : UInt64) :
    ∃ seconds ≤ lastSecond, roundedSeconds t = .ok seconds ∧
      IsLeast {s : ℕ | t.toNat ≤ s * 1000000000} seconds := by
  have hlimit := t.toNat_lt
  unfold lastSecond
  unfold roundedSeconds
  by_cases hwhole : t.toNat % 1000000000 = 0
  · refine ⟨t.toNat / 1000000000, by omega, if_pos hwhole, ?_, ?_⟩
    · change t.toNat ≤ t.toNat / 1000000000 * 1000000000
      omega
    · intro s hs
      change t.toNat ≤ s * 1000000000 at hs
      omega
  · refine ⟨t.toNat / 1000000000 + 1, by omega, ?_, ?_, ?_⟩
    · rw [if_neg hwhole]
      simp only [bind_eq_ok, refuseIf_eq_ok]
      exact ⟨(), by omega, rfl⟩
    · change t.toNat ≤ (t.toNat / 1000000000 + 1) * 1000000000
      omega
    · intro s hs
      change t.toNat ≤ s * 1000000000 at hs
      omega

theorem replayAvailabilityTimeFromUnixNs_names (ht : 0 < t) :
    ∃ text seconds, replayAvailabilityTimeFromUnixNs t = .ok text ∧ Names text seconds ∧
      IsLeast {s : ℕ | t.toNat ≤ s * 1000000000} seconds := by
  obtain ⟨seconds, hseconds, hrounded, hleast⟩ := roundedSeconds_ok t
  obtain ⟨text, htext, hnames⟩ :=
    replayTimeFromUnixSeconds_names hseconds "availability_time_ns"
  refine ⟨text, seconds, ?_, hnames, hleast⟩
  simp only [replayAvailabilityTimeFromUnixNs, bind_eq_ok, refuseIf_eq_ok]
  exact ⟨(), fun hzero => UInt64.ne_of_lt ht hzero.symm, seconds, hrounded, htext⟩

/-! ## Both directions -/

/-- An item is never visible early: its availability is the first second not
before its time.  Later times give no earlier texts. -/
theorem replay_times_exact {t : UInt64} (ht : 0 < t) :
    (∃ text seconds, replayAvailabilityTimeFromUnixNs t = .ok text ∧ Names text seconds ∧
      IsLeast {s : ℕ | t.toNat ≤ s * 1000000000} seconds) ∧
    (∃ text seconds, replayTimeFromUnixNs t = .ok text ∧ Names text seconds ∧
      IsGreatest {s : ℕ | s * 1000000000 ≤ t.toNat} seconds) ∧
    ∀ t' : UInt64, t ≤ t' → ∀ text text', (replayAvailabilityTimeFromUnixNs t = .ok text →
        replayAvailabilityTimeFromUnixNs t' = .ok text' → text ≤ text') ∧
      (replayTimeFromUnixNs t = .ok text →
        replayTimeFromUnixNs t' = .ok text' → text ≤ text') := by
  refine ⟨replayAvailabilityTimeFromUnixNs_names ht, replayTimeFromUnixNs_names ht, ?_⟩
  intro t' hle text text'
  have ht' : 0 < t' := UInt64.lt_of_lt_of_le ht hle
  have hnat := UInt64.le_iff_toNat_le.mp hle
  constructor
  · intro htext htext'
    obtain ⟨_, seconds, hfirst, hnames, hleast⟩ :=
      replayAvailabilityTimeFromUnixNs_names ht
    obtain ⟨_, seconds', hlater, hnames', hleast'⟩ :=
      replayAvailabilityTimeFromUnixNs_names ht'
    obtain rfl := Except.ok.inj (hfirst.symm.trans htext)
    obtain rfl := Except.ok.inj (hlater.symm.trans htext')
    exact hnames.le hnames' (hleast.2 (hnat.trans hleast'.1))
  · intro htext htext'
    obtain ⟨_, seconds, hfirst, hnames, hgreatest⟩ :=
      replayTimeFromUnixNs_names ht
    obtain ⟨_, seconds', hlater, hnames', hgreatest'⟩ :=
      replayTimeFromUnixNs_names ht'
    obtain rfl := Except.ok.inj (hfirst.symm.trans htext)
    obtain rfl := Except.ok.inj (hlater.symm.trans htext')
    exact hnames.le hnames' (hgreatest'.2 (le_trans hgreatest.1 hnat))

/-- Half a second past the epoch is the second after it. -/
theorem replay_times_exact_half : replayAvailabilityTimeFromUnixNs 500000000 =
        .ok "1970-01-01T00:00:01Z" ∧
      ∃ text seconds, replayAvailabilityTimeFromUnixNs 500000000 = .ok text ∧
        Names text seconds ∧
        IsLeast {s : ℕ | (500000000 : UInt64).toNat ≤ s * 1000000000}
          seconds :=
  ⟨by decide +kernel,
    (@replay_times_exact 500000000 (by decide)).1⟩

end Follon.News
