import Follon.Domain.Identity
import Mathlib.Data.String.Basic

/-!
# The order of timestamps

Texts of timestamps are ordered as the instants they name.
-/

namespace Follon.Domain

open Foundation

/-! ## Fields -/

structure CivilTime where
  (year month day hour minute second : Nat)

namespace CivilTime

def field (cs : List Char) (start width : Nat) : List Char := (cs.drop start).take width

def ofChars (cs : List Char) : CivilTime where
  year := digitsValue (field cs 0 4)
  month := digitsValue (field cs 5 2)
  day := digitsValue (field cs 8 2)
  hour := digitsValue (field cs 11 2)
  minute := digitsValue (field cs 14 2)
  second := digitsValue (field cs 17 2)

def days (time : CivilTime) : Nat := daysBefore time.year time.month + time.day - 1

def secondsOf (time : CivilTime) (second : Nat) : Nat :=
  ((time.days * 24 + time.hour) * 60 + time.minute) * 60 + second

def instant (time : CivilTime) : Int :=
  if time.second < 60 then (time.secondsOf time.second : Int) * 1000000000
  else (time.secondsOf 59 : Int) * 1000000000 + 999999999

structure IsDate (time : CivilTime) : Prop where
  month : 1 ≤ time.month ∧ time.month ≤ 12
  day : 1 ≤ time.day ∧ time.day ≤ daysInMonth time.year time.month
  hour : time.hour ≤ 23
  minute : time.minute ≤ 59
  second : time.second ≤ 60

theorem instant_of_parseUtc {value : String} {instant : Int}
    (h : parseUtc value = some instant) :
    hasCanonicalShape value.toList = true ∧ (ofChars value.toList).IsDate ∧
      instant = (ofChars value.toList).instant := by
  unfold parseUtc at h
  dsimp only at h
  split at h
  · next hshape =>
      refine ⟨hshape, ?_⟩
      change (if (ofChars value.toList).month = 0 ∨
          12 < (ofChars value.toList).month ∨ (ofChars value.toList).day = 0 ∨
          daysInMonth (ofChars value.toList).year (ofChars value.toList).month
            < (ofChars value.toList).day ∨
          23 < (ofChars value.toList).hour ∨
          59 < (ofChars value.toList).minute then none
        else if (ofChars value.toList).second < 60 then
          some (((ofChars value.toList).secondsOf
            (ofChars value.toList).second : Int) * 1000000000)
        else if (ofChars value.toList).second = 60 ∧
            (ofChars value.toList).hour = 23 ∧
            (ofChars value.toList).minute = 59 ∧
            (ofChars value.toList).day = daysInMonth
              (ofChars value.toList).year (ofChars value.toList).month then
          some (((ofChars value.toList).secondsOf 59 : Int) * 1000000000 + 999999999)
        else none) = some instant at h
      generalize ofChars value.toList = time at *
      split at h
      · contradiction
      · next hdate =>
          simp only [not_or, not_lt] at hdate
          split at h
          · next hsecond =>
              refine ⟨⟨by omega, by omega, by omega, by omega, by omega⟩, ?_⟩
              rw [CivilTime.instant, if_pos hsecond]
              exact (Option.some.inj h).symm
          · next hsecond =>
              split at h
              · next hleap =>
                  refine ⟨⟨by omega, by omega, by omega, by omega, by omega⟩,
                    ?_⟩
                  rw [CivilTime.instant, if_neg hsecond]
                  exact (Option.some.inj h).symm
              · contradiction
  · contradiction

/-! ## Days -/

theorem daysBefore_succ_month {year month : Nat} (h : 1 ≤ month) :
    daysBefore year (month + 1)
      = daysBefore year month + daysInMonth year month := by
  obtain ⟨previous, rfl⟩ := Nat.exists_eq_add_of_le' h
  unfold daysBefore
  rw [Nat.add_sub_cancel, Nat.add_sub_cancel, List.range_succ, map_append,
    List.sum_append]
  simp
  omega

theorem ceilDiv_succ (year : Nat) {every : Nat} (h : 0 < every) :
    (year + 1 + (every - 1)) / every
      = (year + (every - 1)) / every + if year % every = 0 then 1 else 0 := by
  have hsplit := Nat.div_add_mod year every
  have hmod := Nat.mod_lt year h
  generalize year / every = quotient at *
  generalize year % every = rest at *
  subst hsplit
  have hnext : (every * quotient + rest + 1 + (every - 1)) / every
      = quotient + 1 := by
    apply Nat.div_eq_of_lt_le
    · rw [Nat.add_mul, Nat.mul_comm quotient]
      omega
    · rw [Nat.add_mul, Nat.add_mul, Nat.mul_comm quotient]
      omega
  rw [hnext]
  split
  · next hzero =>
      have hsame : (every * quotient + rest + (every - 1)) / every
          = quotient := by
        rw [hzero, Nat.add_zero, Nat.mul_add_div h,
          Nat.div_eq_of_lt (by omega), Nat.add_zero]
      rw [hsame]
  · next hsome =>
      have hsame : (every * quotient + rest + (every - 1)) / every
          = quotient + 1 := by
        apply Nat.div_eq_of_lt_le
        · rw [Nat.add_mul, Nat.mul_comm quotient]
          omega
        · rw [Nat.add_mul, Nat.add_mul, Nat.mul_comm quotient]
          omega
      rw [hsame]

theorem daysBefore_first (year : Nat) :
    daysBefore year 1 = 365 * year + (year + (4 - 1)) / 4 -
      (year + (100 - 1)) / 100 + (year + (400 - 1)) / 400 := by
  simp [daysBefore]

theorem daysBefore_thirteen (year : Nat) : daysBefore year 13
      = daysBefore year 1 + 337 + daysInMonth year 2 := by
  have hmonth : ∀ month, 1 ≤ month → daysBefore year (month + 1)
      = daysBefore year month + daysInMonth year month :=
    fun _ => daysBefore_succ_month
  rw [hmonth 12, hmonth 11, hmonth 10, hmonth 9, hmonth 8, hmonth 7, hmonth 6,
    hmonth 5, hmonth 4, hmonth 3, hmonth 2, hmonth 1]
  · generalize daysInMonth year 2 = february
    simp only [daysInMonth]
    omega
  all_goals decide

theorem daysBefore_succ_year (year : Nat) :
    daysBefore (year + 1) 1 = daysBefore year 13 := by
  rw [daysBefore_thirteen, daysBefore_first, daysBefore_first,
    ceilDiv_succ year (by decide), ceilDiv_succ year (by decide),
    ceilDiv_succ year (by decide)]
  have hhundred : (year + (100 - 1)) / 100 ≤ 365 * year := by
    omega
  have hfour : year % 400 = 0 → year % 100 = 0 := by
    omega
  have hhundredth : year % 100 = 0 → year % 4 = 0 := by
    omega
  unfold daysInMonth isLeapYear
  simp only [and_eq_true, or_eq_true, beq_iff_eq, bne_iff_ne]
  generalize (year + (4 - 1)) / 4 = fours at *
  generalize (year + (100 - 1)) / 100 = hundreds at *
  generalize (year + (400 - 1)) / 400 = fourHundreds at *
  generalize year % 4 = four at *
  generalize year % 100 = hundred at *
  generalize year % 400 = fourHundred at *
  split <;> split <;> split <;> split <;> omega

theorem daysBefore_month_mono {year month month' : Nat} (h : 1 ≤ month)
    (hle : month ≤ month') : daysBefore year month ≤ daysBefore year month' := by
  induction month', hle using Nat.le_induction with
  | base => exact Nat.le_refl _
  | succ last hlast ih =>
    rw [daysBefore_succ_month (Nat.le_trans h hlast)]
    omega

theorem daysBefore_year_mono {year year' : Nat} (hle : year ≤ year') :
    daysBefore year 1 ≤ daysBefore year' 1 := by
  induction year', hle using Nat.le_induction with
  | base => exact Nat.le_refl _
  | succ last hlast ih =>
    rw [daysBefore_succ_year]
    have := @daysBefore_month_mono last 1 13 (Nat.le_refl _) (by omega)
    omega

variable {time time' : CivilTime} {c : Char} {cs ds rest rest' : List Char}

theorem days_lt (h : time.IsDate) (h' : time'.IsDate)
    (hbefore : time.year < time'.year ∨ time.year = time'.year ∧
      (time.month < time'.month ∨
        time.month = time'.month ∧ time.day < time'.day)) : time.days < time'.days := by
  have hmonth := h.month
  have hday := h.day
  have hmonth' := h'.month
  have hday' := h'.day
  have hend := @daysBefore_succ_month time.year time.month hmonth.1
  unfold days
  rcases hbefore with hyear | ⟨hyear, hmonths | ⟨hmonths, hdays⟩⟩
  · have hlast := @daysBefore_month_mono time.year (time.month + 1) 13
      (by omega) (by omega)
    have hyears := daysBefore_year_mono (Nat.succ_le_of_lt hyear)
    rw [Nat.succ_eq_add_one, daysBefore_succ_year] at hyears
    have hfirst := @daysBefore_month_mono time'.year 1 time'.month
      (Nat.le_refl _) hmonth'.1
    omega
  · have hlast := @daysBefore_month_mono time.year (time.month + 1) time'.month
      (by omega) hmonths
    rw [← hyear]
    omega
  · rw [← hyear, ← hmonths]
    omega

/-! ## Instants -/

def Before (time time' : CivilTime) : Prop :=
  time.year < time'.year ∨ time.year = time'.year ∧
    (time.month < time'.month ∨ time.month = time'.month ∧
      (time.day < time'.day ∨ time.day = time'.day ∧
        (time.hour < time'.hour ∨ time.hour = time'.hour ∧
          (time.minute < time'.minute ∨ time.minute = time'.minute ∧
            time.second < time'.second))))

theorem instant_lt (h : time.IsDate) (h' : time'.IsDate) (hbefore : time.Before time') :
    time.instant < time'.instant := by
  have hhour := h.hour
  have hminute := h.minute
  have hsecond := h.second
  have hsecond' := h'.second
  have hdays : time.days < time'.days ∨ time.days = time'.days ∧
      (time.hour < time'.hour ∨ time.hour = time'.hour ∧
        (time.minute < time'.minute ∨ time.minute = time'.minute ∧
          time.second < time'.second)) := by
    rcases hbefore with hlt | ⟨hyear, hlt | ⟨hmonth, hlt | ⟨hday, hrest⟩⟩⟩
    · exact .inl (days_lt h h' (.inl hlt))
    · exact .inl (days_lt h h' (.inr ⟨hyear, .inl hlt⟩))
    · exact .inl (days_lt h h' (.inr ⟨hyear, .inr ⟨hmonth, hlt⟩⟩))
    · refine .inr ⟨?_, hrest⟩
      rw [days, days, hyear, hmonth, hday]
  unfold instant secondsOf
  split <;> split <;> omega

/-! ## Texts -/

theorem digitsValue_cons (c : Char) (cs : List Char) : digitsValue (c :: cs)
      = 10 ^ cs.length * (c.toNat - '0'.toNat) + digitsValue cs := by
  unfold digitsValue
  rw [Nat.ofDigitChars_cons, Nat.ofDigitChars_eq_ofDigitChars_zero,
    Nat.mul_zero, Nat.zero_add]

theorem toNat_of_isAsciiDigit (h : isAsciiDigit c = true) :
    48 ≤ c.toNat ∧ c.toNat ≤ 57 := by
  simp only [isAsciiDigit, and_eq_true, decide_eq_true_eq] at h
  exact h

theorem digitsValue_lt_pow (h : ∀ c ∈ cs, isAsciiDigit c = true) :
    digitsValue cs < 10 ^ cs.length :=
  ofDigitChars_lt h

theorem digitsValue_lt (hlength : cs.length = ds.length)
    (hcs : ∀ c ∈ cs, isAsciiDigit c = true)
    (hds : ∀ c ∈ ds, isAsciiDigit c = true) (h : cs < ds) :
    digitsValue cs < digitsValue ds := by
  induction cs generalizing ds with
  | nil =>
    cases ds with
    | nil => exact absurd h (List.lt_irrefl _)
    | cons d ds => simp at hlength
  | cons c cs ih =>
    cases ds with
    | nil => simp at hlength
    | cons d ds =>
      simp only [length_cons, Nat.add_right_cancel_iff] at hlength
      rw [forall_mem_cons] at hcs hds
      rw [digitsValue_cons, digitsValue_cons, hlength]
      rw [List.cons_lt_cons_iff] at h
      cases h with
      | inl hlt =>
        have hchar : c.toNat < d.toNat := hlt
        have hdigit := toNat_of_isAsciiDigit hcs.1
        have hrest := digitsValue_lt_pow hcs.2
        have hzero : '0'.toNat = 48 := rfl
        have hmul : 10 ^ ds.length * (c.toNat - '0'.toNat + 1)
            ≤ 10 ^ ds.length * (d.toNat - '0'.toNat) :=
          Nat.mul_le_mul_left _ (by omega)
        rw [Nat.mul_add, Nat.mul_one] at hmul
        rw [hlength] at hrest
        omega
      | inr heq =>
        obtain ⟨rfl, hlt⟩ := heq
        have := ih hlength hcs.2 hds.2 hlt
        omega

theorem append_lt_append {left right : List Char}
    (hlength : left.length = right.length) (h : left ++ rest < right ++ rest') :
    left < right ∨ left = right ∧ rest < rest' := by
  induction left generalizing right with
  | nil =>
    cases right with
    | nil => exact .inr ⟨rfl, h⟩
    | cons d right => simp at hlength
  | cons c left ih =>
    cases right with
    | nil => simp at hlength
    | cons d right =>
      simp only [length_cons, Nat.add_right_cancel_iff] at hlength
      rw [cons_append, cons_append, List.cons_lt_cons_iff] at h
      rw [List.cons_lt_cons_iff]
      cases h with
      | inl hlt => exact .inl (.inl hlt)
      | inr heq =>
        obtain ⟨rfl, hlt⟩ := heq
        cases ih hlength hlt with
        | inl hleft => exact .inl (.inr ⟨rfl, hleft⟩)
        | inr hrest => exact .inr ⟨by rw [hrest.1], hrest.2⟩

theorem cons_lt_of_cons_lt (h : c :: rest < c :: rest') : rest < rest' := by
  rw [List.cons_lt_cons_iff] at h
  cases h with
  | inl hlt => exact absurd hlt (Char.lt_irrefl c)
  | inr heq => exact heq.2

structure IsField (cs : List Char) (start width : Nat) : Prop where
  length : (field cs start width).length = width
  digits : ∀ c ∈ field cs start width, isAsciiDigit c = true

theorem field_lt {start width : Nat} (hcs : IsField cs start width)
    (hds : IsField ds start width) (h : field cs start width < field ds start width) :
    digitsValue (field cs start width) < digitsValue (field ds start width) :=
  digitsValue_lt (hcs.length.trans hds.length.symm) hcs.digits hds.digits h

structure Shaped (cs : List Char) : Prop where
  split : cs = field cs 0 4 ++ '-' :: (field cs 5 2 ++ '-' ::
    (field cs 8 2 ++ 'T' :: (field cs 11 2 ++ ':' :: (field cs 14 2 ++ ':' ::
      (field cs 17 2 ++ ['Z'])))))
  year : IsField cs 0 4
  month : IsField cs 5 2
  day : IsField cs 8 2
  hour : IsField cs 11 2
  minute : IsField cs 14 2
  second : IsField cs 17 2

theorem shaped_of_hasCanonicalShape (h : hasCanonicalShape cs = true) : Shaped cs := by
  have hlength : cs.length = 20 := by
    simp only [hasCanonicalShape, and_eq_true, beq_iff_eq] at h
    exact h.1
  match cs, hlength with
  | [y1, y2, y3, y4, c4, m1, m2, c7, d1, d2, c10, h1, h2, c13, n1, n2, c16, s1,
      s2, c19], _ =>
    simp only [hasCanonicalShape, List.zipIdx, List.all_cons, List.all_nil,
      and_eq_true, Bool.and_true] at h
    norm_num at h
    obtain ⟨hy1, hy2, hy3, hy4, rfl, hm1, hm2, rfl, hd1, hd2, rfl, hh1, hh2,
      rfl, hn1, hn2, rfl, hs1, hs2, rfl⟩ := h
    refine ⟨rfl, ⟨rfl, ?_⟩, ⟨rfl, ?_⟩, ⟨rfl, ?_⟩, ⟨rfl, ?_⟩, ⟨rfl, ?_⟩, ⟨rfl, ?_⟩⟩
    · simp [field, hy1, hy2, hy3, hy4]
    · simp [field, hm1, hm2]
    · simp [field, hd1, hd2]
    · simp [field, hh1, hh2]
    · simp [field, hn1, hn2]
    · simp [field, hs1, hs2]

theorem before_of_lt (hcs : Shaped cs) (hds : Shaped ds) (h : cs < ds)
    : (ofChars cs).Before (ofChars ds) := by
  rw [hcs.split, hds.split] at h
  have hlengths : ∀ {start width : Nat}, IsField cs start width →
      IsField ds start width →
        (field cs start width).length = (field ds start width).length :=
    fun hc hd => hc.length.trans hd.length.symm
  unfold Before ofChars
  dsimp only
  cases append_lt_append (hlengths hcs.year hds.year) h with
  | inl hyear => exact .inl (field_lt hcs.year hds.year hyear)
  | inr hrest =>
    refine .inr ⟨congrArg digitsValue hrest.1, ?_⟩
    cases append_lt_append (hlengths hcs.month hds.month)
      (cons_lt_of_cons_lt hrest.2) with
    | inl hmonth => exact .inl (field_lt hcs.month hds.month hmonth)
    | inr hrest =>
      refine .inr ⟨congrArg digitsValue hrest.1, ?_⟩
      cases append_lt_append (hlengths hcs.day hds.day)
        (cons_lt_of_cons_lt hrest.2) with
      | inl hday => exact .inl (field_lt hcs.day hds.day hday)
      | inr hrest =>
        refine .inr ⟨congrArg digitsValue hrest.1, ?_⟩
        cases append_lt_append (hlengths hcs.hour hds.hour)
          (cons_lt_of_cons_lt hrest.2) with
        | inl hhour => exact .inl (field_lt hcs.hour hds.hour hhour)
        | inr hrest =>
          refine .inr ⟨congrArg digitsValue hrest.1, ?_⟩
          cases append_lt_append (hlengths hcs.minute hds.minute)
            (cons_lt_of_cons_lt hrest.2) with
          | inl hminute =>
            exact .inl (field_lt hcs.minute hds.minute hminute)
          | inr hrest =>
            refine .inr ⟨congrArg digitsValue hrest.1, ?_⟩
            cases append_lt_append (hlengths hcs.second hds.second)
              (cons_lt_of_cons_lt hrest.2) with
            | inl hsecond =>
              exact field_lt hcs.second hds.second hsecond
            | inr hrest =>
              exact absurd hrest.2 (List.lt_irrefl _)

end CivilTime

variable {left right : String} {instant' : Int}

theorem instant_lt_of_lt {instant : Int} (hleft : parseUtc left = some instant)
    (hright : parseUtc right = some instant') (h : left < right) :
    instant < instant' := by
  obtain ⟨hshape, hdate, rfl⟩ := CivilTime.instant_of_parseUtc hleft
  obtain ⟨hshape', hdate', rfl⟩ := CivilTime.instant_of_parseUtc hright
  apply CivilTime.instant_lt hdate hdate'
  exact CivilTime.before_of_lt (CivilTime.shaped_of_hasCanonicalShape hshape)
    (CivilTime.shaped_of_hasCanonicalShape hshape') (String.lt_iff.mp h)

theorem lt_iff_instant_lt {instant : Int} (hleft : parseUtc left = some instant)
    (hright : parseUtc right = some instant') : left < right ↔ instant < instant' := by
  constructor
  · exact instant_lt_of_lt hleft hright
  · intro hlt
    rcases lt_trichotomy left right with hless | rfl | hmore
    · exact hless
    · rw [hleft] at hright
      obtain rfl := Option.some.inj hright
      exact absurd hlt (lt_irrefl _)
    · have := instant_lt_of_lt hright hleft hmore
      omega

def instantOf (time : String) : Int := (parseUtc time).getD 0

theorem parseUtc_eq_instantOf {time : String} (h : isUtcTimestamp time = true) :
    parseUtc time = some (instantOf time) := by
  have hsome := parseUtc_isSome h
  rw [isSome_iff_exists] at hsome
  cases hsome with
  | intro instant hinstant => simp [instantOf, hinstant]

theorem lt_iff_instantOf_lt (hleft : isUtcTimestamp left = true)
    (hright : isUtcTimestamp right = true) :
    left < right ↔ instantOf left < instantOf right :=
  lt_iff_instant_lt (parseUtc_eq_instantOf hleft) (parseUtc_eq_instantOf hright)

theorem le_iff_instantOf_le (hleft : isUtcTimestamp left = true)
    (hright : isUtcTimestamp right = true) :
    left ≤ right ↔ instantOf left ≤ instantOf right := by
  rw [← not_lt, lt_iff_instantOf_lt hright hleft, not_lt]

end Follon.Domain
