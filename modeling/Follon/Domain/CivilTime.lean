import Follon.Domain.Market
import Follon.Domain.Timestamps

/-!
# Timestamps written out

The text of an instant of whole seconds, which reads back as the instant.
-/

namespace Follon.Domain

open Foundation

def civilYear (days : Nat) : Nat :=
  Nat.findGreatest (fun year => daysBefore year 1 ≤ days) (days / 365)

def civilMonth (year days : Nat) : Nat :=
  Nat.findGreatest (fun month => 1 ≤ month ∧ daysBefore year month ≤ days) 12

/-- `format(&Rfc3339)` of whole seconds since the start of year 0. -/
def formatUtc (seconds : Nat) : String :=
  let days := seconds / 86400
  let year := civilYear days
  let month := civilMonth year days
  padded 4 year ++ "-" ++ padded 2 month ++ "-" ++
    padded 2 (days - daysBefore year month + 1) ++ "T" ++
    padded 2 (seconds % 86400 / 3600) ++ ":" ++
    padded 2 (seconds % 3600 / 60) ++ ":" ++ padded 2 (seconds % 60) ++ "Z"

/-! ## The civil date -/

theorem le_daysBefore (year : Nat) : 365 * year ≤ daysBefore year 1 := by
  rw [CivilTime.daysBefore_first]
  omega

theorem daysBefore_civilYear_le (days : Nat) : daysBefore (civilYear days) 1 ≤ days := by
  apply Nat.findGreatest_spec (P := fun year => daysBefore year 1 ≤ days)
    (Nat.zero_le _)
  exact Nat.zero_le days

theorem lt_daysBefore_succ_civilYear (days : Nat) :
    days < daysBefore (civilYear days + 1) 1 := by
  by_cases hlimit : civilYear days + 1 ≤ days / 365
  · have hnot := Nat.findGreatest_is_greatest (Nat.lt_succ_self _) hlimit
    change ¬daysBefore (civilYear days + 1) 1 ≤ days at hnot
    omega
  · have hyears := le_daysBefore (civilYear days + 1)
    omega

theorem civilMonth_spec {year days : Nat} (h : daysBefore year 1 ≤ days)
    (h' : days < daysBefore (year + 1) 1) :
    (1 ≤ civilMonth year days ∧ civilMonth year days ≤ 12) ∧
      daysBefore year (civilMonth year days) ≤ days ∧
      days < daysBefore year (civilMonth year days)
        + daysInMonth year (civilMonth year days) := by
  have hspec := Nat.findGreatest_spec
    (P := fun month => 1 ≤ month ∧ daysBefore year month ≤ days)
    (show 1 ≤ 12 by decide) ⟨Nat.le_refl 1, h⟩
  have hle := @Nat.findGreatest_le
    (fun month => 1 ≤ month ∧ daysBefore year month ≤ days) _ 12
  change 1 ≤ civilMonth year days ∧ daysBefore year (civilMonth year days)
    ≤ days at hspec
  change civilMonth year days ≤ 12 at hle
  refine ⟨⟨hspec.1, hle⟩, hspec.2, ?_⟩
  rw [← CivilTime.daysBefore_succ_month hspec.1]
  by_cases hlast : civilMonth year days = 12
  · rw [CivilTime.daysBefore_succ_year] at h'
    rw [hlast]
    exact h'
  · have hnot := Nat.findGreatest_is_greatest
      (P := fun month => 1 ≤ month ∧ daysBefore year month ≤ days)
      (Nat.lt_succ_self (civilMonth year days)) (by omega)
    simp only [not_and, not_le] at hnot
    exact hnot (by omega)

/-! ## Reading the text back -/

theorem zeroPadded_two {n : Nat} (h : n < 100) :
    ∃ a b, zeroPadded 2 n = [a, b] ∧ isAsciiDigit a = true ∧
      isAsciiDigit b = true ∧ digitsValue [a, b] = n := by
  have hlength : (zeroPadded 2 n).length = 2 := length_zeroPadded (by decide) h
  have hvalue := ofDigitChars_zeroPadded 2 n
  have hdigits : ∀ c ∈ zeroPadded 2 n, isAsciiDigit c = true :=
    fun c hc => isAsciiDigit_of_mem_zeroPadded hc
  match hcs : zeroPadded 2 n, hlength with
  | [a, b], _ =>
    rw [hcs] at hvalue hdigits
    exact ⟨a, b, rfl, hdigits a (by simp), hdigits b (by simp), hvalue⟩

theorem zeroPadded_four {n : Nat} (h : n < 10000) :
    ∃ a b c d, zeroPadded 4 n = [a, b, c, d] ∧ isAsciiDigit a = true ∧
      isAsciiDigit b = true ∧ isAsciiDigit c = true ∧ isAsciiDigit d = true ∧
      digitsValue [a, b, c, d] = n := by
  have hlength : (zeroPadded 4 n).length = 4 := length_zeroPadded (by decide) h
  have hvalue := ofDigitChars_zeroPadded 4 n
  have hdigits : ∀ c ∈ zeroPadded 4 n, isAsciiDigit c = true :=
    fun c hc => isAsciiDigit_of_mem_zeroPadded hc
  match hcs : zeroPadded 4 n, hlength with
  | [a, b, c, d], _ =>
    rw [hcs] at hvalue hdigits
    exact ⟨a, b, c, d, rfl, hdigits a (by simp), hdigits b (by simp),
      hdigits c (by simp), hdigits d (by simp), hvalue⟩

theorem parseUtc_fields {year month day hour minute second : Nat}
    (hyear : year < 10000) (hmonth : 1 ≤ month ∧ month ≤ 12)
    (hday : 1 ≤ day ∧ day ≤ daysInMonth year month) (hhour : hour ≤ 23)
    (hminute : minute ≤ 59) (hsecond : second < 60) :
    parseUtc (padded 4 year ++ "-" ++ padded 2 month ++ "-" ++ padded 2 day ++
        "T" ++ padded 2 hour ++ ":" ++ padded 2 minute ++ ":" ++
        padded 2 second ++ "Z")
      = some ((((((daysBefore year month + day - 1) * 24 + hour) * 60 + minute)
          * 60 + second : Nat) : Int) * 1000000000) := by
  have hdays : daysInMonth year month ≤ 31 := by
    unfold daysInMonth
    split
    · split <;> omega
    all_goals omega
  obtain ⟨y1, y2, y3, y4, hys, hy1, hy2, hy3, hy4, hyv⟩ := zeroPadded_four hyear
  obtain ⟨m1, m2, hms, hm1, hm2, hmv⟩ := @zeroPadded_two month (by omega)
  obtain ⟨d1, d2, hds, hd1, hd2, hdv⟩ := @zeroPadded_two day (by omega)
  obtain ⟨h1, h2, hhs, hh1, hh2, hhv⟩ := @zeroPadded_two hour (by omega)
  obtain ⟨n1, n2, hns, hn1, hn2, hnv⟩ := @zeroPadded_two minute (by omega)
  obtain ⟨s1, s2, hss, hs1, hs2, hsv⟩ := @zeroPadded_two second (by omega)
  have hlist : (padded 4 year ++ "-" ++ padded 2 month ++ "-" ++ padded 2 day ++
      "T" ++ padded 2 hour ++ ":" ++ padded 2 minute ++ ":" ++
      padded 2 second ++ "Z").toList
        = [y1, y2, y3, y4, '-', m1, m2, '-', d1, d2, 'T', h1, h2, ':', n1, n2,
          ':', s1, s2, 'Z'] := by
    simp only [padded, hys, hms, hds, hhs, hns, hss, toList_append,
      toList_ofList]
    rfl
  have hshape : hasCanonicalShape [y1, y2, y3, y4, '-', m1, m2, '-', d1, d2,
      'T', h1, h2, ':', n1, n2, ':', s1, s2, 'Z'] = true := by
    simp only [hasCanonicalShape, List.zipIdx, List.all_cons, List.all_nil,
      hy1, hy2, hy3, hy4, hm1, hm2, hd1, hd2, hh1, hh2, hn1, hn2, hs1, hs2]
    norm_num
  unfold parseUtc
  rw [hlist]
  dsimp only
  rw [if_pos hshape]
  simp only [List.drop, List.take, hyv, hmv, hdv, hhv, hnv, hsv]
  rw [if_neg (by omega), if_pos hsecond]

theorem parseUtc_formatUtc {seconds : Nat} (h : civilYear (seconds / 86400) < 10000) :
    parseUtc (formatUtc seconds) = some ((seconds : Int) * 1000000000) := by
  have hyear := daysBefore_civilYear_le (seconds / 86400)
  have hyear' := lt_daysBefore_succ_civilYear (seconds / 86400)
  have hmonth := civilMonth_spec hyear hyear'
  unfold formatUtc
  dsimp only
  generalize civilYear (seconds / 86400) = year at *
  generalize civilMonth year (seconds / 86400) = month at *
  rw [parseUtc_fields h hmonth.1 (by omega) (by omega) (by omega) (by omega)]
  congr 3
  omega

end Follon.Domain
