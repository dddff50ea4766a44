import Follon.Backtest.Dataset
import Follon.Foundation.PeakLosses

/-!
# The reported drawdown

The report follows the highest valuation so far.  A fall to zero or above is
worst from there.  A fall below zero can be larger, in basis points, from a
smaller positive valuation, and the report does not look at it.
-/

namespace Follon.Backtest

open Domain Foundation

/-! ## Falls between two valuations -/

/-- `(p - q) * 10000 / p`, truncated as the checked operations do. -/
def fallBps (p q : Decimal) : Int :=
  ((p.scaled - q.scaled) * 10000 * Decimal.scale).tdiv p.scaled

structure Fall (valuations before : List Decimal) (p q : Decimal) : Prop where
  later : before ++ [q] <+: valuations
  earlier : p ∈ before
  positive : Decimal.zero < p
  lower : q < p

def falls (valuations : List Decimal) : Set Int :=
  {bps | ∃ before p q, Fall valuations before p q ∧ fallBps p q = bps}

def CountsFrom (before : List Decimal) (p q : Decimal) : Prop :=
  q < Decimal.zero → ∀ r ∈ before, r ≤ p

def peakFalls (valuations : List Decimal) : Set Int :=
  {bps | ∃ before p q, Fall valuations before p q ∧
    CountsFrom before p q ∧ fallBps p q = bps}

theorem peakFalls_eq_falls {valuations : List Decimal}
    (h : ∀ q ∈ valuations, Decimal.zero ≤ q) :
    peakFalls valuations = falls valuations := by
  ext bps
  constructor
  · rintro ⟨before, p, q, hfall, -, hbps⟩
    exact ⟨before, p, q, hfall, hbps⟩
  · rintro ⟨before, p, q, hfall, hbps⟩
    have hq : q ∈ valuations :=
      hfall.later.subset (mem_append_right _ (List.mem_singleton_self q))
    exact ⟨before, p, q, hfall,
      fun hnegative => absurd (h q hq) (Int.not_le.mpr hnegative), hbps⟩

variable {peak basisPoints startingEquity : Decimal}
  {acc acc' : Decimal × Decimal} {equityCurve : List EquityPoint}

theorem fallBps_mono {p q : Decimal} (hq : Decimal.zero ≤ q) (hqp : q < p)
    (hpeak : p ≤ peak) : fallBps p q ≤ fallBps peak q := by
  rw [le_def] at hq hpeak
  rw [lt_def] at hqp
  rw [scaled_zero] at hq
  unfold fallBps
  generalize p.scaled = p, peak.scaled = peak, q.scaled = q at *
  have hp : 0 < p := by omega
  have hpeak0 : 0 < peak := by omega
  have hscale : (0 : Int) ≤ 10000 * Decimal.scale := by decide
  rw [Int.mul_assoc, Int.mul_assoc,
    Int.tdiv_eq_ediv_of_nonneg (Int.mul_nonneg (by omega) hscale),
    Int.tdiv_eq_ediv_of_nonneg (Int.mul_nonneg (by omega) hscale)]
  generalize 10000 * Decimal.scale = k at hscale
  generalize ha : (p - q) * k / p = a
  have hfits : a * p ≤ (p - q) * k := by
    rw [← ha]
    exact Int.ediv_mul_le _ (by omega)
  have hak : a ≤ k := by
    have hbelow : (p - q) * k ≤ k * p := by nlinarith
    exact Int.le_of_mul_le_mul_right (hfits.trans hbelow) hp
  apply Int.le_ediv_of_mul_le hpeak0
  calc a * peak = a * p + a * (peak - p) := by ring
    _ ≤ (p - q) * k + k * (peak - p) :=
        Int.add_le_add hfits (Int.mul_le_mul_of_nonneg_right hak (by omega))
    _ = (peak - q) * k := by ring

/-! ## The pass over the curve -/

@[reducible] def decimalOrder : LinearOrder Decimal where
  le_refl a := Int.le_refl a.scaled
  le_trans _ _ _ := Int.le_trans
  le_antisymm _ _ hab hba := Decimal.ext (Int.le_antisymm hab hba)
  le_total a b := Int.le_total a.scaled b.scaled
  lt_iff_le_not_ge a b := by
    change a.scaled < b.scaled ↔ a.scaled ≤ b.scaled ∧ ¬b.scaled ≤ a.scaled
    omega
  toDecidableLE := inferInstance
  toDecidableLT := inferInstance

attribute [local instance] decimalOrder

def valuations (startingEquity : Decimal) (equityCurve : List EquityPoint) :
    List Decimal :=
  startingEquity :: equityCurve.map EquityPoint.totalEquity

def FallsFrom (peak value : Decimal) : Prop := Decimal.zero < peak ∧ value < peak

instance : DecidableRel FallsFrom :=
  fun peak value =>
    inferInstanceAs (Decidable (Decimal.zero < peak ∧ value < peak))

theorem scaled_of_drawdownBps {value d : Decimal}
    (hbasis : basisPoints.scaled = 10000 * Decimal.scale)
    (h : PerformanceReport.drawdownBps basisPoints peak value = .ok d) :
    d.scaled = fallBps peak value := by
  simp only [PerformanceReport.drawdownBps, bind_eq_ok,
    checkedSub_eq_ok] at h
  obtain ⟨fallen, hfallen, scaled, hscaled, hd⟩ := h
  rw [(scaled_of_checkedDiv hd).2, scaled_of_checkedMul hscaled, hfallen, hbasis,
    ← Int.mul_assoc, Int.mul_tdiv_cancel _ (by decide)]
  rfl

theorem trackDrawdown_eq {point : EquityPoint}
    (hbasis : basisPoints.scaled = 10000 * Decimal.scale)
    (h : PerformanceReport.trackDrawdown basisPoints acc point = .ok acc') :
    (acc'.1, acc'.2.scaled) = PeakLosses.track FallsFrom fallBps (acc.1, acc.2.scaled)
        point.totalEquity := by
  have hpeak : max acc.1 point.totalEquity =
      if acc.1 < point.totalEquity then point.totalEquity else acc.1 :=
    max_def_lt _ _
  simp only [PerformanceReport.trackDrawdown, ← hpeak] at h
  simp only [PeakLosses.track]
  generalize max acc.1 point.totalEquity = peak at h
  split at h
  · next hfalls =>
      simp only [bind_eq_ok] at h
      obtain ⟨drawdown, hdrawdown, hacc⟩ := h
      obtain rfl := Except.ok.inj hacc
      rw [if_pos (show FallsFrom peak point.totalEquity from hfalls),
        Decimal.scaled_max, scaled_of_drawdownBps hbasis hdrawdown]
  · next hfalls =>
      obtain rfl := Except.ok.inj h
      rw [if_neg (show ¬FallsFrom peak point.totalEquity from hfalls)]

theorem foldlM_trackDrawdown_eq {points : List EquityPoint}
    (hbasis : basisPoints.scaled = 10000 * Decimal.scale)
    (h : points.foldlM (PerformanceReport.trackDrawdown basisPoints) acc =
      .ok acc') : (acc'.1, acc'.2.scaled) =
      (points.map EquityPoint.totalEquity).foldl
        (PeakLosses.track FallsFrom fallBps) (acc.1, acc.2.scaled) := by
  induction points generalizing acc with
  | nil =>
    obtain rfl := Except.ok.inj h
    rfl
  | cons point points ih =>
    simp only [foldlM_cons, bind_eq_ok] at h
    obtain ⟨next, hnext, hrest⟩ := h
    rw [ih hrest, trackDrawdown_eq hbasis hnext]
    rfl

theorem isGreatest_losses {events trades actions : Nat} {report : PerformanceReport}
    (h : PerformanceReport.fromEquityCurve startingEquity equityCurve events
      trades actions = .ok report) :
    IsGreatest (insert 0 (PeakLosses.losses FallsFrom fallBps startingEquity
        (equityCurve.map EquityPoint.totalEquity)))
      report.maxDrawdownBps.scaled := by
  simp only [PerformanceReport.fromEquityCurve, bind_eq_ok] at h
  obtain ⟨_, -, basisPoints, hbasis, _, -, tracked, htracked, h⟩ := h
  obtain rfl := Except.ok.inj h
  have hworst : tracked.2.scaled = _ := congrArg Prod.snd
    (foldlM_trackDrawdown_eq (checked_eq_ok.mp hbasis) htracked)
  rw [hworst]
  exact PeakLosses.isGreatest_track FallsFrom fallBps startingEquity 0
    (equityCurve.map EquityPoint.totalEquity)

/-! ## The reported figure -/

theorem losses_subset_peakFalls (startingEquity : Decimal)
    (equityCurve : List EquityPoint) : PeakLosses.losses FallsFrom fallBps startingEquity
        (equityCurve.map EquityPoint.totalEquity) ⊆
      peakFalls (valuations startingEquity equityCurve) := by
  rintro bps ⟨before, value, hbegins, ⟨hpositive, hlower⟩, hbps⟩
  have hpeak : PeakLosses.highest startingEquity (before ++ [value]) =
      PeakLosses.highest startingEquity before := by
    rw [PeakLosses.highest_concat] at hlower ⊢
    rcases lt_max_iff.mp hlower with hbelow | hself
    · exact max_eq_left hbelow.le
    · exact absurd hself (lt_irrefl _)
  rw [hpeak] at hpositive hlower hbps
  refine ⟨startingEquity :: before, _, value, ⟨List.cons_prefix_cons.mpr ⟨rfl, hbegins⟩,
      PeakLosses.highest_mem startingEquity before, hpositive, hlower⟩,
    fun _ => PeakLosses.le_highest startingEquity before, hbps⟩

theorem peakFalls_le_losses {bps : Int}
    (h : bps ∈ peakFalls (valuations startingEquity equityCurve)) :
    ∃ l ∈ PeakLosses.losses FallsFrom fallBps startingEquity
      (equityCurve.map EquityPoint.totalEquity), bps ≤ l := by
  obtain ⟨before, p, q, ⟨hlater, hearlier, hpositive, hlower⟩, hcounts, rfl⟩ := h
  cases before with
  | nil => simp at hearlier
  | cons first before =>
    obtain ⟨rfl, hbegins⟩ := List.cons_prefix_cons.mp hlater
    have hp := PeakLosses.le_highest first before p hearlier
    have hq : q < PeakLosses.highest first before := lt_of_lt_of_le hlower hp
    have hpeak : PeakLosses.highest first (before ++ [q]) =
        PeakLosses.highest first before := by
      rw [PeakLosses.highest_concat]
      exact max_eq_left hq.le
    refine ⟨_, ⟨before, q, hbegins, ?_, rfl⟩, ?_⟩
    · rw [hpeak]
      exact ⟨lt_of_lt_of_le hpositive hp, hq⟩
    · rw [hpeak]
      by_cases hnegative : q < Decimal.zero
      · have htop := hcounts hnegative _ (PeakLosses.highest_mem first before)
        rw [le_antisymm hp htop]
      · exact fallBps_mono (not_lt.mp hnegative) hlower hp

theorem maxDrawdownBps_isGreatest {startingEquity : Decimal}
    {equityCurve : List EquityPoint} {events trades actions : Nat}
    {report : PerformanceReport}
    (h : PerformanceReport.fromEquityCurve startingEquity equityCurve events
      trades actions = .ok report) : IsGreatest
        (insert 0 (peakFalls (valuations startingEquity equityCurve)))
        report.maxDrawdownBps.scaled ∧
      ((∀ q ∈ valuations startingEquity equityCurve, Decimal.zero ≤ q) →
        IsGreatest (insert 0 (falls (valuations startingEquity equityCurve)))
          report.maxDrawdownBps.scaled) := by
  obtain ⟨hmem, hupper⟩ := isGreatest_losses h
  have hgreatest : IsGreatest
      (insert 0 (peakFalls (valuations startingEquity equityCurve)))
      report.maxDrawdownBps.scaled := by
    constructor
    · exact Set.insert_subset_insert
        (losses_subset_peakFalls startingEquity equityCurve) hmem
    · rintro bps (rfl | hbps)
      · exact hupper (Set.mem_insert _ _)
      · obtain ⟨l, hl, hle⟩ := peakFalls_le_losses hbps
        exact hle.trans (hupper (Set.mem_insert_of_mem _ hl))
  exact ⟨hgreatest, fun hnonneg => peakFalls_eq_falls hnonneg ▸ hgreatest⟩

def units (value : Int) (h : i128Min ≤ value * Decimal.scale ∧
    value * Decimal.scale ≤ i128Max) : Decimal :=
  ⟨value * Decimal.scale, h.1, h.2⟩

def overdrawnCurve : List EquityPoint :=
  [⟨"2026-01-01T00:00:00Z", units 2 (by decide)⟩,
    ⟨"2026-01-02T00:00:00Z", units (-1) (by decide)⟩]

theorem maxDrawdownBps_isGreatest_overdrawn :
    ∃ report, PerformanceReport.fromEquityCurve (units 1 (by decide))
        overdrawnCurve 2 0 0 = .ok report ∧
      IsGreatest (insert 0
        (peakFalls (valuations (units 1 (by decide)) overdrawnCurve)))
        report.maxDrawdownBps.scaled := by
  obtain ⟨report, hreport⟩ : ∃ report, PerformanceReport.fromEquityCurve
      (units 1 (by decide)) overdrawnCurve 2 0 0 = .ok report := ⟨_, rfl⟩
  exact ⟨report, hreport, (maxDrawdownBps_isGreatest hreport).1⟩

/-- From one to minus one is twenty thousand basis points; the report says
fifteen thousand. -/
theorem falls_exceed_maxDrawdownBps :
    ∃ report, PerformanceReport.fromEquityCurve (units 1 (by decide))
        overdrawnCurve 2 0 0 = .ok report ∧
      report.maxDrawdownBps = units 15000 (by decide) ∧
      ¬IsGreatest (insert 0
        (falls (valuations (units 1 (by decide)) overdrawnCurve)))
        report.maxDrawdownBps.scaled := by
  refine ⟨_, rfl, by decide, ?_⟩
  rintro ⟨-, hupper⟩
  have hfall : fallBps (units 1 (by decide)) (units (-1) (by decide)) ∈
      insert 0 (falls (valuations (units 1 (by decide)) overdrawnCurve)) :=
    Or.inr ⟨[units 1 (by decide), units 2 (by decide)], _, _,
      ⟨⟨[], rfl⟩, mem_cons_self, by decide, by decide⟩, rfl⟩
  exact absurd (hupper hfall) (by decide)

end Follon.Backtest
