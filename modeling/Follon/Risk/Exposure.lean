import Follon.Foundation.MapTotals
import Follon.Risk.Kernel
import Mathlib.Algebra.Order.BigOperators.Group.List

/-!
# Exposure of a book

The metrics the kernel computes from exposure rows, as sums over the rows.
-/

namespace Follon.Risk

open Foundation Domain

/-! ## Checked helpers -/

variable {d : Decimal} {rows : List RiskPosition} {sums : ExposureSums}
  {metrics : AggregateRiskMetrics} {policy : PortfolioRiskPolicy}
  {snapshot : PortfolioRiskSnapshot}

variable {value : Decimal} {part whole : Int}
  {buckets : OrderedMap String Decimal} {sums' : ExposureSums}
  {rows' : List RiskPosition} {acc acc' : List RiskPosition × List String}
  {candidates : List CandidateOrder}

theorem negate_eq_ok : negate value = .ok d ↔ d.scaled = -value.scaled := checked_eq_ok

theorem absolute_eq_ok : absolute value = .ok d ↔ d.scaled = |value.scaled| := by
  unfold absolute
  split
  · next h =>
      rw [le_def, scaled_zero] at h
      rw [abs_of_nonneg h, Except.ok.injEq]
      exact ⟨fun h => by rw [h], fun h => (Decimal.ext h).symm⟩
  · next h =>
      rw [le_def, scaled_zero, not_le] at h
      rw [abs_of_neg h, negate_eq_ok]

theorem scaled_tenThousand :
    Decimal.fromInteger 10000 = .ok ⟨1000000000000, by decide, by decide⟩ :=
  rfl

def bpsOf (part whole : Int) : Int := part * 1000000000000 / whole

theorem bpsOf_nonneg (hpart : 0 ≤ part) (hwhole : 0 ≤ whole) : 0 ≤ bpsOf part whole :=
  Int.ediv_nonneg (by omega) hwhole

theorem bpsOf_mono {part' whole' : Int} (hpart : 0 ≤ part) (hwhole : 0 < whole)
    (hwhole' : 0 < whole') (h : part * whole' ≤ part' * whole) :
    bpsOf part whole ≤ bpsOf part' whole' := by
  rw [bpsOf, bpsOf, Int.le_ediv_iff_mul_le hwhole']
  have hfloor := Int.ediv_mul_le (part * 1000000000000) hwhole.ne'
  have hnonneg : 0 ≤ part * 1000000000000 / whole := Int.ediv_nonneg (by omega) hwhole.le
  nlinarith

theorem ratioBps_eq_ok {part whole : Decimal} : ratioBps part whole = .ok d ↔
      0 ≤ part.scaled ∧ 0 < whole.scaled ∧ part.scaled * 1000000000000 ≤ i128Max ∧
          d.scaled = bpsOf part.scaled whole.scaled := by
  simp only [ratioBps, scaled_tenThousand, Decimal.checkedMul, Decimal.checkedDiv,
    bind_eq_ok, Except.ok.injEq, refuseIf_eq_ok, exists_const, checked_eq_ok, lt_def,
    le_def, scaled_zero, not_or, not_lt, not_le, exists_eq_left', Decimal.scale, bpsOf]
  have hcut : (part.scaled * 1000000000000).tdiv 100000000
      = part.scaled * 10000 := by
    rw [show part.scaled * 1000000000000 = part.scaled * 10000 * 100000000 by
      omega, Int.mul_tdiv_cancel _ (by decide)]
  constructor
  · rintro ⟨⟨hpart, hwhole⟩, cut, ⟨product, hproduct, hcut'⟩, hne, scaled, hscaled, hd⟩
    rw [hproduct, hcut] at hcut'
    have hsame : part.scaled * 10000 * 100000000
        = part.scaled * 1000000000000 := by omega
    rw [hcut', hsame] at hscaled
    refine ⟨hpart, hwhole, hscaled ▸ scaled.le_max, ?_⟩
    rw [hd, hscaled, Int.tdiv_eq_ediv_of_nonneg (by omega)]
  · rintro ⟨hpart, hwhole, hfits, hd⟩
    have hmin : i128Min ≤ 0 := by decide
    refine ⟨⟨hpart, hwhole⟩, ⟨part.scaled * 10000, by omega, by omega⟩,
      ⟨⟨part.scaled * 1000000000000, by omega, hfits⟩, rfl, hcut.symm⟩,
      hwhole.ne', ⟨part.scaled * 1000000000000, by omega, hfits⟩, ?_, ?_⟩
    · simp only
      omega
    · have hnonneg : 0 ≤ part.scaled * 1000000000000 := by omega
      rw [hd, Int.tdiv_eq_ediv_of_nonneg hnonneg]

/-! ## Rows -/

def RiskPosition.exposure (position : RiskPosition) : Int :=
  ((position.quantity.scaled * position.markPrice.scaled).tdiv Decimal.scale
    * position.multiplier.scaled).tdiv Decimal.scale

theorem RiskPosition.scaled_of_signedExposure {position : RiskPosition}
    (h : position.signedExposure = .ok d) : d.scaled = position.exposure := by
  simp only [RiskPosition.signedExposure, bind_eq_ok] at h
  obtain ⟨marked, hmarked, hd⟩ := h
  rw [scaled_of_checkedMul hd, scaled_of_checkedMul hmarked]
  rfl

section

variable (rows : List RiskPosition)

def grossOf : Int := (rows.map fun row => |row.exposure|).sum

def netOf : Int := (rows.map RiskPosition.exposure).sum

def deltaOf : Int := (rows.map fun row => row.delta.scaled).sum

def gammaOf : Int := (rows.map fun row => row.gamma.scaled).sum

def grossIn (instrumentId : String) : Int :=
  grossOf (rows.filter fun row => row.instrumentId = instrumentId)

def IsLargest (gross : Int) : Prop :=
  IsGreatest (insert 0 (Set.range (grossIn rows))) gross

end

section

variable {rows rows' : List RiskPosition}

theorem grossOf_nonneg (rows : List RiskPosition) : 0 ≤ grossOf rows :=
  List.sum_nonneg fun x hx => by
    obtain ⟨row, -, rfl⟩ := mem_map.mp hx
    exact abs_nonneg _

theorem grossIn_nonneg (rows : List RiskPosition) (instrumentId : String) :
    0 ≤ grossIn rows instrumentId :=
  grossOf_nonneg _

@[simp] theorem grossOf_append :
    grossOf (rows ++ rows') = grossOf rows + grossOf rows' := by
  simp [grossOf]

@[simp] theorem netOf_append : netOf (rows ++ rows') = netOf rows + netOf rows' := by
  simp [netOf]

@[simp] theorem deltaOf_append :
    deltaOf (rows ++ rows') = deltaOf rows + deltaOf rows' := by
  simp [deltaOf]

@[simp] theorem gammaOf_append :
    gammaOf (rows ++ rows') = gammaOf rows + gammaOf rows' := by
  simp [gammaOf]

@[simp] theorem grossIn_append (instrumentId : String) :
    grossIn (rows ++ rows') instrumentId
      = grossIn rows instrumentId + grossIn rows' instrumentId := by
  simp [grossIn]

theorem grossIn_singleton (row : RiskPosition) (instrumentId : String) :
    grossIn [row] instrumentId
      = if row.instrumentId = instrumentId then |row.exposure| else 0 := by
  by_cases h : row.instrumentId = instrumentId <;> simp [grossIn, grossOf, h]

theorem grossOf_sublist (h : rows.Sublist rows') : grossOf rows ≤ grossOf rows' := by
  induction h with
  | slnil => exact le_refl _
  | cons row _ ih =>
    have hrow := abs_nonneg row.exposure
    simp only [grossOf, map_cons, sum_cons] at ih ⊢
    omega
  | cons_cons row _ ih =>
    simp only [grossOf, map_cons, sum_cons] at ih ⊢
    omega

theorem grossIn_sublist (h : rows.Sublist rows') (instrumentId : String) :
    grossIn rows instrumentId ≤ grossIn rows' instrumentId :=
  grossOf_sublist (h.filter _)

theorem grossIn_le_grossOf (rows : List RiskPosition)
    (instrumentId : String) : grossIn rows instrumentId ≤ grossOf rows :=
  grossOf_sublist List.filter_sublist

theorem abs_netOf_le (rows : List RiskPosition) :
    |netOf rows| ≤ grossOf rows := by
  induction rows with
  | nil => simp [netOf, grossOf]
  | cons row rows ih =>
    have hadd := abs_add_le row.exposure (netOf rows)
    simp only [netOf, grossOf, map_cons, sum_cons] at ih hadd ⊢
    omega

/-- The net exposure has the size of the gross exposure exactly when no two
rows oppose each other. -/
theorem abs_netOf_eq_iff (rows : List RiskPosition) :
    |netOf rows| = grossOf rows ↔
      (∀ row ∈ rows, 0 ≤ row.exposure) ∨ ∀ row ∈ rows, row.exposure ≤ 0 := by
  constructor
  · intro h
    rcases le_total 0 (netOf rows) with hsign | hsign
    · refine .inl fun row hrow => ?_
      rw [abs_of_nonneg hsign] at h
      obtain ⟨before, after, rfl⟩ := List.append_of_mem hrow
      have hbefore := le_trans (le_abs_self _) (abs_netOf_le before)
      have hafter := le_trans (le_abs_self _) (abs_netOf_le after)
      have hrow := le_abs_self row.exposure
      simp only [netOf, grossOf, map_append, map_cons,
        List.sum_append, sum_cons] at h hbefore hafter
      rw [← abs_eq_self]
      omega
    · refine .inr fun row hrow => ?_
      rw [abs_of_nonpos hsign] at h
      obtain ⟨before, after, rfl⟩ := List.append_of_mem hrow
      have hbefore := le_trans (neg_le_abs _) (abs_netOf_le before)
      have hafter := le_trans (neg_le_abs _) (abs_netOf_le after)
      have hrow := neg_le_abs row.exposure
      simp only [netOf, grossOf, map_append, map_cons,
        List.sum_append, sum_cons] at h hbefore hafter
      rw [← abs_eq_neg_self]
      omega
  · rintro (h | h)
    · have hgross : grossOf rows = netOf rows := by
        rw [grossOf, netOf, List.map_congr_left]
        exact fun row hrow => abs_of_nonneg (h row hrow)
      rw [← hgross, abs_of_nonneg (grossOf_nonneg rows)]
    · have hgross : grossOf rows = -netOf rows := by
        rw [grossOf, netOf, List.sum_neg, map_map, List.map_congr_left]
        exact fun row hrow => abs_of_nonpos (h row hrow)
      rw [hgross, abs_of_nonpos]
      have hnonneg := grossOf_nonneg rows
      omega

theorem grossIn_of_instrument {instrumentId : String}
    (h : ∀ row ∈ rows, row.instrumentId = instrumentId) (other : String) :
    grossIn rows other = if instrumentId = other then grossOf rows else 0 := by
  by_cases hother : instrumentId = other
  · rw [if_pos hother, grossIn, List.filter_eq_self.mpr]
    exact fun row hrow => by simp [h row hrow, hother]
  · rw [if_neg hother, grossIn, List.filter_eq_nil_iff.mpr]
    · rfl
    · exact fun row hrow => by simp [h row hrow, hother]

end

/-! ## Buckets -/

def bucket (buckets : OrderedMap String Decimal) (key : String) : Int :=
  (buckets[key]?.getD Decimal.zero).scaled

theorem bucket_of_addBucket {buckets' : OrderedMap String Decimal}
    {key : String} {amount : Decimal}
    (h : addBucket buckets key amount = .ok buckets') (other : String) :
    bucket buckets' other
      = bucket buckets other + if key = other then amount.scaled else 0 := by
  simp only [addBucket, bind_eq_ok, checkedAdd_eq_ok, pure_eq_ok] at h
  obtain ⟨total, htotal, rfl⟩ := h
  simp only [bucket, getElem?_insert, Std.LawfulEqCmp.compare_eq_iff_eq]
  by_cases hkey : key = other
  · subst hkey
    simp [htotal]
  · simp [hkey]

theorem max_scaled (a b : Decimal) : (a.max b).scaled = max a.scaled b.scaled := by
  unfold Decimal.max
  split
  · next h =>
      rw [lt_def] at h
      omega
  · next h =>
      rw [lt_def] at h
      omega

theorem foldl_max (values : List Decimal) (acc : Decimal) :
    (values.foldl Decimal.max acc).scaled ∈ (acc :: values).map Decimal.scaled ∧
      ∀ value ∈ acc :: values,
        value.scaled ≤ (values.foldl Decimal.max acc).scaled := by
  induction values generalizing acc with
  | nil => simp
  | cons value values ih =>
    obtain ⟨hmem, hle⟩ := ih (acc.max value)
    have hfirst := hle _ mem_cons_self
    rw [max_scaled] at hfirst
    rw [List.foldl_cons]
    refine ⟨?_, ?_⟩
    · rw [map_cons, mem_cons, max_scaled] at hmem
      simp only [map_cons, mem_cons]
      rcases hmem with hmem | hmem
      · rcases max_choice acc.scaled value.scaled with hmax | hmax
        · exact .inl (hmem.trans hmax)
        · exact .inr (.inl (hmem.trans hmax))
      · exact .inr (.inr hmem)
    · intro other hother
      rcases mem_cons.mp hother with rfl | hother
      · omega
      rcases mem_cons.mp hother with rfl | hother
      · omega
      exact hle other (mem_cons_of_mem _ hother)

theorem maxOf_greatest {values : List Decimal} (hvalues : values ≠ []) :
    (maxOf values).scaled ∈ values.map Decimal.scaled ∧
      ∀ value ∈ values, value.scaled ≤ (maxOf values).scaled := by
  cases values with
  | nil => exact absurd rfl hvalues
  | cons value values =>
    obtain ⟨hmem, hle⟩ := foldl_max (value :: values) value
    refine ⟨?_, fun other hother => hle other (.tail _ hother)⟩
    rw [map_cons, mem_cons] at hmem
    rcases hmem with hmem | hmem
    · rw [maxOf, List.headD_cons, hmem]
      simp
    · exact hmem

theorem maxOf_values (hnonneg : ∀ key, 0 ≤ bucket buckets key) :
    IsGreatest (insert 0 (Set.range (bucket buckets)))
      (maxOf buckets.values).scaled := by
  have hbucket : ∀ value ∈ buckets.values,
      ∃ key, bucket buckets key = value.scaled := by
    intro value hvalue
    obtain ⟨key, hkey⟩ := OrderedMap.mem_values.mp hvalue
    exact ⟨key, by simp [bucket, hkey]⟩
  by_cases hempty : buckets.values = []
  · have hzero : ∀ key, bucket buckets key = 0 := by
      intro key
      cases hkey : buckets[key]? with
      | none => simp [bucket, hkey]
      | some value =>
        have hmem := OrderedMap.mem_values.mpr ⟨key, hkey⟩
        rw [hempty] at hmem
        cases hmem
    rw [hempty]
    refine ⟨Set.mem_insert _ _, ?_⟩
    rintro _ (rfl | ⟨key, rfl⟩)
    · exact le_refl _
    · exact (hzero key).le
  · obtain ⟨hmem, hle⟩ := maxOf_greatest hempty
    obtain ⟨largest, hlargest, hsame⟩ := mem_map.mp hmem
    obtain ⟨largestKey, hlargestKey⟩ := hbucket largest hlargest
    refine ⟨.inr ⟨largestKey, hlargestKey.trans hsame⟩, ?_⟩
    rintro _ (rfl | ⟨key, rfl⟩)
    · have hkey := hnonneg largestKey
      omega
    · cases hkey : buckets[key]? with
      | none =>
        have hfirst := hnonneg largestKey
        simp only [bucket, hkey, Option.getD_none, scaled_zero]
        omega
      | some value =>
        simp only [bucket, hkey, getD_some]
        exact hle value (OrderedMap.mem_values.mpr ⟨key, hkey⟩)

/-! ## What the kernel sums -/

structure SumsOver (rows : List RiskPosition) (sums : ExposureSums) :
    Prop where
  gross : sums.gross.scaled = grossOf rows
  net : sums.net.scaled = netOf rows
  delta : sums.delta.scaled = deltaOf rows
  gamma : sums.gamma.scaled = gammaOf rows
  instruments : ∀ instrumentId,
    bucket sums.instrumentGross instrumentId = grossIn rows instrumentId

def noSums : ExposureSums :=
  ⟨Decimal.zero, Decimal.zero, ∅, Decimal.zero, Decimal.zero, ∅, ∅, ∅, ∅⟩

theorem sumsOver_nil : SumsOver [] noSums :=
  ⟨rfl, rfl, rfl, rfl, fun _ => by simp [bucket, noSums, grossIn, grossOf]⟩

theorem SumsOver.step {row : RiskPosition} (hsums : SumsOver rows sums)
    (h : addExposure sums row = .ok sums') : SumsOver (rows ++ [row]) sums' := by
  simp only [addExposure, bind_eq_ok, absolute_eq_ok,
    checkedAdd_eq_ok, pure_eq_ok] at h
  obtain ⟨_, -, signed, hsigned, amount, hamount, gross, hgross, net, hnet,
    instruments, hinstruments, delta, hdelta, gamma, hgamma, _, -, _, -, _, -,
    _, -, rfl⟩ := h
  have hexposure := RiskPosition.scaled_of_signedExposure hsigned
  rw [hexposure] at hamount hnet
  refine ⟨?_, ?_, ?_, ?_, fun instrumentId => ?_⟩
  · rw [hgross, hamount, hsums.gross, grossOf_append]
    simp [grossOf]
  · rw [hnet, hsums.net, netOf_append]
    simp [netOf]
  · rw [hdelta, hsums.delta, deltaOf_append]
    simp [deltaOf]
  · rw [hgamma, hsums.gamma, gammaOf_append]
    simp [gammaOf]
  · rw [bucket_of_addBucket hinstruments, hsums.instruments, hamount,
      grossIn_append, grossIn_singleton]

theorem SumsOver.fold (hsums : SumsOver rows sums)
    (h : rows'.foldlM addExposure sums = .ok sums') : SumsOver (rows ++ rows') sums' :=
  foldlM_over (fun _ _ _ _ => SumsOver.step) hsums h

theorem SumsOver.largest (hsums : SumsOver rows sums) :
    IsLargest rows (maxOf sums.instrumentGross.values).scaled := by
  have hbuckets : bucket sums.instrumentGross = grossIn rows :=
    funext hsums.instruments
  have hnonneg : ∀ key, 0 ≤ bucket sums.instrumentGross key := fun key => by
    rw [hbuckets]; exact grossIn_nonneg rows key
  have hgreatest := maxOf_values hnonneg
  rwa [hbuckets] at hgreatest

structure MetricsOver (rows : List RiskPosition)
    (metrics : AggregateRiskMetrics) : Prop where
  gross : metrics.grossExposure.scaled = grossOf rows
  net : metrics.netExposure.scaled = netOf rows
  delta : metrics.totalDelta.scaled = deltaOf rows
  gamma : metrics.totalGamma.scaled = gammaOf rows
  concentration : ∃ largest, IsLargest rows largest ∧
    metrics.concentrationBps.scaled = bpsOf largest (grossOf rows)

def drawdownOf (equity peakEquity : Decimal) : Result Decimal :=
  if equity < peakEquity then do
    let fall ← peakEquity.checkedSub equity
    ratioBps fall peakEquity
  else
    pure Decimal.zero

def concentrationOf (sums : ExposureSums) : Result Decimal :=
  if sums.gross = Decimal.zero then pure Decimal.zero
  else ratioBps (maxOf sums.instrumentGross.values) sums.gross

theorem aggregateMetrics_eq (positions : List RiskPosition)
    (equity peakEquity marginUsed : Decimal) :
    aggregateMetrics positions equity peakEquity marginUsed = (do
      let sums ← positions.foldlM addExposure noSums
      let drawdown ← drawdownOf equity peakEquity
      let concentrationBps ← concentrationOf sums
      let possibleAbsNetExposure ← absolute sums.net
      let leverageBps ← ratioBps sums.gross equity
      let marginUtilizationBps ← ratioBps marginUsed equity
      let possibleAbsDelta ← absolute sums.delta
      let possibleAbsGamma ← absolute sums.gamma
      pure
        { grossExposure := sums.gross, netExposure := sums.net
          possibleAbsNetExposure
          leverageBps
          concentrationBps
          possibleConcentrationBps := concentrationBps
          drawdownBps := drawdown
          marginUtilizationBps
          totalDelta := sums.delta
          possibleAbsDelta
          totalGamma := sums.gamma
          possibleAbsGamma
          sectorGross := sums.sector
          assetClassGross := sums.asset
          currencyGross := sums.currency
          strategyGross := sums.strategy }) := by
  unfold aggregateMetrics
  congr 1
  funext sums
  unfold drawdownOf concentrationOf
  by_cases hfall : equity < peakEquity <;>
    by_cases hgross : sums.gross = Decimal.zero <;>
      simp only [hfall, hgross, if_true, if_false, bind_assoc]

theorem aggregateMetrics_over {equity peakEquity marginUsed : Decimal}
    (h : aggregateMetrics rows equity peakEquity marginUsed = .ok metrics) :
    MetricsOver rows metrics := by
  simp only [aggregateMetrics_eq, bind_eq_ok, pure_eq_ok] at h
  obtain ⟨sums, hfold, drawdown, -, concentration, hconcentration, _, -, _, -,
    _, -, _, -, _, -, rfl⟩ := h
  have hsums : SumsOver rows sums := sumsOver_nil.fold hfold
  refine ⟨hsums.gross, hsums.net, hsums.delta, hsums.gamma, _, hsums.largest, ?_⟩
  unfold concentrationOf at hconcentration
  split at hconcentration
  · next hzero =>
      rw [← Except.ok.inj hconcentration, ← hsums.gross, hzero]
      simp [bpsOf]
  · obtain ⟨-, -, -, hratio⟩ := ratioBps_eq_ok.mp hconcentration
    rw [← hsums.gross]
    exact hratio

theorem MetricsOver.concentration_eq {metrics' : AggregateRiskMetrics}
    (h : MetricsOver rows metrics) (h' : MetricsOver rows' metrics')
    (hgross : grossOf rows = grossOf rows') (hinstruments : ∀ instrumentId,
      grossIn rows instrumentId = grossIn rows' instrumentId) :
    metrics.concentrationBps = metrics'.concentrationBps := by
  obtain ⟨largest, hlargest, hbps⟩ := h.concentration
  obtain ⟨largest', hlargest', hbps'⟩ := h'.concentration
  rw [IsLargest, funext hinstruments] at hlargest
  apply Decimal.ext
  rw [hbps, hbps', hgross, hlargest.unique hlargest']

/-! ## Evaluations -/

def candidateRow (order : CandidateOrder) : Result RiskPosition := do
  let signedQuantity ←
    match order.side with
    | .buy => pure order.row.quantity
    | .sell => negate order.row.quantity
  pure { order.row with quantity := signedQuantity }

theorem addCandidate_eq_ok {order : CandidateOrder}
    (h : addCandidate policy snapshot acc order = .ok acc') :
    ∃ row, candidateRow order = .ok row ∧ acc'.1 = acc.1 ++ [row] := by
  unfold addCandidate at h
  unfold candidateRow
  cases hside : order.side <;>
    simp only [hside, bind_eq_ok, pure_eq_ok] at h ⊢
  · obtain ⟨_, -, quantity, hquantity, _, -, rfl⟩ := h
    exact ⟨_, ⟨quantity, hquantity, rfl⟩, rfl⟩
  · obtain ⟨_, -, quantity, hquantity, _, -, rfl⟩ := h
    exact ⟨_, ⟨quantity, hquantity, rfl⟩, rfl⟩

theorem addCandidates_eq_ok
    (h : candidates.foldlM (addCandidate policy snapshot) acc = .ok acc') :
    ∃ added, collect candidateRow candidates = .ok added ∧
      acc'.1 = acc.1 ++ added := by
  induction candidates generalizing acc with
  | nil =>
    obtain rfl := Except.ok.inj h
    exact ⟨[], rfl, by simp⟩
  | cons order candidates ih =>
    simp only [foldlM_cons, bind_eq_ok] at h
    obtain ⟨next, hnext, hrest⟩ := h
    obtain ⟨row, hrow, hrows⟩ := addCandidate_eq_ok hnext
    obtain ⟨added, hadded, hrest⟩ := ih hrest
    refine ⟨row :: added, ?_, by rw [hrest, hrows]; simp⟩
    simp only [collect, bind_eq_ok, pure_eq_ok]
    exact ⟨row, hrow, added, hadded, rfl⟩

structure Evaluated (snapshot : PortfolioRiskSnapshot)
    (candidates : List CandidateOrder) (metrics : AggregateRiskMetrics)
    (added : List RiskPosition) (base filled : AggregateRiskMetrics) :
    Prop where
  rows : collect candidateRow candidates = .ok added
  baseMetrics : aggregateMetrics (snapshot.positions ++ added) snapshot.equity
    snapshot.peakEquity snapshot.marginUsed = .ok base
  filledMetrics : aggregateMetrics
    (snapshot.positions ++ added ++ snapshot.workingPositions) snapshot.equity
      snapshot.peakEquity snapshot.marginUsed = .ok filled
  widened : applyWorkingBounds filled base (snapshot.positions ++ added)
    snapshot.workingPositions = .ok metrics

theorem evaluate_eq_ok {decision : PortfolioRiskDecision}
    (h : evaluatePortfolioRiskWithCandidates policy snapshot candidates
      = .ok decision) : ∃ added base filled,
      Evaluated snapshot candidates decision.metrics added base filled := by
  simp only [evaluatePortfolioRiskWithCandidates, bind_eq_ok, Prod.exists,
    pure_eq_ok] at h
  obtain ⟨_, -, _, -, rows, codes, hrows, base, hbase, filled, hfilled,
    metrics, hmetrics, _, -, rfl⟩ := h
  obtain ⟨added, hadded, hbase'⟩ := addCandidates_eq_ok hrows
  obtain rfl : rows = snapshot.positions ++ added := hbase'
  exact ⟨added, base, filled, hadded, hbase, hfilled, hmetrics⟩

theorem applyWorkingBounds_frame {filled base : AggregateRiskMetrics}
    {basePositions workingPositions : List RiskPosition}
    (h : applyWorkingBounds filled base basePositions workingPositions
      = .ok metrics) : metrics.grossExposure = filled.grossExposure ∧
      metrics.netExposure = filled.netExposure ∧
        metrics.concentrationBps = filled.concentrationBps := by
  simp only [applyWorkingBounds, bind_eq_ok, pure_eq_ok] at h
  obtain ⟨_, -, _, -, _, -, _, -, _, -, _, -, rfl⟩ := h
  exact ⟨rfl, rfl, rfl⟩

end Follon.Risk
