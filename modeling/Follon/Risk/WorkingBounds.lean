import Follon.Foundation.SubsetSums
import Follon.Risk.Exposure

/-!
# Working bounds

The kernel replaces the enumeration of the subsets of working rows by one
interval for each signed metric and one scenario for each working instrument.
Every subset has metrics, and the reported bounds are the greatest of them.
-/

namespace Follon.Risk

open Foundation Domain

/-! ## Operations that succeed -/

theorem checked_ok {value : Int} (message : String)
    (hmin : i128Min ≤ value) (hmax : value ≤ i128Max) :
    ∃ d, Decimal.checked value message = .ok d ∧ d.scaled = value :=
  ⟨⟨value, hmin, hmax⟩, checked_eq_ok.mpr rfl, rfl⟩

theorem checkedAdd_ok {a b : Decimal} (h : |a.scaled + b.scaled| ≤ i128Max) :
    ∃ d, a.checkedAdd b = .ok d := by
  have hmin : i128Min = -i128Max - 1 := by decide
  have hbounds := abs_le.mp h
  obtain ⟨d, hd, -⟩ := checked_ok "decimal addition overflow"
    (by omega : i128Min ≤ a.scaled + b.scaled) hbounds.2
  exact ⟨d, hd⟩

theorem absolute_ok {value : Decimal} (h : |value.scaled| ≤ i128Max) :
    ∃ d, absolute value = .ok d := by
  have hmin : i128Min ≤ |value.scaled| := le_trans (by decide) (abs_nonneg _)
  exact ⟨⟨|value.scaled|, hmin, h⟩, absolute_eq_ok.mpr rfl⟩

variable {d possible possible' : Decimal} {gross net delta gamma : Int}
  {sums sums' : ExposureSums} {rows rows' working : List RiskPosition}
  {metrics base : AggregateRiskMetrics} {bounds : WorkingBounds}
  {baseGross : OrderedMap String Decimal} {entry : String × Decimal}

theorem abs_le_of_absolute {value : Decimal} (h : absolute value = .ok d)
    : |value.scaled| ≤ i128Max := by
  rw [← absolute_eq_ok.mp h]
  exact d.le_max

theorem ratioBps_ok {part whole : Decimal} (hpart : 0 ≤ part.scaled)
    (hwhole : 0 < whole.scaled) (hfits : part.scaled * 1000000000000 ≤ i128Max) :
    ∃ d, ratioBps part whole = .ok d := by
  have hnonneg : 0 ≤ bpsOf part.scaled whole.scaled := bpsOf_nonneg hpart hwhole.le
  have hle : bpsOf part.scaled whole.scaled ≤ i128Max := by
    refine le_trans (Int.ediv_le_self _ (by omega)) hfits
  exact ⟨⟨_, le_trans (by decide) hnonneg, hle⟩,
    ratioBps_eq_ok.mpr ⟨hpart, hwhole, hfits, rfl⟩⟩

/-! ## Bounded buckets -/

def BucketsWithin (buckets : OrderedMap String Decimal) (gross : Int) : Prop :=
  ∀ key, 0 ≤ bucket buckets key ∧ bucket buckets key ≤ gross

variable {buckets : OrderedMap String Decimal} {amount signed : Decimal}
  {bounds' : Bounds} {filled : AggregateRiskMetrics}
  {snapshot : PortfolioRiskSnapshot} {added : List RiskPosition}

theorem BucketsWithin.add {buckets' : OrderedMap String Decimal} {key : String}
    (hbuckets : BucketsWithin buckets gross) (hamount : 0 ≤ amount.scaled)
    (h : addBucket buckets key amount = .ok buckets') :
    BucketsWithin buckets' (gross + amount.scaled) := by
  intro other
  have hother := hbuckets other
  rw [bucket_of_addBucket h]
  split <;> omega

theorem BucketsWithin.add_ok (hbuckets : BucketsWithin buckets gross)
    (hamount : 0 ≤ amount.scaled) (hfits : gross + amount.scaled ≤ i128Max)
    (key : String) : ∃ buckets', addBucket buckets key amount = .ok buckets' := by
  have hkey := hbuckets key
  have hmin : i128Min ≤ 0 := by decide
  obtain ⟨total, htotal, -⟩ := @checked_ok
    (bucket buckets key + amount.scaled) "decimal addition overflow"
    (by omega) (by omega)
  refine ⟨buckets.insert key total, ?_⟩
  have hadd : (buckets[key]?.getD Decimal.zero).checkedAdd amount
      = .ok total := htotal
  simp only [addBucket, hadd]
  rfl

/-! ## Rows with an exposure -/

structure RowFits (row : RiskPosition) : Prop where
  valid : row.validate = .ok ()
  signed : ∃ signed, row.signedExposure = .ok signed
  fits : |row.exposure| ≤ i128Max

theorem rowFits_of_addExposure {row : RiskPosition}
    (h : addExposure sums row = .ok sums') : RowFits row := by
  simp only [addExposure, bind_eq_ok] at h
  obtain ⟨_, hvalid, signed, hsigned, amount, hamount, -⟩ := h
  refine ⟨hvalid, ⟨signed, hsigned⟩, ?_⟩
  rw [← RiskPosition.scaled_of_signedExposure hsigned]
  exact abs_le_of_absolute hamount

theorem rowFits_of_fold (h : rows.foldlM addExposure sums = .ok sums') :
    ∀ row ∈ rows, RowFits row := by
  induction rows generalizing sums with
  | nil => simp
  | cons row rows ih =>
    simp only [foldlM_cons, bind_eq_ok] at h
    obtain ⟨next, hrow, hrest⟩ := h
    rw [forall_mem_cons]
    exact ⟨rowFits_of_addExposure hrow, ih hrest⟩

/-! ## Sums of partly filled books -/

structure SumsWithin (rows : List RiskPosition) (sums : ExposureSums) :
    Prop extends SumsOver rows sums where
  sector : BucketsWithin sums.sector (grossOf rows)
  asset : BucketsWithin sums.asset (grossOf rows)
  currency : BucketsWithin sums.currency (grossOf rows)
  strategy : BucketsWithin sums.strategy (grossOf rows)

theorem sumsWithin_nil : SumsWithin [] noSums := by
  have hempty : BucketsWithin ∅ (grossOf []) := fun key => by
    simp [bucket, grossOf]
  exact ⟨sumsOver_nil, hempty, hempty, hempty, hempty⟩

theorem SumsWithin.step {row : RiskPosition} (hsums : SumsWithin rows sums)
    (h : addExposure sums row = .ok sums') : SumsWithin (rows ++ [row]) sums' := by
  have hover := hsums.toSumsOver.step h
  have hgross : grossOf (rows ++ [row]) = grossOf rows + |row.exposure| := by
    simp [grossOf]
  simp only [addExposure, bind_eq_ok, pure_eq_ok] at h
  obtain ⟨_, -, signed, hsigned, amount, hamount, _, -, _, -, _, -, _, -, _, -,
    _, hsector, _, hasset, _, hcurrency, _, hstrategy, rfl⟩ := h
  rw [absolute_eq_ok, RiskPosition.scaled_of_signedExposure hsigned] at hamount
  have hnonneg : 0 ≤ amount.scaled := hamount ▸ abs_nonneg _
  rw [← hamount] at hgross
  refine ⟨hover, ?_, ?_, ?_, ?_⟩ <;> rw [hgross]
  · exact hsums.sector.add hnonneg hsector
  · exact hsums.asset.add hnonneg hasset
  · exact hsums.currency.add hnonneg hcurrency
  · exact hsums.strategy.add hnonneg hstrategy

theorem SumsWithin.fold (hsums : SumsWithin rows sums)
    (h : rows'.foldlM addExposure sums = .ok sums') : SumsWithin (rows ++ rows') sums' :=
  foldlM_over (fun _ _ _ _ => SumsWithin.step) hsums h

structure TotalsFit (rows : List RiskPosition) : Prop where
  gross : grossOf rows ≤ i128Max
  delta : |deltaOf rows| ≤ i128Max
  gamma : |gammaOf rows| ≤ i128Max

theorem SumsWithin.step_ok {row : RiskPosition} (hsums : SumsWithin rows sums)
    (hrow : RowFits row) (hfits : TotalsFit (rows ++ [row])) :
    ∃ sums', addExposure sums row = .ok sums' := by
  obtain ⟨hvalid, ⟨signed, hsigned⟩, hexposure⟩ := hrow
  have hscaled := RiskPosition.scaled_of_signedExposure hsigned
  rw [← hscaled] at hexposure
  obtain ⟨amount, hamount⟩ := absolute_ok hexposure
  have hsize := absolute_eq_ok.mp hamount
  have hnonneg : 0 ≤ amount.scaled := hsize ▸ abs_nonneg _
  have hgross : grossOf rows + amount.scaled = grossOf (rows ++ [row]) := by
    rw [hsize, hscaled]
    simp [grossOf]
  have hroom : grossOf rows + amount.scaled ≤ i128Max := hgross ▸ hfits.gross
  obtain ⟨gross, hgross⟩ := @checkedAdd_ok sums.gross amount (by
    rw [hsums.gross, hgross, abs_of_nonneg (grossOf_nonneg _)]
    exact hfits.gross)
  obtain ⟨net, hnet⟩ := @checkedAdd_ok sums.net signed (by
    rw [hsums.net, hscaled]
    refine le_trans ?_ (le_trans (abs_netOf_le (rows ++ [row])) hfits.gross)
    simp [netOf])
  obtain ⟨delta, hdelta⟩ := @checkedAdd_ok sums.delta row.delta (by
    rw [hsums.delta]
    simpa [deltaOf] using hfits.delta)
  obtain ⟨gamma, hgamma⟩ := @checkedAdd_ok sums.gamma row.gamma (by
    rw [hsums.gamma]
    simpa [gammaOf] using hfits.gamma)
  have hwithin : BucketsWithin sums.instrumentGross (grossOf rows) := by
    intro key
    rw [hsums.instruments]
    exact ⟨grossIn_nonneg rows key, grossIn_le_grossOf rows key⟩
  obtain ⟨instruments, hinstruments⟩ :=
    hwithin.add_ok hnonneg hroom row.instrumentId
  obtain ⟨sector, hsector⟩ := hsums.sector.add_ok hnonneg hroom row.sector
  obtain ⟨asset, hasset⟩ := hsums.asset.add_ok hnonneg hroom row.assetClass
  obtain ⟨currency, hcurrency⟩ :=
    hsums.currency.add_ok hnonneg hroom row.currency
  obtain ⟨strategy, hstrategy⟩ :=
    hsums.strategy.add_ok hnonneg hroom row.strategyId
  simp only [addExposure, bind_eq_ok]
  exact ⟨_, (), hvalid, signed, hsigned, amount, hamount, gross, hgross, net,
    hnet, instruments, hinstruments, delta, hdelta, gamma, hgamma, sector,
    hsector, asset, hasset, currency, hcurrency, strategy, hstrategy, rfl⟩

theorem SumsWithin.fold_ok (hsums : SumsWithin rows sums)
    (hrows : ∀ row ∈ rows', RowFits row)
    (hfits : ∀ taken : List RiskPosition, taken.Sublist rows' →
      TotalsFit (rows ++ taken)) :
    ∃ sums', rows'.foldlM addExposure sums = .ok sums' := by
  induction rows' generalizing rows sums with
  | nil => exact ⟨sums, rfl⟩
  | cons row rows' ih =>
    rw [forall_mem_cons] at hrows
    obtain ⟨next, hnext⟩ := hsums.step_ok hrows.1
      (hfits [row] (List.singleton_sublist.mpr mem_cons_self))
    obtain ⟨sums', hrest⟩ := ih (hsums.step hnext) hrows.2 (by
      intro taken htaken
      rw [append_assoc, List.singleton_append]
      exact hfits (row :: taken) (htaken.cons_cons row))
    refine ⟨sums', ?_⟩
    simp only [foldlM_cons, bind_eq_ok]
    exact ⟨next, hnext, hrest⟩

/-! ## Metrics of partly filled books -/

theorem IsLargest.mono {gross' : Int} (h : IsLargest rows gross)
    (h' : IsLargest rows' gross') (hle : ∀ instrumentId,
      grossIn rows instrumentId ≤ grossIn rows' instrumentId) : gross ≤ gross' := by
  rcases h.1 with rfl | ⟨instrumentId, rfl⟩
  · exact h'.2 (.inl rfl)
  · exact le_trans (hle instrumentId) (h'.2 (.inr ⟨instrumentId, rfl⟩))

theorem concentrationOf_ok (hsums : SumsOver rows sums)
    (hsums' : SumsOver rows' sums') (hsub : rows.Sublist rows')
    (h : concentrationOf sums' = .ok d) :
    ∃ concentration, concentrationOf sums = .ok concentration := by
  unfold concentrationOf at h ⊢
  by_cases hzero : sums.gross = Decimal.zero
  · exact ⟨_, if_pos hzero⟩
  have hnonzero : sums.gross.scaled ≠ 0 := fun hsame =>
    hzero (Decimal.ext hsame)
  have hnonneg := grossOf_nonneg rows
  have hle := grossOf_sublist hsub
  rw [hsums.gross] at hnonzero
  have hnonzero' : sums'.gross ≠ Decimal.zero := by
    intro hsame
    have hscaled := hsums'.gross
    rw [hsame, scaled_zero] at hscaled
    omega
  rw [if_neg hnonzero'] at h
  obtain ⟨-, -, hfits, -⟩ := ratioBps_eq_ok.mp h
  have hlargest := hsums.largest.mono hsums'.largest (grossIn_sublist hsub)
  rw [if_neg hzero]
  refine ratioBps_ok (hsums.largest.2 (.inl rfl)) ?_ (by omega)
  rw [hsums.gross]
  omega

theorem aggregateMetrics_ok {equity peakEquity marginUsed : Decimal}
    (hfold : rows.foldlM addExposure noSums = .ok sums)
    (hfits : TotalsFit rows) (hsub : rows.Sublist rows')
    (h : aggregateMetrics rows' equity peakEquity marginUsed = .ok metrics) :
    ∃ metrics, aggregateMetrics rows equity peakEquity marginUsed
      = .ok metrics := by
  simp only [aggregateMetrics_eq, bind_eq_ok] at h ⊢
  obtain ⟨sums', hfold', drawdown, hdrawdown, _, hconcentration, _, -, _,
    hleverage, margin, hmargin, -⟩ := h
  have hsums := sumsOver_nil.fold hfold
  have hsums' := sumsOver_nil.fold hfold'
  rw [nil_append] at hsums hsums'
  obtain ⟨concentration, hconcentration⟩ :=
    concentrationOf_ok hsums hsums' hsub hconcentration
  have hgross := grossOf_sublist hsub
  obtain ⟨net, hnet⟩ := @absolute_ok sums.net (by
    rw [hsums.net]
    exact le_trans (abs_netOf_le rows) hfits.gross)
  obtain ⟨delta, hdelta⟩ := @absolute_ok sums.delta (by
    rw [hsums.delta]
    exact hfits.delta)
  obtain ⟨gamma, hgamma⟩ := @absolute_ok sums.gamma (by
    rw [hsums.gamma]
    exact hfits.gamma)
  obtain ⟨-, hequity, hroom, -⟩ := ratioBps_eq_ok.mp hleverage
  rw [hsums'.gross] at hroom
  obtain ⟨leverage, hleverage⟩ := @ratioBps_ok sums.gross equity
    (hsums.gross ▸ grossOf_nonneg rows) hequity (by
      rw [hsums.gross]
      omega)
  exact ⟨_, sums, hfold, drawdown, hdrawdown, concentration, hconcentration, net, hnet,
    leverage, hleverage, margin, hmargin, delta, hdelta, gamma, hgamma, rfl⟩

/-! ## Widened bounds -/

/-- An interval around a total, widened by rows that may fill. -/
structure Bounds.Covers (bounds : Bounds) (base low high : Int) : Prop where
  low : bounds.low.scaled = base + low
  high : bounds.high.scaled = base + high

theorem Bounds.widen_eq_ok {bounds : Bounds} (h : bounds.widen signed = .ok bounds') :
    bounds'.low.scaled = bounds.low.scaled + min signed.scaled 0 ∧
      bounds'.high.scaled = bounds.high.scaled + max signed.scaled 0 := by
  unfold Bounds.widen at h
  split at h
  · next hsign =>
      rw [le_def, scaled_zero] at hsign
      simp only [bind_eq_ok, checkedAdd_eq_ok, pure_eq_ok] at h
      obtain ⟨high, hhigh, rfl⟩ := h
      refine ⟨?_, hhigh.trans ?_⟩
      · simp only
        omega
      · omega
  · next hsign =>
      rw [le_def, scaled_zero, not_le] at hsign
      simp only [bind_eq_ok, checkedAdd_eq_ok, pure_eq_ok] at h
      obtain ⟨low, hlow, rfl⟩ := h
      refine ⟨hlow.trans ?_, ?_⟩
      · omega
      · simp only
        omega

theorem Bounds.Covers.possibleAbs {bounds : Bounds} {base low high : Int}
    (hcovers : bounds.Covers base low high) (h : bounds.possibleAbs = .ok d) :
    d.scaled = max |base + low| |base + high| ∧
      |base + low| ≤ i128Max ∧ |base + high| ≤ i128Max := by
  simp only [Bounds.possibleAbs, bind_eq_ok, pure_eq_ok] at h
  obtain ⟨least, hleast, most, hmost, rfl⟩ := h
  have hlow := abs_le_of_absolute hleast
  have hhigh := abs_le_of_absolute hmost
  rw [hcovers.low] at hlow
  rw [hcovers.high] at hhigh
  rw [max_scaled, absolute_eq_ok.mp hleast, absolute_eq_ok.mp hmost,
    hcovers.low, hcovers.high]
  exact ⟨rfl, hlow, hhigh⟩

structure Widened (net delta gamma : Int) (rows : List RiskPosition)
    (bounds : WorkingBounds) : Prop where
  net : bounds.net.Covers net (SubsetSums.low RiskPosition.exposure rows)
    (SubsetSums.high RiskPosition.exposure rows)
  delta : bounds.delta.Covers delta
    (SubsetSums.low (·.delta.scaled) rows)
    (SubsetSums.high (·.delta.scaled) rows)
  gamma : bounds.gamma.Covers gamma
    (SubsetSums.low (·.gamma.scaled) rows)
    (SubsetSums.high (·.gamma.scaled) rows)
  instruments : ∀ instrumentId,
    bucket bounds.instrumentGross instrumentId = grossIn rows instrumentId

theorem Bounds.Covers.step {f : RiskPosition → Int} {bounds : Bounds}
    {base : Int} {row : RiskPosition} (hsigned : signed.scaled = f row)
    (hcovers : bounds.Covers base (SubsetSums.low f rows)
      (SubsetSums.high f rows)) (h : bounds.widen signed = .ok bounds') :
    bounds'.Covers base (SubsetSums.low f (rows ++ [row]))
      (SubsetSums.high f (rows ++ [row])) := by
  obtain ⟨hlow, hhigh⟩ := Bounds.widen_eq_ok h
  rw [hsigned] at hlow hhigh
  refine ⟨?_, ?_⟩
  · rw [hlow, hcovers.low]
    simp [SubsetSums.low, add_assoc]
  · rw [hhigh, hcovers.high]
    simp [SubsetSums.high, add_assoc]

theorem Widened.step {row : RiskPosition} {bounds' : WorkingBounds}
    (hbounds : Widened net delta gamma rows bounds)
    (h : widenBounds bounds row = .ok bounds') :
    Widened net delta gamma (rows ++ [row]) bounds' := by
  simp only [widenBounds, bind_eq_ok, pure_eq_ok] at h
  obtain ⟨signed, hsigned, _, hnet, _, hdelta, _, hgamma, amount, hamount, _,
    hinstruments, rfl⟩ := h
  have hexposure := RiskPosition.scaled_of_signedExposure hsigned
  refine ⟨hbounds.net.step hexposure hnet, hbounds.delta.step rfl hdelta,
    hbounds.gamma.step rfl hgamma, fun instrumentId => ?_⟩
  rw [bucket_of_addBucket hinstruments, hbounds.instruments,
    absolute_eq_ok.mp hamount, hexposure, grossIn_append, grossIn_singleton]

theorem Widened.fold {bounds' : WorkingBounds}
    (hbounds : Widened net delta gamma rows bounds)
    (h : rows'.foldlM widenBounds bounds = .ok bounds') :
    Widened net delta gamma (rows ++ rows') bounds' :=
  foldlM_over (fun _ _ _ _ => Widened.step) hbounds h

theorem baseGross_fold {gross : OrderedMap String Decimal}
    (h : rows.foldlM addBaseGross ∅ = .ok gross) (instrumentId : String) :
    bucket gross instrumentId = grossIn rows instrumentId := by
  have hover : ∀ instrumentId,
      bucket gross instrumentId = grossIn ([] ++ rows) instrumentId := by
    refine foldlM_over (R := fun seen gross => ∀ instrumentId,
      bucket gross instrumentId = grossIn seen instrumentId) ?_ ?_ h
    · intro seen row gross gross' hgross hrow instrumentId
      simp only [addBaseGross, bind_eq_ok] at hrow
      obtain ⟨signed, hsigned, amount, hamount, hadd⟩ := hrow
      rw [bucket_of_addBucket hadd, hgross, absolute_eq_ok.mp hamount,
        RiskPosition.scaled_of_signedExposure hsigned, grossIn_append, grossIn_singleton]
    · simp [bucket, grossIn, grossOf]
  exact hover instrumentId

/-! ## Concentration of partly filled books -/

def shareOf (base working : List RiskPosition) (instrumentId : String) : Int :=
  bpsOf (grossIn base instrumentId + grossIn working instrumentId)
    (grossOf base + grossIn working instrumentId)

theorem widenConcentration_eq_ok
    (h : widenConcentration base baseGross possible entry = .ok possible') :
    0 < base.grossExposure.scaled + entry.2.scaled ∧
      possible'.scaled = max possible.scaled
        (bpsOf (bucket baseGross entry.1 + entry.2.scaled)
          (base.grossExposure.scaled + entry.2.scaled)) := by
  simp only [widenConcentration, bind_eq_ok, checkedAdd_eq_ok, pure_eq_ok] at h
  obtain ⟨held, hheld, scenario, hscenario, ratio, hratio, rfl⟩ := h
  obtain ⟨-, hpositive, -, hbps⟩ := ratioBps_eq_ok.mp hratio
  rw [max_scaled, hbps, hheld, hscenario]
  exact ⟨hscenario ▸ hpositive, rfl⟩

def entryShare (base : AggregateRiskMetrics)
    (baseGross : OrderedMap String Decimal) (entry : String × Decimal) : Int :=
  bpsOf (bucket baseGross entry.1 + entry.2.scaled)
    (base.grossExposure.scaled + entry.2.scaled)

structure ConcentratedOver (base : AggregateRiskMetrics)
    (baseGross : OrderedMap String Decimal) (start : Int)
    (entries : List (String × Decimal)) (possible : Decimal) : Prop where
  positive : ∀ entry ∈ entries, 0 < base.grossExposure.scaled + entry.2.scaled
  greatest : IsGreatest
    {share | share = start ∨
      ∃ entry ∈ entries, entryShare base baseGross entry = share}
    possible.scaled

theorem ConcentratedOver.step {start : Int} {seen : List (String × Decimal)}
    (hseen : ConcentratedOver base baseGross start seen possible)
    (h : widenConcentration base baseGross possible entry = .ok possible') :
    ConcentratedOver base baseGross start (seen ++ [entry]) possible' := by
  obtain ⟨hscenario, hmax⟩ := widenConcentration_eq_ok h
  refine ⟨?_, ?_⟩
  · rw [List.forall_mem_append, List.forall_mem_singleton]
    exact ⟨hseen.positive, hscenario⟩
  · rw [hmax, max_comm]
    have hgreatest := hseen.greatest.insert (entryShare base baseGross entry)
    refine ⟨?_, ?_⟩
    · rcases hgreatest.1 with hentry | hstart | ⟨other, hother, hshare⟩
      · exact .inr ⟨entry, by simp, hentry.symm⟩
      · exact .inl hstart
      · exact .inr ⟨other, mem_append_left _ hother, hshare⟩
    · rintro share (hstart | ⟨other, hother, hshare⟩)
      · exact hgreatest.2 (.inr (.inl hstart))
      · rcases mem_append.mp hother with hother | hother
        · exact hgreatest.2 (.inr (.inr ⟨other, hother, hshare⟩))
        · rw [mem_singleton] at hother
          exact hgreatest.2 (.inl (by rw [← hshare, hother]))

theorem widenConcentration_fold {entries : List (String × Decimal)}
    (h : entries.foldlM (widenConcentration base baseGross) possible = .ok possible') :
    ConcentratedOver base baseGross possible.scaled entries possible' := by
  have hstart : ConcentratedOver base baseGross possible.scaled []
      possible :=
    ⟨by simp, by simp⟩
  exact foldlM_over (fun _ _ _ _ => ConcentratedOver.step) hstart h

theorem bpsOf_partly_filled {base taken : List RiskPosition}
    {largest baseLargest possible : Int} (htaken : taken.Sublist working)
    (hlargest : IsLargest (base ++ taken) largest) (hbase : IsLargest base baseLargest)
    (hstart : bpsOf baseLargest (grossOf base) ≤ possible)
    (hshares : ∀ instrumentId, 0 < grossIn working instrumentId →
      shareOf base working instrumentId ≤ possible) :
    bpsOf largest (grossOf (base ++ taken)) ≤ possible := by
  have hnonneg : 0 ≤ possible :=
    le_trans (bpsOf_nonneg (hbase.2 (.inl rfl)) (grossOf_nonneg base)) hstart
  rcases hlargest.1 with rfl | ⟨instrumentId, rfl⟩
  · simpa [bpsOf] using hnonneg
  have hheld := grossIn_nonneg base instrumentId
  have hle := grossIn_le_grossOf base instrumentId
  have hin := grossIn_nonneg taken instrumentId
  have hof := grossIn_le_grossOf taken instrumentId
  have hsub := grossIn_sublist htaken instrumentId
  rw [grossIn_append, grossOf_append]
  by_cases hzero : grossIn base instrumentId + grossIn taken instrumentId = 0
  · rw [hzero]
    simpa [bpsOf] using hnonneg
  by_cases hidle : grossIn taken instrumentId = 0
  · -- without a fill of its own the instrument is diluted by the others
    refine le_trans (bpsOf_mono (by omega) (by omega) (by omega) ?_) hstart
    have hmost : grossIn base instrumentId ≤ baseLargest :=
      hbase.2 (.inr ⟨instrumentId, rfl⟩)
    nlinarith
  · refine le_trans (bpsOf_mono (by omega) (by omega) (by omega) ?_)
      (hshares instrumentId (by omega))
    nlinarith

/-! ## Exactness -/

def possibleMetrics (snapshot : PortfolioRiskSnapshot)
    (added : List RiskPosition) : Set AggregateRiskMetrics :=
  {metrics | ∃ filled : List RiskPosition,
    filled.Sublist snapshot.workingPositions ∧
      aggregateMetrics (snapshot.positions ++ added ++ filled) snapshot.equity
        snapshot.peakEquity snapshot.marginUsed = .ok metrics}

def AllPossible (snapshot : PortfolioRiskSnapshot) (added : List RiskPosition) : Prop :=
  ∀ filled : List RiskPosition, filled.Sublist snapshot.workingPositions →
    ∃ metrics, aggregateMetrics (snapshot.positions ++ added ++ filled)
      snapshot.equity snapshot.peakEquity snapshot.marginUsed = .ok metrics

/-- The reported bounds are the greatest metrics over all subsets of the working
rows, and every subset has metrics. -/
structure ExactBounds (snapshot : PortfolioRiskSnapshot)
    (added : List RiskPosition) (reported : AggregateRiskMetrics) : Prop where
  possible : AllPossible snapshot added
  net : IsGreatest ((fun metrics : AggregateRiskMetrics =>
      |metrics.netExposure.scaled|) '' possibleMetrics snapshot added)
    reported.possibleAbsNetExposure.scaled
  delta : IsGreatest ((fun metrics : AggregateRiskMetrics =>
      |metrics.totalDelta.scaled|) '' possibleMetrics snapshot added)
    reported.possibleAbsDelta.scaled
  gamma : IsGreatest ((fun metrics : AggregateRiskMetrics =>
      |metrics.totalGamma.scaled|) '' possibleMetrics snapshot added)
    reported.possibleAbsGamma.scaled
  concentration : IsGreatest ((fun metrics : AggregateRiskMetrics =>
      metrics.concentrationBps.scaled) '' possibleMetrics snapshot added)
    reported.possibleConcentrationBps.scaled

section

variable {snapshot : PortfolioRiskSnapshot} {added : List RiskPosition}

variable {f : RiskPosition → Int}

theorem image_possibleMetrics {metric : AggregateRiskMetrics → Int}
    {base : Int} (hall : AllPossible snapshot added) (hmetric : ∀ filled metrics,
      MetricsOver (snapshot.positions ++ added ++ filled) metrics →
        metric metrics = base + (filled.map f).sum) :
    (fun metrics => |metric metrics|) '' possibleMetrics snapshot added
      = (fun total => |total|) ''
        SubsetSums.reachable f snapshot.workingPositions base := by
  ext size
  constructor
  · rintro ⟨metrics, ⟨filled, hfilled, hmetrics⟩, rfl⟩
    have hsum := hmetric filled metrics (aggregateMetrics_over hmetrics)
    exact ⟨_, ⟨filled, hfilled, rfl⟩, by simp only [hsum]⟩
  · rintro ⟨_, ⟨filled, hfilled, rfl⟩, rfl⟩
    obtain ⟨metrics, hmetrics⟩ := hall filled hfilled
    have hsum := hmetric filled metrics (aggregateMetrics_over hmetrics)
    exact ⟨metrics, ⟨filled, hfilled, hmetrics⟩, by simp only [hsum]⟩

theorem abs_subset_le {base : Int} {rows taken : List RiskPosition}
    (hlow : |base + SubsetSums.low f rows| ≤ i128Max)
    (hhigh : |base + SubsetSums.high f rows| ≤ i128Max) (htaken : taken.Sublist rows) :
    |base + (taken.map f).sum| ≤ i128Max :=
  le_trans ((SubsetSums.isGreatest_abs base).2
    ⟨_, ⟨taken, htaken, rfl⟩, rfl⟩) (max_le hlow hhigh)

end

theorem applyWorkingBounds_eq_ok (hbase : MetricsOver rows base)
    (h : applyWorkingBounds filled base rows working = .ok metrics) :
    ∃ bounds : WorkingBounds,
      Widened (netOf rows) (deltaOf rows) (gammaOf rows) working bounds ∧
        bounds.net.possibleAbs = .ok metrics.possibleAbsNetExposure ∧
        bounds.delta.possibleAbs = .ok metrics.possibleAbsDelta ∧
        bounds.gamma.possibleAbs = .ok metrics.possibleAbsGamma ∧
        ∃ baseGross, (∀ instrumentId,
            bucket baseGross instrumentId = grossIn rows instrumentId) ∧
          ConcentratedOver base baseGross base.concentrationBps.scaled
            bounds.instrumentGross.toList metrics.possibleConcentrationBps := by
  simp only [applyWorkingBounds, bind_eq_ok, pure_eq_ok] at h
  obtain ⟨baseGross, hgross, bounds, hbounds, net, hnet, delta, hdelta, gamma,
    hgamma, possible, hpossible, rfl⟩ := h
  have hstart : Widened (netOf rows) (deltaOf rows) (gammaOf rows) []
      { net := ⟨base.netExposure, base.netExposure⟩
        delta := ⟨base.totalDelta, base.totalDelta⟩
        gamma := ⟨base.totalGamma, base.totalGamma⟩
        instrumentGross := ∅ } := by
    refine ⟨⟨?_, ?_⟩, ⟨?_, ?_⟩, ⟨?_, ?_⟩, ?_⟩ <;>
      simp [SubsetSums.low, SubsetSums.high, hbase.net, hbase.delta,
        hbase.gamma, bucket, grossIn, grossOf]
  exact ⟨bounds, hstart.fold hbounds, hnet, hdelta, hgamma, baseGross,
    baseGross_fold hgross, widenConcentration_fold hpossible⟩

theorem Evaluated.allPossible {candidates : List CandidateOrder}
    (h : Evaluated snapshot candidates metrics added base filled)
    (hfits : ∀ taken : List RiskPosition, taken.Sublist snapshot.workingPositions →
        |deltaOf (snapshot.positions ++ added)
            + (taken.map fun row => row.delta.scaled).sum| ≤ i128Max ∧
          |gammaOf (snapshot.positions ++ added)
            + (taken.map fun row => row.gamma.scaled).sum| ≤ i128Max) :
    AllPossible snapshot added := by
  intro taken htaken
  have hbase := h.baseMetrics
  have hfilled := h.filledMetrics
  have hgross := (aggregateMetrics_over hfilled).gross
  simp only [aggregateMetrics_eq, bind_eq_ok] at hbase hfilled
  obtain ⟨baseSums, hbaseFold, -⟩ := hbase
  obtain ⟨filledSums, hfilledFold, -⟩ := hfilled
  have htotals : ∀ part : List RiskPosition, part.Sublist taken →
      TotalsFit (snapshot.positions ++ added ++ part) := by
    intro part hpart
    have hsub := hpart.trans htaken
    obtain ⟨hdelta, hgamma⟩ := hfits part hsub
    refine ⟨?_, ?_, ?_⟩
    · refine le_trans (grossOf_sublist (hsub.append_left _)) ?_
      rw [← hgross]
      exact filled.grossExposure.le_max
    · rwa [deltaOf_append]
    · rwa [gammaOf_append]
  have hrows : ∀ row ∈ taken, RowFits row := fun row hrow =>
    rowFits_of_fold hfilledFold row
      (mem_append_right _ (htaken.subset hrow))
  have hsums : SumsWithin (snapshot.positions ++ added) baseSums :=
    sumsWithin_nil.fold hbaseFold
  obtain ⟨sums, hfold⟩ := hsums.fold_ok hrows htotals
  have hall : (snapshot.positions ++ added ++ taken).foldlM addExposure noSums
      = .ok sums := by
    rw [List.foldlM_append, hbaseFold]
    exact hfold
  exact aggregateMetrics_ok hall (htotals taken (List.Sublist.refl _))
    (htaken.append_left _) h.filledMetrics

theorem entryShare_eq (hbase : MetricsOver rows base)
    (hbounds : Widened net delta gamma working bounds) (hgross : ∀ instrumentId,
      bucket baseGross instrumentId = grossIn rows instrumentId)
    (hentry : entry ∈ bounds.instrumentGross.toList) :
    entry.2.scaled = grossIn working entry.1 ∧
      entryShare base baseGross entry = shareOf rows working entry.1 := by
  obtain ⟨instrumentId, gross⟩ := entry
  rw [mem_toList_iff_getElem?_eq_some] at hentry
  have hbucket := hbounds.instruments instrumentId
  simp only [bucket, hentry, getD_some] at hbucket
  refine ⟨hbucket, ?_⟩
  rw [entryShare, shareOf, hgross, hbase.gross, hbucket]

theorem concentration_exact (hall : AllPossible snapshot added)
    (hbase : aggregateMetrics (snapshot.positions ++ added) snapshot.equity
      snapshot.peakEquity snapshot.marginUsed = .ok base)
    (hbounds : Widened net delta gamma snapshot.workingPositions bounds)
    (hgross : ∀ instrumentId, bucket baseGross instrumentId
      = grossIn (snapshot.positions ++ added) instrumentId)
    (hpossible : ConcentratedOver base baseGross base.concentrationBps.scaled
      bounds.instrumentGross.toList possible) :
    IsGreatest ((fun metrics : AggregateRiskMetrics =>
        metrics.concentrationBps.scaled) '' possibleMetrics snapshot added)
      possible.scaled := by
  have hover := aggregateMetrics_over hbase
  obtain ⟨baseLargest, hbaseLargest, hbaseBps⟩ := hover.concentration
  have hbound : ∀ metrics ∈ possibleMetrics snapshot added,
      metrics.concentrationBps.scaled ≤ possible.scaled := by
    rintro metrics ⟨filled, hfilled, hmetrics⟩
    obtain ⟨largest, hlargest, hbps⟩ :=
      (aggregateMetrics_over hmetrics).concentration
    rw [hbps]
    refine bpsOf_partly_filled hfilled hlargest hbaseLargest ?_ ?_
    · rw [← hbaseBps]
      exact hpossible.greatest.2 (.inl rfl)
    · intro instrumentId hpositive
      rw [← hbounds.instruments] at hpositive
      cases hfind : bounds.instrumentGross[instrumentId]? with
      | none => simp [bucket, hfind] at hpositive
      | some gross =>
        have hentry : (instrumentId, gross) ∈ bounds.instrumentGross.toList :=
          mem_toList_iff_getElem?_eq_some.mpr hfind
        rw [← (entryShare_eq hover hbounds hgross hentry).2]
        exact hpossible.greatest.2 (.inr ⟨_, hentry, rfl⟩)
  refine ⟨?_, Set.forall_mem_image.mpr hbound⟩
  rcases hpossible.greatest.1 with hstart | ⟨entry, hentry, hshare⟩
  · refine ⟨base, ⟨[], List.nil_sublist _, ?_⟩, hstart.symm⟩
    rw [append_nil]
    exact hbase
  -- the book in which only this instrument's working rows fill
  obtain ⟨hsize, hentryShare⟩ := entryShare_eq hover hbounds hgross hentry
  have hpositive := hpossible.positive entry hentry
  rw [hover.gross, hsize] at hpositive
  let filled := snapshot.workingPositions.filter fun row =>
    row.instrumentId = entry.1
  obtain ⟨metrics, hmetrics⟩ := hall filled List.filter_sublist
  have hmem : metrics ∈ possibleMetrics snapshot added :=
    ⟨filled, List.filter_sublist, hmetrics⟩
  refine ⟨metrics, hmem, le_antisymm (hbound metrics hmem) ?_⟩
  obtain ⟨largest, hlargest, hbps⟩ :=
    (aggregateMetrics_over hmetrics).concentration
  have hwhole : grossOf (snapshot.positions ++ added ++ filled)
      = grossOf (snapshot.positions ++ added)
        + grossIn snapshot.workingPositions entry.1 := by
    rw [grossOf_append]
    rfl
  have hown : grossIn filled entry.1
      = grossIn snapshot.workingPositions entry.1 := by
    simp [filled, grossIn, List.filter_filter]
  have hpart : grossIn (snapshot.positions ++ added) entry.1
      + grossIn snapshot.workingPositions entry.1 ≤ largest := by
    rw [← hown, ← grossIn_append]
    exact hlargest.2 (.inr ⟨entry.1, rfl⟩)
  rw [← hshare, hentryShare, shareOf]
  simp only
  rw [hbps, hwhole]
  refine bpsOf_mono ?_ hpositive hpositive ?_
  · have hheld := grossIn_nonneg (snapshot.positions ++ added) entry.1
    have hworking := grossIn_nonneg snapshot.workingPositions entry.1
    omega
  · exact mul_le_mul_of_nonneg_right hpart hpositive.le

theorem working_bounds_exact {policy : PortfolioRiskPolicy}
    {snapshot : PortfolioRiskSnapshot} {candidates : List CandidateOrder}
    {decision : PortfolioRiskDecision}
    (h : evaluatePortfolioRiskWithCandidates policy snapshot candidates
      = .ok decision) : ∃ added, collect candidateRow candidates = .ok added ∧
      ExactBounds snapshot added decision.metrics := by
  obtain ⟨added, base, filled, hevaluated⟩ := evaluate_eq_ok h
  obtain ⟨bounds, hbounds, hnet, hdelta, hgamma, baseGross, hgross,
    hpossible⟩ := applyWorkingBounds_eq_ok
      (aggregateMetrics_over hevaluated.baseMetrics) hevaluated.widened
  obtain ⟨hnet, -, -⟩ := hbounds.net.possibleAbs hnet
  obtain ⟨hdelta, hdeltaLow, hdeltaHigh⟩ := hbounds.delta.possibleAbs hdelta
  obtain ⟨hgamma, hgammaLow, hgammaHigh⟩ := hbounds.gamma.possibleAbs hgamma
  have hall := hevaluated.allPossible fun taken htaken =>
    ⟨abs_subset_le hdeltaLow hdeltaHigh htaken, abs_subset_le hgammaLow hgammaHigh htaken⟩
  refine ⟨added, hevaluated.rows, ⟨hall, ?_, ?_, ?_,
    concentration_exact hall hevaluated.baseMetrics hbounds hgross hpossible⟩⟩
  · rw [hnet, image_possibleMetrics hall fun filled metrics hmetrics => by
      rw [hmetrics.net, netOf_append]
      rfl]
    exact SubsetSums.isGreatest_abs _
  · rw [hdelta, image_possibleMetrics hall fun filled metrics hmetrics => by
      rw [hmetrics.delta, deltaOf_append]
      rfl]
    exact SubsetSums.isGreatest_abs _
  · rw [hgamma, image_possibleMetrics hall fun filled metrics hmetrics => by
      rw [hmetrics.gamma, gammaOf_append]
      rfl]
    exact SubsetSums.isGreatest_abs _

/-! ## A desk with two working orders -/

namespace Desk

def units (value : Int) : Decimal :=
  (Decimal.ofScaled? (value * Decimal.scale)).getD Decimal.zero

def limits : PortfolioRiskPolicy where
  version := "limits-1"
  globalKillSwitch := false
  maxGrossExposure := units 1000000
  maxAbsNetExposure := units 1000000
  maxLeverageBps := units 10000
  maxConcentrationBps := units 10000
  maxDailyLoss := units 1000
  maxDrawdownBps := units 10000
  maxMarginUtilizationBps := units 10000
  maxAbsDelta := units 1000
  maxAbsGamma := units 1000
  maxOpenOrders := 10
  maxOrderRate := 10
  allowedInstruments := ∅
  restrictedInstruments := ∅
  sectorLimits := ∅
  assetClassLimits := ∅
  currencyLimits := ∅
  strategyLimits := ∅
  maxNewsSlippageBps := none
  maxSpreadMultiplierBps := none

def row (instrumentId : String) (quantity : Int) : RiskPosition :=
  ⟨"acct-1", "strategy-1", instrumentId, "equity", "technology", "USD",
    units quantity, units 100, units 1, units quantity, units 0⟩

def book : PortfolioRiskSnapshot where
  equity := units 100000
  peakEquity := units 100000
  dailyPnl := units 0
  marginUsed := units 0
  positions := [row "aapl" 10]
  workingPositions := [row "aapl" 5, row "msft" (-20)]
  restingOrders := []
  recentOrderCount := 0

def candidate : CandidateOrder := ⟨"intent-1", .buy, row "aapl" 1⟩

theorem bounds_exact : ∃ decision,
      evaluatePortfolioRiskWithCandidates limits book [candidate] = .ok decision ∧
        ∃ added, collect candidateRow [candidate] = .ok added ∧
          ExactBounds book added decision.metrics := by
  have hok : (evaluatePortfolioRiskWithCandidates limits book
      [candidate]).toOption.isSome = true := by
    decide
  cases h : evaluatePortfolioRiskWithCandidates limits book [candidate] with
  | error e =>
    rw [h] at hok
    cases hok
  | ok decision => exact ⟨decision, rfl, working_bounds_exact h⟩

end Desk

end Follon.Risk
