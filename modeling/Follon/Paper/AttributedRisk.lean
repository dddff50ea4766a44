import Follon.Paper.Attribution
import Follon.Paper.OrderSteps
import Follon.Risk.Exposure

/-!
# Attribution and portfolio risk

The risk gate gives the kernel one row for each strategy of a position.  The
metrics are those of whole positions exactly when no two rows of a position
oppose each other.
-/

namespace Follon.Paper

open Foundation Domain ControlPlane Accounting
  Risk

/-! ## Rows of a position -/

def valueAt (mark : Decimal) (quantity : Int) : Int :=
  (quantity * mark.scaled).tdiv Decimal.scale

namespace ServiceRecord

def holdings (s : ServiceRecord) (portfolio : Portfolio) : List Int :=
  let shares := (s.shares portfolio.instrumentId).values.map Decimal.scaled
  shares ++ [portfolio.quantity.scaled - shares.sum]

def wholeRows (s : ServiceRecord) (composition : PortfolioRiskComposition)
    (rows : List RiskPosition) (portfolio : Portfolio) : Result (List RiskPosition) :=
  if portfolio.quantity = Decimal.zero then
    pure rows
  else do
    let row ← s.exposureRow composition portfolio.accountId "unattributed"
      portfolio.instrumentId portfolio.quantity (markOf s.marks portfolio)
    pure (rows ++ [row])

/-- The rounded values of the holdings of a position add up to the rounded
value of the position. -/
def ValuesAddUp (s : ServiceRecord) (portfolio : Portfolio) : Prop :=
  ((s.holdings portfolio).map (valueAt (markOf s.marks portfolio))).sum
    = valueAt (markOf s.marks portfolio) portfolio.quantity.scaled

def OneSided (s : ServiceRecord) (portfolio : Portfolio) : Prop :=
  (∀ holding ∈ s.holdings portfolio, 0 ≤ valueAt (markOf s.marks portfolio) holding) ∨
    ∀ holding ∈ s.holdings portfolio, valueAt (markOf s.marks portfolio) holding ≤ 0

instance (s : ServiceRecord) (portfolio : Portfolio) :
    Decidable (s.ValuesAddUp portfolio) :=
  inferInstanceAs (Decidable (_ = _))

instance (s : ServiceRecord) (portfolio : Portfolio) : Decidable (s.OneSided portfolio) :=
  inferInstanceAs (Decidable (_ ∨ _))

def openPositions (s : ServiceRecord) : List Portfolio :=
  s.portfolios.values.filter (·.quantity ≠ Decimal.zero)

variable {s : ServiceRecord} {composition : PortfolioRiskComposition}

structure RowOf (instrumentId : String) (mark : Decimal) (quantity : Int)
    (row : RiskPosition) : Prop where
  instrument : row.instrumentId = instrumentId
  exposure : row.exposure = valueAt mark quantity

theorem exposureRow_eq_ok {accountId strategyId instrumentId : String}
    {quantity mark : Decimal} {row : RiskPosition}
    (h : s.exposureRow composition accountId strategyId instrumentId quantity
      mark = .ok row) : RowOf instrumentId mark quantity.scaled row := by
  simp only [exposureRow, bind_eq_ok, pure_eq_ok] at h
  obtain ⟨multiplier, hmultiplier, rfl⟩ := h
  have hone : multiplier.scaled = Decimal.scale := by
    rw [Decimal.fromInteger, checked_eq_ok] at hmultiplier
    rw [hmultiplier, one_mul]
  refine ⟨rfl, ?_⟩
  simp only [RiskPosition.exposure, hone]
  exact Int.mul_tdiv_cancel _ (by decide)

def RowsOf (instrumentId : String) (mark : Decimal) :
    List Int → List RiskPosition → Prop :=
  List.Forall₂ (RowOf instrumentId mark)

variable {portfolio : Portfolio} {rows rows' : List RiskPosition}

theorem attributeRows_eq_ok {entries : List (String × Decimal)} {total total' : Decimal}
    (h : entries.foldlM (s.attributeRow composition portfolio) (total, rows)
      = .ok (total', rows')) : total'.scaled
        = total.scaled + (entries.map fun entry => entry.2.scaled).sum ∧
      ∃ own, rows' = rows ++ own ∧
        RowsOf portfolio.instrumentId (markOf s.marks portfolio)
          ((entries.map fun entry => entry.2.scaled).filter (· ≠ 0)) own := by
  induction entries generalizing total rows with
  | nil =>
    obtain ⟨rfl, rfl⟩ := Prod.mk.inj (Except.ok.inj h)
    exact ⟨by simp, [], by simp, .nil⟩
  | cons entry entries ih =>
    simp only [foldlM_cons, bind_eq_ok] at h
    obtain ⟨⟨next, nextRows⟩, hentry, hrest⟩ := h
    unfold attributeRow at hentry
    split at hentry
    · next hzero =>
        obtain ⟨rfl, rfl⟩ := Prod.mk.inj (Except.ok.inj hentry)
        obtain ⟨htotal, own, hrows, hown⟩ := ih hrest
        refine ⟨by simp [htotal, hzero], own, hrows, ?_⟩
        simpa [hzero] using hown
    · next hzero =>
        simp only [bind_eq_ok, checkedAdd_eq_ok, pure_eq_ok, Prod.mk.injEq] at hentry
        obtain ⟨sum, hsum, row, hrow, rfl, rfl⟩ := hentry
        obtain ⟨htotal, own, hrows, hown⟩ := ih hrest
        have hne : entry.2.scaled ≠ 0 := fun h =>
          hzero (Decimal.ext h)
        refine ⟨?_, row :: own, ?_, ?_⟩
        · rw [htotal, hsum, map_cons, sum_cons]
          omega
        · rw [hrows, append_assoc, List.singleton_append]
        · simp only [map_cons, List.filter_cons, hne, ne_eq,
            not_false_eq_true, decide_true, if_true]
          exact .cons (exposureRow_eq_ok hrow) hown

theorem positionRows_eq_ok (hopen : portfolio.quantity ≠ Decimal.zero)
    (h : s.positionRows composition rows portfolio = .ok rows') :
    ∃ own, rows' = rows ++ own ∧ RowsOf portfolio.instrumentId (markOf s.marks portfolio)
        ((s.holdings portfolio).filter (· ≠ 0)) own := by
  rw [positionRows, if_neg hopen] at h
  simp only [bind_eq_ok, Prod.exists] at h
  obtain ⟨attributed, shared, hfold, remainder, hremainder, h⟩ := h
  obtain ⟨htotal, own, rfl, hown⟩ := attributeRows_eq_ok hfold
  rw [checkedSub_eq_ok] at hremainder
  have hshares : (s.shares portfolio.instrumentId).values.map Decimal.scaled
      = (s.strategyAttribution[portfolio.instrumentId]?.getD ∅).toList.map
          fun entry => entry.2.scaled := by
    rw [OrderedMap.values_eq_map_snd, map_map]
    rfl
  rw [scaled_zero, Int.zero_add, ← hshares] at htotal
  rw [← hshares] at hown
  simp only [holdings, filter_append]
  split at h
  · next hzero =>
      rw [hzero, scaled_zero, htotal] at hremainder
      refine ⟨own, (Except.ok.inj h).symm, ?_⟩
      simpa [← hremainder] using hown
  · next hne =>
      simp only [bind_eq_ok, pure_eq_ok] at h
      obtain ⟨row, hrow, rfl⟩ := h
      refine ⟨own ++ [row], (append_assoc _ _ _), ?_⟩
      have hrowOf := exposureRow_eq_ok hrow
      rw [hremainder, htotal] at hrowOf
      have hscaled : portfolio.quantity.scaled
          - ((s.shares portfolio.instrumentId).values.map
              Decimal.scaled).sum ≠ 0 := by
        rw [← htotal, ← hremainder]
        exact fun h => hne (Decimal.ext h)
      refine List.rel_append hown ?_
      simp only [List.filter_cons, hscaled, ne_eq, not_false_eq_true,
        decide_true, if_true, List.filter_nil]
      exact .cons hrowOf .nil

theorem wholeRows_eq_ok (hopen : portfolio.quantity ≠ Decimal.zero)
    (h : s.wholeRows composition rows portfolio = .ok rows') :
    ∃ whole, rows' = rows ++ [whole] ∧
      RowOf portfolio.instrumentId (markOf s.marks portfolio)
        portfolio.quantity.scaled whole := by
  rw [wholeRows, if_neg hopen] at h
  simp only [bind_eq_ok, pure_eq_ok] at h
  obtain ⟨whole, hwhole, rfl⟩ := h
  exact ⟨whole, rfl, exposureRow_eq_ok hwhole⟩

/-! ## Splitting positions into rows -/

section

variable {instrumentId : String} {mark : Decimal} {quantities : List Int}
  {own : List RiskPosition}

theorem RowsOf.instrument (h : RowsOf instrumentId mark quantities own) :
    ∀ row ∈ own, row.instrumentId = instrumentId := by
  induction h with
  | nil =>
    intro row hmem
    cases hmem
  | cons hrow _ ih =>
    intro row hmem
    rcases mem_cons.mp hmem with rfl | hmem
    · exact hrow.instrument
    · exact ih row hmem

theorem RowsOf.exposures (h : RowsOf instrumentId mark quantities own) :
    own.map RiskPosition.exposure = quantities.map (valueAt mark) := by
  induction h with
  | nil => rfl
  | cons hrow _ ih => rw [map_cons, map_cons, hrow.exposure, ih]

theorem valueAt_zero (mark : Decimal) : valueAt mark 0 = 0 := by
  simp [valueAt]

theorem netOf_holdings (h : RowsOf instrumentId mark (quantities.filter (· ≠ 0)) own) :
    netOf own = (quantities.map (valueAt mark)).sum := by
  rw [netOf, h.exposures]
  clear h
  induction quantities with
  | nil => rfl
  | cons quantity quantities ih =>
    by_cases hzero : quantity = 0
    · simpa [hzero, valueAt_zero] using ih
    · simpa [hzero] using ih

theorem exposures_iff (h : RowsOf instrumentId mark (quantities.filter (· ≠ 0)) own)
    {P : Int → Prop} (hzero : P 0) : (∀ row ∈ own, P row.exposure) ↔
      ∀ quantity ∈ quantities, P (valueAt mark quantity) := by
  have hmap : (∀ x ∈ own.map RiskPosition.exposure, P x) ↔
      ∀ x ∈ (quantities.filter (· ≠ 0)).map (valueAt mark), P x := by
    rw [h.exposures]
  simp only [List.forall_mem_map, mem_filter, decide_eq_true_eq,
    and_imp] at hmap
  rw [hmap]
  refine forall₂_congr fun quantity _ => ⟨fun h => ?_, fun h _ => h⟩
  by_cases hquantity : quantity = 0
  · rw [hquantity, valueAt_zero]
    exact hzero
  · exact h hquantity

end

structure Splits (s : ServiceRecord) (portfolios : List Portfolio)
    (own wholes : List RiskPosition) : Prop where
  net : netOf own = netOf wholes
  gross_le : grossOf wholes ≤ grossOf own
  oneSided : grossOf own = grossOf wholes → ∀ portfolio ∈ portfolios, s.OneSided portfolio
  gross : (∀ portfolio ∈ portfolios, s.OneSided portfolio) → grossOf own = grossOf wholes
  instruments : (∀ portfolio ∈ portfolios, s.OneSided portfolio) →
    ∀ instrumentId, grossIn own instrumentId = grossIn wholes instrumentId

theorem Splits.append {portfolios portfolios' : List Portfolio}
    {own own' wholes wholes' : List RiskPosition}
    (h : Splits s portfolios own wholes) (h' : Splits s portfolios' own' wholes') :
    Splits s (portfolios ++ portfolios') (own ++ own') (wholes ++ wholes') := by
  have hle := h.gross_le
  have hle' := h'.gross_le
  refine ⟨?_, ?_, ?_, ?_, ?_⟩
  · rw [netOf_append, netOf_append, h.net, h'.net]
  · rw [grossOf_append, grossOf_append]
    omega
  · intro hgross
    rw [grossOf_append, grossOf_append] at hgross
    have hfirst := h.oneSided (by omega)
    have hsecond := h'.oneSided (by omega)
    exact List.forall_mem_append.mpr ⟨hfirst, hsecond⟩
  · intro hsided
    rw [List.forall_mem_append] at hsided
    rw [grossOf_append, grossOf_append, h.gross hsided.1, h'.gross hsided.2]
  · intro hsided instrumentId
    rw [List.forall_mem_append] at hsided
    rw [grossIn_append, grossIn_append, h.instruments hsided.1, h'.instruments hsided.2]

theorem Splits.position {own : List RiskPosition} {whole : RiskPosition}
    (hvalues : s.ValuesAddUp portfolio)
    (hown : RowsOf portfolio.instrumentId (markOf s.marks portfolio)
      ((s.holdings portfolio).filter (· ≠ 0)) own)
    (hwhole : RowOf portfolio.instrumentId (markOf s.marks portfolio)
      portfolio.quantity.scaled whole) : Splits s [portfolio] own [whole] := by
  have hnet : netOf own = whole.exposure := by
    rw [netOf_holdings hown, hwhole.exposure]
    exact hvalues
  have hgross : grossOf [whole] = |netOf own| := by
    simp [grossOf, hnet]
  have hsided : |netOf own| = grossOf own ↔ s.OneSided portfolio := by
    rw [abs_netOf_eq_iff, OneSided,
      exposures_iff (P := fun x => 0 ≤ x) hown (le_refl 0),
      exposures_iff (P := fun x => x ≤ 0) hown (le_refl 0)]
  refine ⟨?_, ?_, ?_, ?_, ?_⟩
  · simp [netOf, hnet.symm]
  · rw [hgross]
    exact abs_netOf_le own
  · intro h
    rw [List.forall_mem_singleton, ← hsided, ← hgross, h]
  · intro h
    rw [List.forall_mem_singleton, ← hsided] at h
    rw [hgross, h]
  · intro h instrumentId
    rw [List.forall_mem_singleton, ← hsided] at h
    have hsingle : ∀ row ∈ [whole],
        row.instrumentId = portfolio.instrumentId := by
      simpa using hwhole.instrument
    rw [grossIn_of_instrument hown.instrument, grossIn_of_instrument hsingle, hgross, h]

theorem splits_of_rows {portfolios : List Portfolio}
    (hvalues : ∀ portfolio ∈ portfolios.filter (·.quantity ≠ Decimal.zero),
      s.ValuesAddUp portfolio) {whole whole' : List RiskPosition}
    (hrows : portfolios.foldlM (s.positionRows composition) rows = .ok rows')
    (hwhole : portfolios.foldlM (s.wholeRows composition) whole = .ok whole') :
    ∃ own wholes, rows' = rows ++ own ∧ whole' = whole ++ wholes ∧
      Splits s (portfolios.filter (·.quantity ≠ Decimal.zero)) own wholes := by
  induction portfolios generalizing rows whole with
  | nil =>
    obtain rfl := Except.ok.inj hrows
    obtain rfl := Except.ok.inj hwhole
    refine ⟨[], [], by simp, by simp, rfl, le_refl _, by simp,
      fun _ => rfl, fun _ _ => rfl⟩
  | cons portfolio portfolios ih =>
    simp only [foldlM_cons, bind_eq_ok] at hrows hwhole
    obtain ⟨nextRows, hnextRows, hrows⟩ := hrows
    obtain ⟨nextWhole, hnextWhole, hwhole⟩ := hwhole
    by_cases hopen : portfolio.quantity = Decimal.zero
    · rw [positionRows, if_pos hopen] at hnextRows
      rw [wholeRows, if_pos hopen] at hnextWhole
      obtain rfl := Except.ok.inj hnextRows
      obtain rfl := Except.ok.inj hnextWhole
      simp only [List.filter_cons, hopen, ne_eq, not_true_eq_false,
        decide_false, Bool.false_eq_true, if_false] at hvalues ⊢
      exact ih hvalues hrows hwhole
    · obtain ⟨own, rfl, hown⟩ := positionRows_eq_ok hopen hnextRows
      obtain ⟨single, rfl, hsingle⟩ := wholeRows_eq_ok hopen hnextWhole
      simp only [List.filter_cons, hopen, ne_eq, not_false_eq_true,
        decide_true, if_true] at hvalues ⊢
      rw [forall_mem_cons] at hvalues
      obtain ⟨rest, wholes, rfl, rfl, hsplits⟩ :=
        ih hvalues.2 hrows hwhole
      refine ⟨own ++ rest, [single] ++ wholes, by simp, by simp, ?_⟩
      exact (Splits.position hvalues.1 hown hsingle).append hsplits

/-! ## The metrics -/

/-- Where the values of the holdings add up, the kernel sees the exposure of
the positions exactly when no two holdings of one position oppose each
other. -/
theorem attribution_neutral_iff {decidedAt : String}
    {snapshot : PortfolioRiskSnapshot} {marginUsed : Decimal}
    {wholes : List RiskPosition} {candidates : List CandidateOrder}
    {attributed aggregated : PortfolioRiskDecision}
    (hstate : s.portfolioRiskState composition decidedAt
      = .ok (some (snapshot, marginUsed)))
    (hwholes : s.portfolios.values.foldlM (s.wholeRows composition) [] = .ok wholes)
    (hattributed : evaluatePortfolioRiskWithCandidates composition.policy
      snapshot candidates = .ok attributed)
    (haggregated : evaluatePortfolioRiskWithCandidates composition.policy
      { snapshot with positions := wholes } candidates = .ok aggregated)
    (hvalues : ∀ portfolio ∈ s.openPositions, s.ValuesAddUp portfolio) :
    (attributed.metrics.grossExposure = aggregated.metrics.grossExposure ∧
        attributed.metrics.netExposure = aggregated.metrics.netExposure ∧
          attributed.metrics.concentrationBps = aggregated.metrics.concentrationBps) ↔
      ∀ portfolio ∈ s.openPositions, s.OneSided portfolio := by
  have hrows : s.portfolios.values.foldlM (s.positionRows composition) []
      = .ok snapshot.positions := by
    simp only [portfolioRiskState, bind_eq_ok] at hstate
    obtain ⟨equity, -, hstate⟩ := hstate
    split at hstate
    · cases hstate
    · simp only [bind_eq_ok, pure_eq_ok,
        Option.some.injEq, Prod.mk.injEq] at hstate
      obtain ⟨positions, hpositions, _, -, _, -, _, -, _, -, rfl, -⟩ := hstate
      exact hpositions
  obtain ⟨own, merged, hown, hmerged, hsplits⟩ :=
    splits_of_rows hvalues hrows hwholes
  rw [nil_append] at hown hmerged
  subst hmerged
  obtain ⟨added, base, filled, heval⟩ := evaluate_eq_ok hattributed
  obtain ⟨added', base', filled', heval'⟩ := evaluate_eq_ok haggregated
  obtain rfl := Except.ok.inj (heval.rows.symm.trans heval'.rows)
  have hover := aggregateMetrics_over heval.filledMetrics
  have hover' := aggregateMetrics_over heval'.filledMetrics
  obtain ⟨hgross, hnet, hconcentration⟩ :=
    applyWorkingBounds_frame heval.widened
  obtain ⟨hgross', hnet', hconcentration'⟩ :=
    applyWorkingBounds_frame heval'.widened
  simp only [hown, append_assoc] at hover hover'
  have hgrossEq : filled.grossExposure = filled'.grossExposure ↔
      grossOf own = grossOf wholes := by
    rw [← scaled_inj, hover.gross, hover'.gross]
    simp only [grossOf_append]
    exact Int.add_left_inj _
  rw [hgross, hgross', hnet, hnet', hconcentration, hconcentration', hgrossEq]
  constructor
  · exact fun h => hsplits.oneSided h.1
  · intro hsided
    refine ⟨hsplits.gross hsided, ?_, ?_⟩
    · apply Decimal.ext
      rw [hover.net, hover'.net]
      simp only [netOf_append, hsplits.net]
    · refine hover.concentration_eq hover' ?_ fun instrumentId => ?_
      · simp only [grossOf_append, hsplits.gross hsided]
      · simp only [grossIn_append, hsplits.instruments hsided]

end ServiceRecord

namespace Session

attribute [local instance] contentHash

def exposureLimits : PortfolioRiskPolicy where
  version := "exposure-1"
  globalKillSwitch := false
  maxGrossExposure := amount 100000000000000
  maxAbsNetExposure := amount 100000000000000
  maxLeverageBps := amount 1000000000000
  maxConcentrationBps := amount 1000000000000
  maxDailyLoss := amount 100000000000000
  maxDrawdownBps := amount 1000000000000
  maxMarginUtilizationBps := amount 1000000000000
  maxAbsDelta := amount 100000000000000
  maxAbsGamma := amount 100000000000000
  maxOpenOrders := 10
  maxOrderRate := 10
  allowedInstruments := ∅
  restrictedInstruments := ∅
  sectorLimits := ∅
  assetClassLimits := ∅
  currencyLimits := ∅
  strategyLimits := ∅
  maxNewsSlippageBps := none
  maxSpreadMultiplierBps := none

def composition : PortfolioRiskComposition := ⟨exposureLimits, ∅, none⟩

def composedPolicy : PaperRiskPolicy := { policy with portfolioRisk := some composition }

def composedStart : PaperTradingService IbkrPaperAdapter :=
  { start with
    toServiceRecord := startRecord ⟨account, composedPolicy, ""⟩ killSwitches }

theorem composedStart_started : PaperTradingService.Started composedStart := by
  have haccount : account.validate = .ok () := by decide
  have hpolicy : composedPolicy.validate = .ok () := by decide
  refine ⟨composedStart, ⟨account, composedPolicy, killSwitches, broker, ?_, ?_⟩, rfl⟩
  · exact @PaperTradingService.Switches.new "switches-1" killSwitches
      (by decide)
  · simp only [PaperTradingService.new, haccount, hpolicy]
    rfl

def opposedHoldings : List Move :=
  [submission,
    .fill "order-intent-1" (amount 1000000000) (amount 10000000000) (amount 0),
    .operate .synchronize,
    .operate (.submitIntent
      { intent with
        intentId := "intent-2", strategyId := "strategy-2", side := .sell
        quantity := amount 500000000 } market decidedAt none),
    .fill "order-intent-2" (amount 500000000) (amount 10000000000) (amount 0),
    .operate .synchronize]

def decisions (s : ServiceRecord) :
    Result (Option (PortfolioRiskDecision × PortfolioRiskDecision)) := do
  let state ← s.portfolioRiskState composition decidedAt
  match state with
  | none => pure none
  | some (snapshot, _) => do
    let wholes ← s.portfolios.values.foldlM (s.wholeRows composition) []
    let attributed ← evaluatePortfolioRiskWithCandidates composition.policy
      snapshot []
    let aggregated ← evaluatePortfolioRiskWithCandidates composition.policy
      { snapshot with positions := wholes } []
    pure (some (attributed, aggregated))

def grossExposures (s : ServiceRecord) : Option (Decimal × Decimal) :=
  match decisions s with
  | .ok (some (attributed, aggregated)) =>
    some (attributed.metrics.grossExposure, aggregated.metrics.grossExposure)
  | _ => none

theorem decisions_eq_ok {s : ServiceRecord}
    {attributed aggregated : PortfolioRiskDecision}
    (h : decisions s = .ok (some (attributed, aggregated))) :
    ∃ snapshot marginUsed wholes, s.portfolioRiskState composition decidedAt
          = .ok (some (snapshot, marginUsed)) ∧
        s.portfolios.values.foldlM (s.wholeRows composition) [] = .ok wholes ∧
          evaluatePortfolioRiskWithCandidates composition.policy snapshot []
              = .ok attributed ∧
            evaluatePortfolioRiskWithCandidates composition.policy
              { snapshot with positions := wholes } [] = .ok aggregated := by
  simp only [decisions, bind_eq_ok] at h
  obtain ⟨state, hstate, h⟩ := h
  split at h
  · cases h
  · simp only [bind_eq_ok, pure_eq_ok,
      Option.some.injEq, Prod.mk.injEq] at h
    obtain ⟨wholes, hwholes, _, hattributed, _, haggregated, rfl, rfl⟩ := h
    exact ⟨_, _, wholes, hstate, hwholes, hattributed, haggregated⟩

theorem grossExposures_eq_some {s : ServiceRecord}
    {gross gross' : Decimal} (h : grossExposures s = some (gross, gross')) :
    ∃ attributed aggregated, decisions s = .ok (some (attributed, aggregated)) ∧
        attributed.metrics.grossExposure = gross ∧
          aggregated.metrics.grossExposure = gross' := by
  unfold grossExposures at h
  split at h
  · next hdecisions =>
      rw [Option.some.injEq, Prod.mk.injEq] at h
      exact ⟨_, _, hdecisions, h.1, h.2⟩
  · cases h

theorem plays_configuration (moves : List Move)
    (s : PaperTradingService IbkrPaperAdapter) :
    (moves.foldl play s).toConfiguration = s.toConfiguration := by
  induction moves generalizing s with
  | nil => rfl
  | cons move moves ih => exact (ih _).trans (play_step s move).configuration

/-- The position of one strategy. -/
theorem single_strategy_neutral :
    ∃ (s : ServiceRecord) (attributed aggregated : PortfolioRiskDecision),
      decisions s = .ok (some (attributed, aggregated)) ∧
        attributed.metrics.grossExposure = amount 100000000000 ∧
          attributed.metrics.grossExposure = aggregated.metrics.grossExposure ∧
            attributed.metrics.netExposure = aggregated.metrics.netExposure ∧
              attributed.metrics.concentrationBps
                = aggregated.metrics.concentrationBps := by
  have hgross : grossExposures ((opposedHoldings.take 3).foldl play
      composedStart).toServiceRecord
        = some (amount 100000000000, amount 100000000000) := by
    decide +kernel
  obtain ⟨attributed, aggregated, hdecisions, hfirst, -⟩ :=
    grossExposures_eq_some hgross
  obtain ⟨snapshot, marginUsed, wholes, hstate, hwholes, hattributed,
    haggregated⟩ := decisions_eq_ok hdecisions
  refine ⟨_, attributed, aggregated, hdecisions, hfirst,
    (ServiceRecord.attribution_neutral_iff hstate hwholes hattributed
      haggregated ?_).mpr ?_⟩
  · decide +kernel
  · decide +kernel

/-- A position two strategies hold on opposite sides counts twice. -/
theorem opposed_strategies_distort : ∃ s : PaperTradingService IbkrPaperAdapter,
      Reachable PaperTradingService.Started PaperTradingService.Step s ∧
        ∃ composition snapshot marginUsed wholes attributed aggregated,
          s.riskPolicy.portfolioRisk = some composition ∧
            s.portfolioRiskState composition decidedAt
                = .ok (some (snapshot, marginUsed)) ∧
              s.portfolios.values.foldlM (s.wholeRows composition) [] = .ok wholes ∧
                evaluatePortfolioRiskWithCandidates composition.policy
                    snapshot [] = .ok attributed ∧
                  evaluatePortfolioRiskWithCandidates composition.policy
                      { snapshot with positions := wholes } []
                        = .ok aggregated ∧
                    attributed.metrics.grossExposure
                      ≠ aggregated.metrics.grossExposure := by
  have hgross : grossExposures (opposedHoldings.foldl play composedStart).toServiceRecord
        = some (amount 150000000000, amount 50000000000) := by
    decide +kernel
  obtain ⟨attributed, aggregated, hdecisions, hfirst, hsecond⟩ :=
    grossExposures_eq_some hgross
  obtain ⟨snapshot, marginUsed, wholes, hstate, hwholes, hattributed,
    haggregated⟩ := decisions_eq_ok hdecisions
  have hpolicy := congrArg (·.riskPolicy.portfolioRisk)
    (plays_configuration opposedHoldings composedStart)
  refine ⟨_, plays_reachable (.init composedStart_started) opposedHoldings,
    composition, snapshot, marginUsed, wholes, attributed, aggregated,
    hpolicy, hstate, hwholes, hattributed, haggregated, ?_⟩
  rw [hfirst, hsecond]
  decide

end Session

end Follon.Paper
