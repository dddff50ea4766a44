import Follon.Accounting.LotsFollow
import Follon.Backtest.LedgerBooks
import Follon.Backtest.Runner
import Follon.ControlPlane.ReplayBooks
import Follon.ControlPlane.ReplayConservation

/-!
# Two books of one run

The accounting ledger and the engine's portfolios are kept by separate code
from the same fills and splits.  They hold the same figures after every event,
and the ledger's open lots add up to the position they show.
-/

namespace Follon.Backtest

open Foundation Domain Accounting ControlPlane

/-! ## Figures -/

abbrev Figures : Type :=
  Decimal × Decimal × Decimal

def LedgerPosition.figures (position : LedgerPosition) : Figures :=
  (position.quantity, position.averageCost, position.realizedPnl)

def reportedFigures : Option PositionSnapshot → Figures
  | none => (Decimal.zero, Decimal.zero, Decimal.zero)
  | some snapshot =>
    (snapshot.quantity, snapshot.averageCost, snapshot.realizedPnl)

def portfolioFigures (portfolio : Portfolio) : Figures :=
  reportedFigures (some portfolio.positionSnapshot)

variable {fill : Fill} {position position' : LedgerPosition}
  {cash cash' : Decimal} {deltas : Deltas} {book book' : TaxLotBook}

variable {portfolio portfolio' : Portfolio} {instrumentId : String}
  {ratio : Decimal}

theorem Booked.figures (h : Booked fill position cash position' cash' deltas)
    (happly : portfolio.applyFill fill = .ok portfolio')
    (hsame : position.figures = portfolioFigures portfolio) :
    position'.figures = portfolioFigures portfolio' := by
  simp only [LedgerPosition.figures, portfolioFigures, reportedFigures,
    Portfolio.positionSnapshot, Prod.mk.injEq] at hsame ⊢
  obtain ⟨hquantity, hcost, hpnl⟩ := hsame
  simp only [Portfolio.applyFill, ← hquantity, ← hcost, ← hpnl] at happly
  cases h with
  | bought hside hgross hrequired hprior hadded htotal haverage =>
    simp only [hside, hgross, hrequired, hprior, hadded, htotal, haverage,
      bind_eq_ok, pure_eq_ok, Except.ok.injEq,
      exists_eq_left'] at happly
    obtain ⟨_, -, rfl⟩ := happly
    exact ⟨rfl, rfl, rfl⟩
  | sold hside hgross hheld hgain hrealized hnet htotal hleft =>
    simp only [hside, hgain, hrealized, hnet, htotal, hleft, bind_eq_ok, pure_eq_ok, Except.ok.injEq, exists_eq_left'] at happly
    obtain ⟨_, -, _, -, rfl⟩ := happly
    exact ⟨rfl, rfl, rfl⟩

theorem Split.figures (h : Split instrumentId ratio position position' book book' deltas)
    (hsplit : portfolio.applySplit ratio = .ok portfolio')
    (hsame : position.figures = portfolioFigures portfolio) :
    position'.figures = portfolioFigures portfolio' := by
  simp only [LedgerPosition.figures, portfolioFigures, reportedFigures,
    Portfolio.positionSnapshot, Prod.mk.injEq] at hsame ⊢
  obtain ⟨hquantity, hcost, hpnl⟩ := hsame
  simp only [Portfolio.applySplit, ← hquantity, ← hcost, h.quantity,
    h.averageCost, bind_eq_ok, pure_eq_ok, Except.ok.injEq,
    exists_eq_left'] at hsplit
  obtain ⟨_, -, _, -, rfl⟩ := hsplit
  exact ⟨rfl, rfl, h.realizedPnl.trans hpnl⟩

theorem Split.flat (h : Split instrumentId ratio position position' book book' deltas)
    (hquantity : position.quantity = Decimal.zero)
    (hcost : position.averageCost = Decimal.zero) :
    position'.figures = position.figures := by
  have hunits := scaled_of_checkedMul h.quantity
  obtain ⟨-, haverage⟩ := scaled_of_checkedDiv h.averageCost
  rw [hquantity, scaled_zero, Int.zero_mul, Int.zero_tdiv] at hunits
  rw [hcost, scaled_zero, Int.zero_mul, Int.zero_tdiv] at haverage
  have hquantity' : position'.quantity = Decimal.zero := Decimal.ext hunits
  have hcost' : position'.averageCost = Decimal.zero := Decimal.ext haverage
  simp only [LedgerPosition.figures, hquantity, hcost, hquantity', hcost', h.realizedPnl]

theorem Booked.units (h : Booked fill position cash position' cash' deltas) :
    position'.quantity.scaled = position.quantity.scaled + signedFill fill := by
  cases h with
  | bought hside _ _ _ hquantity =>
    rw [checkedAdd_eq_ok] at hquantity
    simp [signedFill, hside, hquantity]
  | sold hside _ _ _ _ _ _ hquantity =>
    rw [checkedSub_eq_ok] at hquantity
    simp only [signedFill, hside, hquantity]
    omega

theorem Booked.held (h : Booked fill position cash position' cash' deltas)
    (hfill : 0 < fill.quantity.scaled) (hheld : 0 ≤ position.quantity.scaled) :
    0 ≤ position'.quantity.scaled := by
  cases h with
  | bought _ _ _ _ hquantity =>
    rw [checkedAdd_eq_ok] at hquantity
    simp only [hquantity]
    omega
  | sold _ _ hcovered _ _ _ _ hquantity =>
    rw [checkedSub_eq_ok] at hquantity
    rw [lt_def] at hcovered
    simp only [hquantity]
    omega

theorem Booked.flat (h : Booked fill position cash position' cash' deltas)
    (hfill : 0 < fill.quantity.scaled) (hheld : 0 ≤ position.quantity.scaled)
    (hflat : position'.quantity = Decimal.zero) :
    position'.averageCost = Decimal.zero := by
  cases h with
  | bought _ _ _ _ hquantity =>
    rw [checkedAdd_eq_ok] at hquantity
    rw [← scaled_inj, scaled_zero] at hflat
    simp only at hflat
    omega
  | sold => exact if_pos hflat

theorem LotsBooked.moves (h : LotsBooked fill book book')
    (hlong : book.long.Open) (hshort : book.short.Open)
    (hnew : book.Unapplied "taxshort-" fill.executionId) :
    TaxLotBook.Moves "taxshort-" fill.instrumentId fill.executionId
      (signedFill fill) 0 book book' := by
  cases h with
  | acquired hside hid hinstrument hquantity hrun =>
    simp only [signedFill, hside]
    rw [← hquantity]
    exact TaxLotBook.moves_acquire hrun hlong hshort hinstrument hid hnew.lot
  | disposed hside hrun =>
    simp only [signedFill, hside]
    exact TaxLotBook.moves_dispose _ hrun hlong hshort hnew.disposal

/-! ## The ledger against the portfolios -/

/-- The ledger and the portfolios show the same figures, and the lots follow
them. -/
structure Matched (accountId : String) (holdings : Holdings)
    (ledger : BacktestLedger) : Prop where
  figures : ∀ instrumentId, (ledger.positionOf instrumentId).figures
    = portfolioFigures (holdings.portfolioOf accountId instrumentId)
  held : ∀ instrumentId, 0 ≤ (ledger.positionOf instrumentId).quantity.scaled
  flat : ∀ instrumentId, (ledger.positionOf instrumentId).quantity = Decimal.zero →
      (ledger.positionOf instrumentId).averageCost = Decimal.zero
  lots : ledger.taxLots.Follows "taxshort-"
    (fun instrumentId => (ledger.positionOf instrumentId).quantity.scaled)
    ledger.executionIds

theorem BacktestLedger.checkFill_ok {ledger : BacktestLedger}
    (h : ledger.checkFill fill = .ok ()) :
    0 < fill.quantity.scaled ∧ fill.executionId ∉ ledger.executionIds := by
  simp only [checkFill, bind_eq_ok, refuseIf_eq_ok, exists_const, not_or,
    le_def, scaled_zero] at h
  obtain ⟨⟨hquantity, -, -⟩, _, -, _, -, _, -, -, hnew⟩ := h
  exact ⟨by omega, hnew⟩

namespace Matched

variable {accountId : String} {holdings : Holdings}
  {ledger ledger' : BacktestLedger}

theorem short_eq_zero (h : Matched accountId holdings ledger)
    (instrumentId : String) : shortQuantity ledger.taxLots instrumentId = 0 := by
  have hquantity := h.lots.quantity instrumentId
  have hheld := h.held instrumentId
  have hshort : 0 ≤ shortQuantity ledger.taxLots instrumentId :=
    (h.lots.short instrumentId).lotQuantity_nonneg
  rcases h.lots.oneSided instrumentId with hlong | hnone
  · omega
  · exact hnone

theorem filled {fill : Fill} {position : LedgerPosition} {deltas : Deltas}
    {portfolio : Portfolio} (h : Matched accountId holdings ledger)
    (hfilled : ledger.Filled fill position deltas ledger')
    (happly : (holdings.portfolioOf accountId fill.instrumentId).applyFill fill
      = .ok portfolio) : Matched accountId
      (holdings.insert (accountId, fill.instrumentId) portfolio) ledger' := by
  have hposition := BacktestLedger.positionOf_insert hfilled.positions
  obtain ⟨hquantity, hnew⟩ := BacktestLedger.checkFill_ok hfilled.checked
  constructor
  · intro other
    rw [hposition, Holdings.portfolioOf_insert]
    by_cases hother : fill.instrumentId = other
    · rw [if_pos hother, if_pos hother]
      exact hfilled.booked.figures happly (h.figures fill.instrumentId)
    · rw [if_neg hother, if_neg hother]
      exact h.figures other
  · intro other
    rw [hposition]
    split
    · exact hfilled.booked.held hquantity (h.held _)
    · exact h.held other
  · intro other
    rw [hposition]
    split
    · exact hfilled.booked.flat hquantity (h.held _)
    · exact h.flat other
  · refine h.lots.moved (hfilled.lots.moves h.lots.long h.lots.short
      (h.lots.unapplied hnew)) ?_ ?_ ?_ ?_ ?_
    · rw [hposition, if_pos rfl, hfilled.booked.units, Int.sub_zero]
    · intro other hother
      rw [hposition, if_neg hother]
    · right
      rw [h.short_eq_zero, Int.add_zero]
    · intro id hid
      rw [hfilled.executionIds]
      exact mem_insert.mpr (.inr hid)
    · rw [hfilled.executionIds]
      exact mem_insert_self

variable {holdings' : Holdings} {ratio : Decimal}

theorem rehold (h : Matched accountId holdings ledger)
    (hsame : ∀ instrumentId, holdings'.portfolioOf accountId instrumentId
      = holdings.portfolioOf accountId instrumentId) :
    Matched accountId holdings' ledger := by
  refine ⟨?_, h.held, h.flat, h.lots⟩
  intro instrumentId
  rw [hsame]
  exact h.figures instrumentId

theorem unmoved (h : Matched accountId holdings ledger)
    (hpositions : ledger'.positions = ledger.positions)
    (hlots : ledger'.taxLots = ledger.taxLots)
    (hids : ledger'.executionIds = ledger.executionIds) :
    Matched accountId holdings ledger' := by
  have hposition : ∀ other, ledger'.positionOf other
      = ledger.positionOf other := by
    intro other
    rw [BacktestLedger.positionOf, hpositions]
    rfl
  refine ⟨?_, ?_, ?_, ?_⟩
  · intro other
    rw [hposition]
    exact h.figures other
  · intro other
    rw [hposition]
    exact h.held other
  · intro other
    rw [hposition]
    exact h.flat other
  · rw [hlots, hids]
    exact h.lots.weaken (fun other => by rw [hposition]) fun _ hid => hid

theorem paid {actionId instrumentId effectiveAt : String} {amount : Decimal}
    (h : Matched accountId holdings ledger)
    (hacted : ledger.Acted (.cashDividend actionId instrumentId effectiveAt
      amount) ledger') : Matched accountId holdings ledger' := by
  cases hacted with
  | noted _ hledger =>
    rw [hledger]
    exact h.unmoved rfl rfl rfl
  | split haction => contradiction
  | paid _ _ _ _ _ hledger =>
    rw [hledger]
    exact h.unmoved rfl rfl rfl

/-- The engine refuses a split that would round a holding down to nothing. -/
theorem applySplit_quantity {portfolio portfolio' : Portfolio}
    (h : portfolio.applySplit ratio = .ok portfolio')
    (hquantity : portfolio.quantity ≠ Decimal.zero) :
    portfolio'.quantity ≠ Decimal.zero := by
  simp only [Portfolio.applySplit, bind_eq_ok, refuseIf_eq_ok, exists_const,
    pure_eq_ok] at h
  obtain ⟨-, quantity, -, averageCost, -, hkept, rfl⟩ := h
  intro hnone
  exact hkept ⟨hnone, hquantity⟩

theorem scaled {instrumentId : String} {deltas : Deltas}
    {position' : LedgerPosition} {book : TaxLotBook}
    {events : List EventEnvelope} (h : Matched accountId holdings ledger)
    (hratio : Decimal.zero < ratio)
    (hsplit : Split instrumentId ratio (ledger.positionOf instrumentId)
      position' ledger.taxLots book deltas)
    (hrescaled : Replay.Rescaled accountId instrumentId ratio holdings events
      holdings') (hpositions : ledger'.positions
      = ledger.positions.insert instrumentId position') (hlots : ledger'.taxLots = book)
    (hids : ledger'.executionIds = ledger.executionIds) :
    Matched accountId holdings' ledger' := by
  have hposition := BacktestLedger.positionOf_insert hpositions
  have hunits := scaled_of_checkedMul hsplit.quantity
  have hquantity : (ledger.positionOf instrumentId).quantity
      = (holdings.portfolioOf accountId instrumentId).quantity :=
    congrArg Prod.fst (h.figures instrumentId)
  rw [lt_def, scaled_zero] at hratio
  have hfigures : position'.figures
      = portfolioFigures (holdings'.portfolioOf accountId instrumentId) := by
    rcases hrescaled.split with ⟨hflat, hsame⟩ | ⟨hholds, hscaled⟩
    · rw [hsame, ← h.figures]
      rw [← hquantity] at hflat
      exact hsplit.flat hflat (h.flat _ hflat)
    · exact hsplit.figures hscaled (h.figures instrumentId)
  refine ⟨?_, ?_, ?_, ?_⟩
  · intro other
    rw [hposition]
    by_cases hother : instrumentId = other
    · rw [if_pos hother, ← hother]
      exact hfigures
    · rw [if_neg hother, hrescaled.frame other hother]
      exact h.figures other
  · intro other
    rw [hposition]
    split
    · rw [hunits]
      exact Int.tdiv_nonneg (Int.mul_nonneg (h.held _) (by omega)) (by decide)
    · exact h.held other
  · intro other
    rw [hposition]
    split
    · intro hnone
      rcases hrescaled.split with ⟨hflat, -⟩ | ⟨hholds, hscaled⟩
      · rw [← hquantity] at hflat
        have hcost := h.flat _ hflat
        rw [← hcost]
        exact congrArg (·.2.1) (hsplit.flat hflat hcost)
      · refine absurd ?_ (applySplit_quantity hscaled hholds)
        rw [← hnone]
        exact (congrArg Prod.fst hfigures).symm
    · exact h.flat other
  · rw [hlots, hids]
    refine h.lots.split hsplit.lots ?_ ?_
    · rw [hposition, if_pos rfl, hunits]
    · intro other hother
      rw [hposition, if_neg hother]

theorem acted {action : CorporateAction} {holdings' : Holdings}
    {events : List EventEnvelope} {actionId instrumentId effectiveAt : String}
    {ratio : Decimal} (h : Matched accountId holdings ledger)
    (hvalid : action.validate = .ok ())
    (haction : action = .split actionId instrumentId effectiveAt ratio)
    (hacted : ledger.Acted action ledger')
    (hrescaled : Replay.Rescaled accountId instrumentId ratio holdings events
      holdings') : Matched accountId holdings' ledger' := by
  subst haction
  have hratio : Decimal.zero < ratio := by
    simp only [CorporateAction.validate, bind_eq_ok, refuseIf_eq_ok] at hvalid
    obtain ⟨_, -, _, -, _, -, hvalue⟩ := hvalid
    rw [le_def] at hvalue
    rw [lt_def]
    exact Int.not_le.mp hvalue
  cases hacted with
  | noted hnone hledger =>
    rw [hledger]
    refine Matched.unmoved (h.rehold fun other => ?_) rfl rfl rfl
    by_cases hother : instrumentId = other
    · subst hother
      refine (hrescaled.split.resolve_right fun hheld => hheld.1 ?_).2
      have hflat : ledger.positionOf instrumentId = .flat instrumentId := by
        change ledger.positions[instrumentId]? = none at hnone
        rw [BacktestLedger.positionOf, hnone]
        rfl
      have hfigures := h.figures instrumentId
      rw [hflat] at hfigures
      exact (congrArg Prod.fst hfigures).symm
    · exact hrescaled.frame other hother
  | split haction hfind hsplit hledger =>
    obtain ⟨rfl, rfl, rfl, rfl⟩ := haction
    rw [hledger]
    rw [← BacktestLedger.positionOf_of_find hfind] at hsplit
    exact h.scaled hratio hsplit hrescaled rfl rfl rfl
  | paid haction => contradiction

end Matched

/-! ## Runs -/

def BacktestLedger.LotsTotal (ledger : BacktestLedger) : Prop :=
  ∀ instrumentId, longQuantity ledger.taxLots instrumentId
        = (ledger.positionOf instrumentId).quantity.scaled ∧
      ledger.taxLots.shortLots instrumentId = []

def BacktestLedger.ShowsReported (ledger : BacktestLedger) (accountId : String)
    (events : List EventEnvelope) : Prop :=
  ∀ instrumentId, (ledger.positionOf instrumentId).figures
    = reportedFigures (lastPosition accountId events instrumentId)

def awaitsPosition (events : List EventEnvelope) : Bool :=
  events.getLast?.any fun event => event.payload.isFill

def Checkpoint.Sound (accountId : String) (checkpoint : Checkpoint) : Prop :=
  checkpoint.ledger.LotsTotal ∧ (awaitsPosition checkpoint.events = false →
      checkpoint.ledger.ShowsReported accountId checkpoint.events)

/-- Every fill is followed by the account's position, and the ledger booked
with it shows that position already. -/
def FillsReported (accountId : String) (returned : List EventEnvelope)
    (checkpoints : List Checkpoint) : Prop :=
  ∀ n fill, returned[n]?.map EventEnvelope.payload = some (.fill fill) →
    (∃ snapshot : PositionSnapshot,
      returned[n + 1]?.map EventEnvelope.payload = some (.position snapshot) ∧
      snapshot.accountId = accountId ∧
      snapshot.instrumentId = fill.instrumentId) ∧
    ∃ ledger, ⟨returned.take (n + 1), ledger⟩ ∈ checkpoints ∧
      ledger.ShowsReported accountId (returned.take (n + 2))

structure InStep {S : Type} (accountId : String) (holdings : Holdings)
    (run : BacktestRun S) : Prop where
  named : holdings.Named
  reported : holdings.Reported accountId run.returned
  matched : Matched accountId holdings run.ledger
  answered : awaitsPosition run.returned = false
  canonical : run.canonicalEvents = run.returned.map EventEnvelope.canonicalJson
  checkpoints : ∀ checkpoint ∈ run.checkpoints, checkpoint.Sound accountId
  fills : FillsReported accountId run.returned run.checkpoints

namespace Matched

variable {accountId : String} {holdings : Holdings} {ledger : BacktestLedger}

theorem lotsTotal (h : Matched accountId holdings ledger) : ledger.LotsTotal := by
  intro instrumentId
  have hshort := h.short_eq_zero instrumentId
  have hquantity := h.lots.quantity instrumentId
  constructor
  · omega
  · exact (h.lots.short instrumentId).eq_nil hshort

theorem showsReported {events : List EventEnvelope}
    (h : Matched accountId holdings ledger)
    (hreported : holdings.Reported accountId events) :
    ledger.ShowsReported accountId events := by
  intro instrumentId
  rw [h.figures, hreported, Holdings.portfolioOf]
  cases holdings[(accountId, instrumentId)]? with
  | none => rfl
  | some portfolio => rfl

end Matched

theorem FillsReported.append {accountId : String}
    {returned new : List EventEnvelope} {checkpoints checkpoints' : List Checkpoint}
    (h : FillsReported accountId returned checkpoints) (hsub : checkpoints ⊆ checkpoints')
    (hnew : ∀ n fill, new[n]?.map EventEnvelope.payload = some (.fill fill) →
      (∃ snapshot : PositionSnapshot,
        new[n + 1]?.map EventEnvelope.payload = some (.position snapshot) ∧
        snapshot.accountId = accountId ∧
        snapshot.instrumentId = fill.instrumentId) ∧
      ∃ ledger, ⟨returned ++ new.take (n + 1), ledger⟩ ∈ checkpoints' ∧
        ledger.ShowsReported accountId (returned ++ new.take (n + 2))) :
    FillsReported accountId (returned ++ new) checkpoints' := by
  intro n fill hfill
  by_cases hn : n < returned.length
  · rw [List.getElem?_append_left hn] at hfill
    obtain ⟨⟨snapshot, hposition, hnames⟩, ledger, hmem, hshows⟩ := h n fill hfill
    have hnext : n + 1 < returned.length := by
      by_contra hlast
      rw [List.getElem?_eq_none (by omega)] at hposition
      contradiction
    refine ⟨⟨snapshot, ?_, hnames⟩, ledger, ?_, ?_⟩
    · rw [List.getElem?_append_left hnext]
      exact hposition
    · rw [List.take_append_of_le_length (by omega)]
      exact hsub hmem
    · rw [List.take_append_of_le_length (by omega)]
      exact hshows
  · obtain ⟨k, rfl⟩ : ∃ k, n = returned.length + k :=
      ⟨n - returned.length, by omega⟩
    rw [List.getElem?_append_right (by omega), Nat.add_sub_cancel_left] at hfill
    obtain ⟨⟨snapshot, hposition, hnames⟩, ledger, hmem, hshows⟩ :=
      hnew k fill hfill
    have hnext : returned.length + k + 1 - returned.length = k + 1 := by omega
    have htake : ∀ m, (returned ++ new).take (returned.length + k + m)
        = returned ++ new.take (k + m) := by
      intro m
      rw [Nat.add_assoc, List.take_length_add_append]
    refine ⟨⟨snapshot, ?_, hnames⟩, ledger, ?_, ?_⟩
    · rw [List.getElem?_append_right (by omega), hnext]
      exact hposition
    · rw [htake]
      exact hmem
    · rw [htake]
      exact hshows

namespace InStep

variable {S : Type} {accountId : String} {holdings holdings' : Holdings}
  {run run' : BacktestRun S}

variable {new : List EventEnvelope}

theorem extend (h : InStep accountId holdings run)
    (hreturned : run'.returned = run.returned ++ new) (hcanonical : run'.canonicalEvents
      = run.canonicalEvents ++ new.map EventEnvelope.canonicalJson)
    (hnamed : holdings'.Named)
    (hreported : holdings'.Reported accountId (run.returned ++ new))
    (hmatched : Matched accountId holdings' run'.ledger)
    (hanswered : awaitsPosition (run.returned ++ new) = false) {made : List Checkpoint}
    (hcheckpoints : run'.checkpoints = run.checkpoints ++ made)
    (hsound : ∀ checkpoint ∈ made, checkpoint.Sound accountId) (hfills : ∀ n fill,
      new[n]?.map EventEnvelope.payload = some (.fill fill) →
      (∃ snapshot : PositionSnapshot,
        new[n + 1]?.map EventEnvelope.payload = some (.position snapshot) ∧
        snapshot.accountId = accountId ∧
        snapshot.instrumentId = fill.instrumentId) ∧
      ∃ ledger, ⟨run.returned ++ new.take (n + 1), ledger⟩ ∈ made ∧
        ledger.ShowsReported accountId (run.returned ++ new.take (n + 2))) :
    InStep accountId holdings' run' := by
  refine ⟨hnamed, ?_, hmatched, ?_, ?_, ?_, ?_⟩
  · rw [hreturned]
    exact hreported
  · rw [hreturned]
    exact hanswered
  · rw [hcanonical, h.canonical, hreturned, map_append]
  · intro checkpoint hmem
    rw [hcheckpoints, mem_append] at hmem
    exact hmem.elim (h.checkpoints checkpoint) (hsound checkpoint)
  · rw [hreturned]
    refine h.fills.append ?_ ?_
    · rw [hcheckpoints]
      exact List.subset_append_left _ _
    · intro n fill hfill
      obtain ⟨hposition, ledger, hmem, hshows⟩ := hfills n fill hfill
      refine ⟨hposition, ledger, ?_, hshows⟩
      rw [hcheckpoints]
      exact mem_append_right _ hmem

theorem quiet (h : InStep accountId holdings run)
    (hreturned : run'.returned = run.returned ++ new) (hcanonical : run'.canonicalEvents
      = run.canonicalEvents ++ new.map EventEnvelope.canonicalJson)
    (hcheckpoints : run'.checkpoints
      = run.checkpoints ++ [⟨run.returned ++ new, run'.ledger⟩])
    (hnew : ∀ event ∈ new, event.payload.isFill = false) (hnamed : holdings'.Named)
    (hreported : holdings'.Reported accountId (run.returned ++ new))
    (hmatched : Matched accountId holdings' run'.ledger) :
    InStep accountId holdings' run' := by
  have hanswered : awaitsPosition (run.returned ++ new) = false := by
    rcases List.eq_nil_or_concat new with rfl | ⟨before, event, rfl⟩
    · rw [append_nil]
      exact h.answered
    · have hlast := hnew event (by simp)
      simp [awaitsPosition, ← append_assoc, hlast]
  refine h.extend hreturned hcanonical hnamed hreported hmatched hanswered
    hcheckpoints ?_ ?_
  · intro checkpoint hmem
    obtain rfl := mem_singleton.mp hmem
    exact ⟨hmatched.lotsTotal, fun _ => hmatched.showsReported hreported⟩
  · intro n fill hfill
    obtain ⟨event, hevent, hpayload⟩ := map_eq_some_iff.mp hfill
    have hnone := hnew event (List.mem_of_getElem? hevent)
    rw [hpayload] at hnone
    contradiction

theorem silent {event : EventEnvelope} (h : InStep accountId holdings run)
    (hsilent : event.payload.isSilent = true) :
    InStep accountId holdings (run.push event).check := by
  simp only [EventPayload.isSilent, and_eq_true,
    Bool.not_eq_true'] at hsilent
  refine h.quiet rfl rfl rfl ?_ h.named (h.reported.silent hsilent.2) h.matched
  intro other hother
  obtain rfl := mem_singleton.mp hother
  exact hsilent.1

theorem filled {fillEvent positionEvent : EventEnvelope} {fill : Fill}
    {portfolio : Portfolio} {ledger : BacktestLedger}
    (h : InStep accountId holdings run) (hfill : fillEvent.payload = .fill fill)
    (happly : (holdings.portfolioOf accountId fill.instrumentId).applyFill fill
      = .ok portfolio)
    (hposition : positionEvent.payload = .position portfolio.positionSnapshot)
    (hbook : (BacktestLedger.applyFill fill).run run.ledger
      = (.ok (), ledger)) : InStep accountId
      (holdings.insert (accountId, fill.instrumentId) portfolio)
      (((run.setLedger ledger).push fillEvent).check.push
        positionEvent).check := by
  obtain ⟨position, deltas, hfilled⟩ := BacktestLedger.applyFill_eq_ok hbook
  have hmatched := h.matched.filled hfilled happly
  obtain ⟨haccount, hinstrument⟩ := Portfolio.applyFill_names happly
  obtain ⟨haccount', hinstrument'⟩ :=
    Holdings.portfolioOf_named h.named accountId fill.instrumentId
  rw [haccount'] at haccount
  rw [hinstrument'] at hinstrument
  have hsilent : fillEvent.payload.isPosition = false := by
    rw [hfill]
    rfl
  have hreported := (h.reported.silent hsilent).insert haccount hinstrument
    hposition
  rw [append_assoc] at hreported
  have hshows := hmatched.showsReported hreported
  have hreturned : (run.returned ++ [fillEvent]) ++ [positionEvent]
      = run.returned ++ [fillEvent, positionEvent] :=
    append_assoc _ _ _
  have hcheckpoints : run.checkpoints ++ [⟨run.returned ++ [fillEvent],
        ledger⟩] ++ [⟨(run.returned ++ [fillEvent]) ++ [positionEvent], ledger⟩]
      = run.checkpoints ++ [⟨run.returned ++ [fillEvent], ledger⟩,
        ⟨run.returned ++ [fillEvent, positionEvent], ledger⟩] := by
    rw [hreturned, append_assoc]
    rfl
  refine h.extend hreturned (append_assoc _ _ _)
    (h.named.insert haccount hinstrument) hreported hmatched ?_ hcheckpoints
    ?_ ?_
  · rw [← hreturned]
    simp [awaitsPosition, hposition, EventPayload.isFill]
  · intro checkpoint hmem
    simp only [mem_cons, not_mem_nil, or_false] at hmem
    rcases hmem with rfl | rfl
    · refine ⟨hmatched.lotsTotal, fun hanswered => ?_⟩
      simp [awaitsPosition, hfill, EventPayload.isFill] at hanswered
    · exact ⟨hmatched.lotsTotal, fun _ => hshows⟩
  · intro n booked hbooked
    cases n with
    | zero =>
      obtain rfl : booked = fill := by
        simpa [hfill] using hbooked.symm
      refine ⟨⟨portfolio.positionSnapshot, ?_, haccount, hinstrument⟩,
        ledger, mem_cons_self, hshows⟩
      simp [hposition]
    | succ n =>
      cases n with
      | zero => simp [hposition] at hbooked
      | succ n => simp at hbooked

theorem same (h : InStep accountId holdings run)
    (hledger : run'.ledger = run.ledger) (hreturned : run'.returned = run.returned)
    (hcanonical : run'.canonicalEvents = run.canonicalEvents)
    (hcheckpoints : run'.checkpoints = run.checkpoints) :
    InStep accountId holdings run' := by
  refine ⟨h.named, ?_, ?_, ?_, ?_, ?_, ?_⟩
  · rw [hreturned]
    exact h.reported
  · rw [hledger]
    exact h.matched
  · rw [hreturned]
    exact h.answered
  · rw [hcanonical, hreturned]
    exact h.canonical
  · rw [hcheckpoints]
    exact h.checkpoints
  · rw [hreturned, hcheckpoints]
    exact h.fills

end InStep

/-! ## Steps of a run -/

namespace BacktestRun

variable {S : Type} {accountId : String} {holdings holdings' : Holdings}
  {run run' : BacktestRun S}

variable {α : Type} {event : EventEnvelope} {historical : HistoricalBar}
  {market : MarketPreconditions} {effect? : Option CorporateActionEffect}
  {action : CorporateAction} {actions : List CorporateAction}

theorem onReplay_eq_ok {x : ReplayM InMemoryEventStore S α} {a : α}
    (h : (onReplay x).run run = (.ok a, run')) :
    ∃ replay, x.run run.replay = (.ok a, replay) ∧
      run' = setReplay replay run := by
  rw [onReplay, run_zoom, Prod.mk.injEq] at h
  obtain ⟨hresult, rfl⟩ := h
  exact ⟨_, Prod.ext hresult rfl, rfl⟩

theorem onLedger_eq_ok {x : LedgerM α} {a : α}
    (h : (onLedger x).run run = (.ok a, run')) :
    ∃ ledger, x.run run.ledger = (.ok a, ledger) ∧
      run' = setLedger ledger run := by
  rw [onLedger, run_zoom, Prod.mk.injEq] at h
  obtain ⟨hresult, rfl⟩ := h
  exact ⟨_, Prod.ext hresult rfl, rfl⟩

theorem bookEvents_cons {rest : List EventEnvelope}
    (h : (bookEvents (event :: rest)).run run = (.ok (), run')) :
    ∃ booked, (bookEvent event).run run = (.ok (), booked) ∧
      (bookEvents rest).run (booked.push event).check = (.ok (), run') := by
  obtain ⟨_, booked, hbooked, h⟩ := run_bind_eq_ok.mp h
  exact ⟨booked, hbooked, h⟩

theorem bookEvent_of_plain (hplain : event.payload.isFill = false)
    (h : (bookEvent event).run run = (.ok (), run')) : run' = run := by
  unfold bookEvent at h
  cases hpayload : event.payload with
  | fill _ =>
    rw [hpayload] at hplain
    contradiction
  | _ =>
    rw [hpayload] at h
    exact (Prod.mk.inj h).2.symm

theorem bookEvents_inStep {events : List EventEnvelope}
    (hreports : Reports accountId holdings events holdings')
    (h : InStep accountId holdings run)
    (hrun : (bookEvents events).run run = (.ok (), run')) :
    InStep accountId holdings' run' ∧ run'.replay = run.replay := by
  induction hreports generalizing run with
  | nil =>
    obtain ⟨-, rfl⟩ := Prod.mk.inj hrun
    exact ⟨h, rfl⟩
  | silent hsilent _ ih =>
    obtain ⟨booked, hbooked, hrest⟩ := bookEvents_cons hrun
    have hplain := hsilent
    simp only [EventPayload.isSilent, and_eq_true,
      Bool.not_eq_true'] at hplain
    rw [bookEvent_of_plain hplain.1 hbooked] at hrest
    obtain ⟨hstep, hsame⟩ := ih (h.silent hsilent) hrest
    exact ⟨hstep, hsame⟩
  | filled hfill happly hposition _ ih =>
    obtain ⟨booked, hbooked, hrun'⟩ := bookEvents_cons hrun
    obtain ⟨booked', hbooked', hrest⟩ := bookEvents_cons hrun'
    rw [bookEvent, hfill] at hbooked
    obtain ⟨ledger, hbook, rfl⟩ := onLedger_eq_ok hbooked
    rw [bookEvent_of_plain (by rw [hposition]; rfl) hbooked'] at hrest
    obtain ⟨hstep, hsame⟩ :=
      ih (h.filled hfill happly hposition hbook) hrest
    exact ⟨hstep, hsame⟩

theorem markEquity_inStep (h : InStep accountId holdings run)
    (hrun : (markEquity historical).run run = (.ok (), run')) :
    InStep accountId holdings run' ∧ run'.replay = run.replay := by
  simp only [markEquity, run_update_bind, run_read_bind,
    run_lift_bind_eq_ok, run_update, Prod.mk.injEq,
    true_and] at hrun
  obtain ⟨report, -, rfl⟩ := hrun
  exact ⟨h.same rfl rfl rfl rfl, rfl⟩

def Settled (accountId : String) (run : BacktestRun S) : Prop :=
  InStep accountId run.replay.engine.portfolios run

variable [Strategy S]

theorem replayHistorical_settled (h : Settled accountId run)
    (hrun : (replayHistorical accountId market historical).run run
      = (.ok (), run')) : Settled accountId run' := by
  obtain ⟨result, replayed, hreplay, hrest⟩ := run_bind_eq_ok.mp hrun
  obtain ⟨_, booked, hbook, hmark⟩ := run_bind_eq_ok.mp hrest
  obtain ⟨replay, hprocess, rfl⟩ := onReplay_eq_ok hreplay
  have hreports := Replay.processBar_reports hprocess
  have hkept : InStep accountId run.replay.engine.portfolios
      (setReplay replay run) := h.same rfl rfl rfl rfl
  obtain ⟨hbooked, hsame⟩ := bookEvents_inStep hreports hkept hbook
  obtain ⟨hmarked, hsame'⟩ := markEquity_inStep hbooked hmark
  rw [Settled, hsame', hsame]
  exact hmarked

/-! ## Corporate actions -/

omit [Strategy S] in
theorem splitMark_eq_ok {instrumentId : String} {ratio : Decimal}
    (h : (splitMark instrumentId ratio).run run = (.ok (), run')) :
    run'.replay = run.replay ∧ run'.ledger = run.ledger ∧ run'.returned = run.returned ∧
      run'.canonicalEvents = run.canonicalEvents ∧
      run'.checkpoints = run.checkpoints := by
  rw [splitMark, run_read_bind] at h
  cases hmark : run.marks[instrumentId]? with
  | none =>
    rw [hmark] at h
    obtain ⟨-, rfl⟩ := Prod.mk.inj h
    exact ⟨rfl, rfl, rfl, rfl, rfl⟩
  | some mark =>
    simp only [hmark, run_lift_bind_eq_ok, run_update,
      Prod.mk.injEq, true_and] at h
    obtain ⟨_, -, rfl⟩ := h
    exact ⟨rfl, rfl, rfl, rfl, rfl⟩

omit [Strategy S] in
theorem foldl_push (events : List EventEnvelope) (run : BacktestRun S) :
    events.foldl (fun run event => run.push event) run
      = { run with
          canonicalEvents := run.canonicalEvents ++ events.map EventEnvelope.canonicalJson
          returned := run.returned ++ events } := by
  induction events generalizing run with
  | nil => simp
  | cons event rest ih =>
    rw [List.foldl_cons, ih]
    simp [push]

theorem tell_settled (h : Settled accountId run)
    (hrun : (tell effect?).run run = (.ok (), run')) : Settled accountId run' := by
  cases effect? with
  | none =>
    obtain ⟨-, rfl⟩ := Prod.mk.inj hrun
    exact h
  | some effect =>
    obtain ⟨replay, hconsult, rfl⟩ := onReplay_eq_ok hrun
    obtain ⟨-, rfl⟩ := Prod.mk.inj hconsult
    exact h.same rfl rfl rfl rfl

variable {eventTime : String}

omit [Strategy S] in
theorem actionEffect_settled {entriesBefore : Nat} {ledger : BacktestLedger}
    (h : Settled accountId run)
    (hbook : (BacktestLedger.applyCorporateAction action).run run.ledger
      = (.ok (), ledger))
    (hrun : (actionEffect accountId eventTime entriesBefore action).run
      (setLedger ledger run) = (.ok effect?, run')) : Settled accountId run'.check := by
  obtain ⟨hchecked, hacted⟩ := BacktestLedger.applyCorporateAction_eq_ok hbook
  simp only [BacktestLedger.checkAction, bind_eq_ok] at hchecked
  obtain ⟨_, hvalid, -⟩ := hchecked
  cases action with
  | split actionId instrumentId effectiveAt ratio =>
    obtain ⟨_, marked, hmark, hrest⟩ := run_bind_eq_ok.mp hrun
    obtain ⟨events, replayed, hreplay, hpush⟩ :=
      run_bind_eq_ok.mp hrest
    obtain ⟨hreplaySame, hledger, hreturned, hcanonical, hcheckpoints⟩ :=
      splitMark_eq_ok hmark
    obtain ⟨replay, hsplit, rfl⟩ := onReplay_eq_ok hreplay
    rw [pushAll, run_update_bind, foldl_push] at hpush
    obtain ⟨-, rfl⟩ := Prod.mk.inj hpush
    rw [hreplaySame] at hsplit
    have hrescaled := Replay.applySplit_rescaled hsplit h.named accountId
    have hmatched := h.matched.acted hvalid rfl hacted hrescaled
    refine InStep.quiet h ?_ ?_ ?_ hrescaled.fills hrescaled.named
      (hrescaled.reported _ h.reported) ?_
    · simp only [check, setReplay, hreturned]
      rfl
    · simp only [check, setReplay, hcanonical]
      rfl
    · simp only [check, setReplay, hcheckpoints, hreturned]
      rfl
    · simp only [check, setReplay, hledger]
      exact hmatched
  | cashDividend actionId instrumentId effectiveAt amount =>
    obtain ⟨-, rfl⟩ := Prod.mk.inj hrun
    have hnil : run.returned ++ [] = run.returned := append_nil _
    refine InStep.quiet h hnil.symm (append_nil _).symm ?_
      (fun _ hmem => nomatch hmem) h.named ?_ (h.matched.paid hacted)
    · rw [hnil]
      rfl
    · rw [hnil]
      exact h.reported

theorem applyAction_settled (h : Settled accountId run)
    (hrun : (applyAction accountId eventTime action).run run = (.ok (), run')) :
    Settled accountId run' := by
  rw [applyAction, run_read_bind] at hrun
  obtain ⟨_, booked, hbooked, hrest⟩ := run_bind_eq_ok.mp hrun
  obtain ⟨effect?, acted, heffect, hrest'⟩ := run_bind_eq_ok.mp hrest
  rw [run_update_bind] at hrest'
  obtain ⟨_, told, htell, hnote⟩ := run_bind_eq_ok.mp hrest'
  obtain ⟨ledger, hbook, rfl⟩ := onLedger_eq_ok hbooked
  obtain ⟨-, rfl⟩ := Prod.mk.inj hnote
  have htold := tell_settled (actionEffect_settled h hbook heffect) htell
  exact InStep.same htold rfl rfl rfl rfl

theorem applyDue_settled {remaining : List CorporateAction} (h : Settled accountId run)
    (hrun : (applyDue accountId eventTime actions).run run
      = (.ok remaining, run')) : Settled accountId run' := by
  induction actions generalizing run with
  | nil =>
    obtain ⟨-, rfl⟩ := Prod.mk.inj hrun
    exact h
  | cons action rest ih =>
    rw [applyDue] at hrun
    split at hrun
    · obtain ⟨_, acted, hacted, hrest⟩ := run_bind_eq_ok.mp hrun
      exact ih (applyAction_settled h hacted) hrest
    · obtain ⟨-, rfl⟩ := Prod.mk.inj hrun
      exact h

theorem replayAll_settled {bars : List HistoricalBar} (h : Settled accountId run)
    (hrun : (replayAll accountId market bars actions).run run = (.ok (), run'))
    : Settled accountId run' := by
  induction bars generalizing run actions with
  | nil =>
    obtain ⟨-, rfl⟩ := Prod.mk.inj hrun
    exact h
  | cons historical rest ih =>
    obtain ⟨remaining, due, hdue, hrest⟩ := run_bind_eq_ok.mp hrun
    obtain ⟨_, replayed, hreplay, hrest'⟩ :=
      run_bind_eq_ok.mp hrest
    exact ih (replayHistorical_settled (applyDue_settled h hdue) hreplay)
      hrest'

end BacktestRun

/-! ## The runner -/

structure NeverDrifts {S : Type} (accountId : String) (final : BacktestRun S)
    (completed : CompletedBacktest) : Prop where
  checkpoints : ∀ checkpoint ∈ final.checkpoints, checkpoint.Sound accountId
  fills : FillsReported accountId final.returned final.checkpoints
  lots : final.ledger.LotsTotal
  shown : final.ledger.ShowsReported accountId final.returned
  returned : completed.canonicalEvents = final.returned.map EventEnvelope.canonicalJson
  stored : completed.canonicalEvents
    = final.replay.sink.events.map EventEnvelope.canonicalJson

namespace BacktestRunner

variable {S : Type}

variable {strategy : S} {final : BacktestRun S} {market : MarketPreconditions}
  {after : BacktestRunner × S}

theorem opening_inStep {accountId currency : String} {initialCash : Decimal}
    {engine : ReplayEngine} {ledger : BacktestLedger} (hfresh : engine.portfolios = ∅)
    (h : BacktestLedger.new currency initialCash = .ok ledger) :
    BacktestRun.Settled accountId (opening engine strategy ledger) := by
  simp only [BacktestLedger.new, bind_eq_ok, pure_eq_ok] at h
  obtain ⟨_, -, rfl⟩ := h
  have hnone : ∀ key : String × String, engine.portfolios[key]? = none := by
    intro key
    rw [hfresh]
    exact Std.ExtTreeMap.getElem?_empty
  refine ⟨?_, ?_, ⟨?_, ?_, ?_, ?_⟩, rfl, rfl, ?_, ?_⟩
  · intro account instrumentId portfolio hfound
    rw [opening, hnone] at hfound
    contradiction
  · intro instrumentId
    rw [opening, hnone]
    rfl
  · intro instrumentId
    rw [Holdings.portfolioOf, opening, hnone]
    simp [BacktestLedger.positionOf]
    rfl
  · intro instrumentId
    simp [opening, BacktestLedger.positionOf, LedgerPosition.flat]
  · intro instrumentId
    simp [opening, BacktestLedger.positionOf, LedgerPosition.flat]
  · refine (TaxLotBook.Follows.empty "taxshort-" ∅).weaken ?_ fun _ hid => hid
    intro instrumentId
    simp [opening, BacktestLedger.positionOf, LedgerPosition.flat]
  · intro checkpoint hmem
    contradiction
  · intro n fill hfill
    simp [opening] at hfill

variable [ContentHash]

variable {completed : CompletedBacktest}

theorem complete_eq_ok {spec : BacktestSpec} {input : BacktestInput}
    (h : complete spec input final = .ok completed) :
    final.replay.sink.events.map EventEnvelope.canonicalJson = final.canonicalEvents ∧
      completed.canonicalEvents = final.canonicalEvents := by
  simp only [complete, bind_eq_ok, refuseIf_eq_ok, exists_const, pure_eq_ok, not_not] at h
  obtain ⟨hsame, _, -, _, -, _, -, rfl⟩ := h
  exact ⟨hsame, rfl⟩

theorem execute_settled [Strategy S] {runner : BacktestRunner}
    {input : BacktestInput} (hfresh : runner.engine.portfolios = ∅)
    (h : (execute input market).run (runner, strategy) = (.ok final, after))
    : BacktestRun.Settled input.accountId final := by
  simp only [execute, run_read_bind, run_lift_bind_eq_ok,
    run_update_bind, run_pure, Prod.mk.injEq,
    Except.ok.injEq] at h
  obtain ⟨_, -, _, -, _, -, ledger, hledger, _, hplayed, rfl, -⟩ := h
  exact BacktestRun.replayAll_settled (opening_inStep hfresh hledger)
    (Prod.ext hplayed rfl)

theorem execute_spec [Strategy S] {runner : BacktestRunner} {input : BacktestInput}
    (h : (execute input market).run (runner, strategy) = (.ok final, after))
    : after.1.spec = runner.spec := by
  simp only [execute, run_read_bind, run_lift_bind_eq_ok,
    run_update_bind, run_pure, Prod.mk.injEq] at h
  obtain ⟨_, -, _, -, _, -, ledger, -, _, -, -, rfl⟩ := h
  rfl

theorem run_of_complete [Strategy S] {runner : BacktestRunner} {input : BacktestInput}
    (h : (execute input market).run (runner, strategy) = (.ok final, after))
    (hcomplete : complete runner.spec input final = .ok completed) :
    (run input market).run (runner, strategy) = (.ok completed, after) := by
  rw [run, run_bind_ok h, run_read_bind, run_lift, execute_spec h, hcomplete]

/-- A run that returns has kept its ledger in step with the portfolios of an
engine that held none. -/
theorem books_never_drift [Strategy S] {runner : BacktestRunner} {strategy : S}
    {input : BacktestInput} {market : MarketPreconditions}
    {completed : CompletedBacktest} {after : BacktestRunner × S}
    (hfresh : runner.engine.portfolios = ∅)
    (hrun : (run input market).run (runner, strategy) = (.ok completed, after)) :
    ∃ final, (execute input market).run (runner, strategy)
        = (.ok final, after) ∧ NeverDrifts input.accountId final completed := by
  obtain ⟨final, state, hexecute, hrest⟩ := run_bind_eq_ok.mp hrun
  rw [run_read_bind, run_lift, Prod.mk.injEq] at hrest
  obtain ⟨hcomplete, rfl⟩ := hrest
  obtain ⟨hstored, hreturned⟩ := complete_eq_ok hcomplete
  have hsettled := execute_settled hfresh hexecute
  refine ⟨final, hexecute, hsettled.checkpoints, hsettled.fills,
    hsettled.matched.lotsTotal, hsettled.matched.showsReported hsettled.reported,
    hreturned.trans hsettled.canonical, hreturned.trans hstored.symm⟩

end BacktestRunner

/-! ## A purchase and a split -/

namespace SplitRun

open ControlPlane.Session

@[reducible] def recordedDigests : ContentHash where
  hexDigest bytes :=
    match bytes.head? with
    | some 50 =>
      "8df2482b068dd4744e41a5ed0695f0906dd3103931a280aa8fc10c69d5c2ead3"
    | some 112 =>
      "921e1330bde5949ff01a39047dcc9a04744274a079f5d05cb29808285913e4be"
    | _ =>
      "259d5491d2cdb6a204d094396f0db65f887f5d786ceeb228ce4041263d886e19"

attribute [local instance] recordedDigests

def two : Decimal := .two

def twenty : Decimal := .twenty

def input : BacktestInput where
  accountId := "acct-1"
  currency := "USD"
  initialCash := ⟨1000000000000, by decide, by decide⟩
  bars := minutes.map fun time => ⟨time, bar⟩
  corporateActions := [.split "split-1" "aapl" "2026-01-05T14:32:00Z" two]

def spec : BacktestSpec where
  strategyBundleHash :=
    "e3b0c44298fc1c149afbf4c8996fb92427ae41e4649b934ca495991b7852b855"
  dataset :=
    { datasetId := "dataset-1", datasetVersion := "1"
      referenceDataVersion := "1", universeId := "universe-1"
      startsAt := "2026-01-05T14:30:00Z", endsAt := "2026-01-05T14:32:00Z"
      contentHash :=
        "8df2482b068dd4744e41a5ed0695f0906dd3103931a280aa8fc10c69d5c2ead3" }
  configurationId := "config-1"
  configurationVersion := "1"
  configurationHash :=
    "e3b0c44298fc1c149afbf4c8996fb92427ae41e4649b934ca495991b7852b855"
  seed := 7
  engineVersion := "1"
  startsAt := "2026-01-05T14:30:00Z"
  endsAt := "2026-01-05T14:32:00Z"

def runner : BacktestRunner := ⟨spec, engine none, false⟩

def script : Script := ⟨[some intent]⟩

theorem books_never_drift_purchase_and_split : ∃ completed final,
      ((BacktestRunner.run input market).run (runner, script)).1 = .ok completed ∧
        (final.ledger.positionOf "aapl").quantity = twenty ∧
        NeverDrifts "acct-1" (final : BacktestRun Script) completed := by
  obtain ⟨final, hexecute, hstored, htwenty, ⟨report, hreport⟩,
      ⟨performance, hperformance⟩⟩ :
      ∃ final, ((BacktestRunner.execute input market).run
          (runner, script)).1 = .ok final ∧
        final.replay.sink.events = final.returned ∧
        (final.ledger.positionOf "aapl").quantity = twenty ∧
        (∃ report, final.ledger.report final.marks = .ok report) ∧
        ∃ performance, PerformanceReport.fromEquityCurve input.initialCash
          final.equityCurve final.canonicalEvents.length
          (final.ledger.entries.countP fun entry => entry.entryType == "FILL")
          final.appliedCorporateActionIds.length = .ok performance := by
    decide +kernel
  obtain ⟨fingerprint, hfingerprint⟩ : ∃ fingerprint,
      spec.fingerprint = .ok fingerprint := by
    decide +kernel
  rcases hresult : (BacktestRunner.execute input market).run (runner, script)
    with ⟨result, after⟩
  rw [hresult] at hexecute
  obtain rfl : result = .ok final := hexecute
  have hcanonical := (BacktestRunner.execute_settled rfl hresult).canonical
  have hcomplete : ∃ completed,
      BacktestRunner.complete spec input final = .ok completed := by
    have hsame : final.replay.sink.events.map EventEnvelope.canonicalJson
        = final.canonicalEvents := by
      rw [hstored, hcanonical]
    simp only [BacktestRunner.complete, BacktestArtifact.withRunDetails,
      bind_eq_ok, refuseIf_eq_ok, exists_const, hfingerprint, hreport,
      hperformance, hsame, pure_eq_ok, Except.ok.injEq, exists_eq_left',
      not_true_eq_false, ne_eq, true_and, not_false_eq_true, exists_eq']
  obtain ⟨completed, hcompleted⟩ := hcomplete
  have hrun := BacktestRunner.run_of_complete hresult hcompleted
  obtain ⟨final', hexecute', hdrift⟩ :=
    BacktestRunner.books_never_drift rfl hrun
  have hfinal : final' = final :=
    Except.ok.inj (congrArg Prod.fst (hexecute'.symm.trans hresult))
  rw [hfinal] at hdrift
  exact ⟨completed, final, congrArg Prod.fst hrun, htwenty, hdrift⟩

end SplitRun

end Follon.Backtest
