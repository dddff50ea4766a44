import Follon.Backtest.Ledger
import Follon.ControlPlane.ReplayEngine
import Follon.Foundation.Digest

/-!
# Datasets and specifications

The content-addressed market data of a backtest, the specification that names
it, and the report a run ends in.
-/

namespace Follon.Backtest

open Foundation Domain Accounting ControlPlane

def backtestProvenanceVersion : Nat := 2

def sha256 [ContentHash] (value : String) : String :=
  ContentHash.hexDigest value.toUTF8.toList

def isSha256 (value : String) : Bool :=
  value.utf8ByteSize == 64 && value.toList.all fun c =>
    isAsciiDigit c || ('a' ≤ c && c ≤ 'f')

structure HistoricalBar where
  eventTime : String
  bar : Bar
  deriving DecidableEq

/-! ## Content addresses -/

def HistoricalBar.record (historical : HistoricalBar) : String :=
  let bar := historical.bar
  joinWith "|"
    [historical.eventTime, bar.instrumentId, bar.open_.display,
      bar.high.display, bar.low.display, bar.close.display,
      bar.volume.display, toString bar.intervalSeconds.toNat,
      bar.exchangeTimezone] ++ "\n"

def HistoricalBar.key (historical : HistoricalBar) : String × String :=
  (historical.eventTime, historical.bar.instrumentId)

def precedes (key previous : String × String) : Bool := compare key previous == .lt

def checkBars (message : String) :
    OrderedSet (String × String) → Option (String × String) →
      List HistoricalBar → Result Unit
  | _, _, [] => pure ()
  | identities, previous, historical :: rest => do
    historical.bar.validate
    refuseIf (isUtcTimestamp historical.eventTime = false ∨ historical.key ∈ identities ∨
        (previous.any (precedes historical.key)) = true) message
    checkBars message (identities.insert historical.key)
      (some historical.key) rest

def actionLe (left right : CorporateAction) : Prop :=
  left.effectiveAt < right.effectiveAt ∨
    (left.effectiveAt = right.effectiveAt ∧ left.actionId ≤ right.actionId)

instance : DecidableRel actionLe :=
  fun left right => inferInstanceAs (Decidable
    (left.effectiveAt < right.effectiveAt ∨ (left.effectiveAt = right.effectiveAt ∧
        left.actionId ≤ right.actionId)))

def sortActions (actions : List CorporateAction) : List CorporateAction :=
  actions.insertionSort actionLe

def checkActions : OrderedSet String → List CorporateAction → Result Unit
  | _, [] => pure ()
  | actionIds, action :: rest => do
    action.validate
    refuseIf (action.actionId ∈ actionIds)
      ("duplicate corporate action ID: " ++ action.actionId)
    checkActions (actionIds.insert action.actionId) rest

def hashMarketData [ContentHash] (bars : List HistoricalBar)
    (actions : List CorporateAction) : Result String := do
  checkBars "bars must be unique and ordered by canonical UTC/instrument" ∅
    none bars
  let ordered := sortActions actions
  checkActions ∅ ordered
  pure (sha256 (joinWith "" (bars.map HistoricalBar.record ++
    ordered.map fun action => "action|" ++ action.canonicalRecord ++ "\n")))

structure DatasetManifest where
  (datasetId datasetVersion referenceDataVersion universeId startsAt : String)
  (endsAt contentHash : String)
  deriving DecidableEq

namespace DatasetManifest

def validate (manifest : DatasetManifest) : Result Unit := do
  validateCanonicalId "dataset_id" manifest.datasetId
  validateCanonicalId "universe_id" manifest.universeId
  refuseIf (manifest.datasetVersion.isEmpty = true ∨
      manifest.referenceDataVersion.isEmpty = true ∨
      isUtcTimestamp manifest.startsAt = false ∨
      isUtcTimestamp manifest.endsAt = false ∨
      manifest.endsAt < manifest.startsAt ∨
      isSha256 manifest.contentHash = false)
    "invalid dataset manifest"

def fromMarketData [ContentHash] (datasetId datasetVersion
    referenceDataVersion universeId : String) (bars : List HistoricalBar)
    (actions : List CorporateAction) : Result DatasetManifest := do
  match bars.head?, bars.getLast? with
  | some first, some last => do
    let contentHash ← hashMarketData bars actions
    let manifest : DatasetManifest :=
      { datasetId, datasetVersion, referenceDataVersion, universeId
        startsAt := first.eventTime
        endsAt := last.eventTime
        contentHash }
    manifest.validate
    pure manifest
  | _, _ => .error ⟨"dataset cannot be empty"⟩

end DatasetManifest

/-! ## Specifications -/

structure BacktestSpec where
  strategyBundleHash : String
  dataset : DatasetManifest
  (configurationId configurationVersion configurationHash : String)
  seed : UInt64
  (engineVersion startsAt endsAt : String)
  deriving DecidableEq

namespace BacktestSpec

def validate (spec : BacktestSpec) : Result Unit := do
  spec.dataset.validate
  validateCanonicalId "configuration_id" spec.configurationId
  refuseIf (isSha256 spec.strategyBundleHash = false ∨
      spec.configurationVersion.isEmpty = true ∨
      isSha256 spec.configurationHash = false ∨
      spec.engineVersion.isEmpty = true ∨
      isUtcTimestamp spec.startsAt = false ∨
      isUtcTimestamp spec.endsAt = false ∨ spec.endsAt < spec.startsAt ∨
      spec.startsAt < spec.dataset.startsAt ∨
      spec.dataset.endsAt < spec.endsAt)
    "invalid reproducibility specification"

def fingerprint [ContentHash] (spec : BacktestSpec) : Result String := do
  spec.validate
  pure (sha256 (joinWith "" ["provenance=" ++ toString backtestProvenanceVersion ++ "\n",
      "strategy=" ++ spec.strategyBundleHash ++ "\n",
      "dataset_id=" ++ spec.dataset.datasetId ++ "\n",
      "dataset_version=" ++ spec.dataset.datasetVersion ++ "\n",
      "dataset_hash=" ++ spec.dataset.contentHash ++ "\n",
      "reference_data=" ++ spec.dataset.referenceDataVersion ++ "\n",
      "universe=" ++ spec.dataset.universeId ++ "\n",
      "config_id=" ++ spec.configurationId ++ "\n",
      "config_version=" ++ spec.configurationVersion ++ "\n",
      "config_hash=" ++ spec.configurationHash ++ "\n",
      "seed=" ++ toString spec.seed.toNat ++ "\n",
      "engine=" ++ spec.engineVersion ++ "\n",
      "starts=" ++ spec.startsAt ++ "\n",
      "ends=" ++ spec.endsAt ++ "\n"]))

end BacktestSpec

structure BacktestInput where
  (accountId currency : String)
  initialCash : Decimal
  bars : List HistoricalBar
  corporateActions : List CorporateAction

namespace BacktestInput

def checkActionInstrument (bars : List HistoricalBar)
    (action : CorporateAction) : Result Unit :=
  refuseIf (action.instrumentId ∉ bars.map fun historical =>
      historical.bar.instrumentId)
    ("corporate action references an instrument outside the dataset: " ++
      action.instrumentId)

def validateAgainst [ContentHash] (input : BacktestInput)
    (spec : BacktestSpec) : Result Unit := do
  validateCanonicalId "account_id" input.accountId
  refuseIf (isCurrencyCode input.currency = false ∨ input.initialCash < Decimal.zero)
    "invalid backtest account balance"
  refuseIf (input.bars = []) "backtest input contains no bars"
  checkBars
    "backtest input bars must be unique and ordered by canonical UTC/instrument"
    ∅ none input.bars
  checkAll (checkActionInstrument input.bars) input.corporateActions
  let actual ← DatasetManifest.fromMarketData spec.dataset.datasetId
    spec.dataset.datasetVersion spec.dataset.referenceDataVersion
    spec.dataset.universeId input.bars input.corporateActions
  refuseIf (actual.contentHash ≠ spec.dataset.contentHash ∨
      actual.startsAt ≠ spec.dataset.startsAt ∨
      actual.endsAt ≠ spec.dataset.endsAt)
    "backtest input does not match its versioned dataset manifest"

end BacktestInput

/-! ## Reports -/

structure EquityPoint where
  eventTime : String
  totalEquity : Decimal

structure PerformanceReport where
  (startingEquity endingEquity netPnl returnBps maxDrawdownBps : Decimal)
  (eventCount tradeCount corporateActionCount : Nat)
  equityCurve : List EquityPoint

namespace PerformanceReport

def returnOn (startingEquity netPnl basisPoints : Decimal) : Result Decimal :=
  if Decimal.zero < startingEquity then do
    let scaled ← netPnl.checkedMul basisPoints
    scaled.checkedDiv startingEquity
  else
    pure Decimal.zero

def drawdownBps (basisPoints peak totalEquity : Decimal) : Result Decimal := do
  let fallen ← peak.checkedSub totalEquity
  let scaled ← fallen.checkedMul basisPoints
  scaled.checkedDiv peak

def trackDrawdown (basisPoints : Decimal) (acc : Decimal × Decimal)
    (point : EquityPoint) : Result (Decimal × Decimal) := do
  let peak := if acc.1 < point.totalEquity then point.totalEquity else acc.1
  if Decimal.zero < peak ∧ point.totalEquity < peak then do
    let drawdown ← drawdownBps basisPoints peak point.totalEquity
    pure (peak, acc.2.max drawdown)
  else
    pure (peak, acc.2)

def fromEquityCurve (startingEquity : Decimal) (equityCurve : List EquityPoint)
    (eventCount tradeCount corporateActionCount : Nat) : Result PerformanceReport := do
  let endingEquity :=
    (equityCurve.getLast?.map EquityPoint.totalEquity).getD startingEquity
  let netPnl ← endingEquity.checkedSub startingEquity
  let basisPoints ← Decimal.fromInteger 10000
  let returnBps ← returnOn startingEquity netPnl basisPoints
  let tracked ← equityCurve.foldlM (trackDrawdown basisPoints)
    (startingEquity, Decimal.zero)
  pure
    { startingEquity, endingEquity, netPnl, returnBps
      maxDrawdownBps := tracked.2
      eventCount, tradeCount, corporateActionCount, equityCurve }

end PerformanceReport

structure BacktestArtifact where
  specification : BacktestSpec
  (specificationFingerprint eventOutputHash : String)
  report : BacktestReport
  accountingEntries : List AccountingEntry
  performance : PerformanceReport

def BacktestArtifact.withRunDetails [ContentHash] (spec : BacktestSpec)
    (canonicalEvents : List String) (report : BacktestReport)
    (accountingEntries : List AccountingEntry)
    (performance : PerformanceReport) : Result BacktestArtifact := do
  let specificationFingerprint ← spec.fingerprint
  pure
    { specification := spec
      specificationFingerprint
      eventOutputHash := sha256 (joinWith "\n" canonicalEvents)
      report, accountingEntries, performance }

end Follon.Backtest
