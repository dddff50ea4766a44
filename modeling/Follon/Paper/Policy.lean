import Follon.Accounting.Margin
import Follon.ControlPlane.Portfolio
import Follon.Risk.Kernel

/-!
# Accounts, market observations and the pre-trade policy
-/

namespace Follon.Paper

open Foundation Domain Accounting Risk

/-! ## Shared validation -/

def decimal (name value : String) : Result Decimal :=
  match Decimal.parse value with
  | .ok d => .ok d
  | .error e => .error ⟨"invalid " ++ name ++ ": " ++ e.message⟩

def isBrokerReason (value : String) : Bool := !isBlank value && value.utf8ByteSize ≤ 1024

def validateBrokerReason (name value : String) : Result Unit :=
  refuseIf (isBrokerReason value = false)
    (name ++ " must contain 1 to 1024 characters")

@[simp] theorem validateBrokerReason_eq_ok {name value : String} {u : Unit} :
    validateBrokerReason name value = .ok u ↔ isBrokerReason value = true := by
  simp [validateBrokerReason]

def validateExchangeDate (value : String) : Result Unit := do
  refuseIf (value.utf8ByteSize ≠ 10 ∨
      (value.toList.zipIdx.all fun (c, index) =>
        if index = 4 ∨ index = 7 then c == '-' else isAsciiDigit c) = false)
    "exchange date must be YYYY-MM-DD"
  validateUtcTimestamp "exchange date" (value ++ "T00:00:00Z")

/-! ## Account -/

structure PaperAccount where
  (accountId currency : String)
  initialCash : Decimal
  environment : String
  deriving DecidableEq

def PaperAccount.validate (account : PaperAccount) : Result Unit := do
  validateCanonicalId "paper account_id" account.accountId
  refuseIf (isCurrencyCode account.currency = false ∨
      account.initialCash < Decimal.zero ∨ account.environment ≠ "PAPER")
    "paper account must use a currency, non-negative cash, and PAPER environment"

/-! ## Market observations -/

structure PaperMarketData where
  instrumentId : String
  markPrice : Decimal
  observedAt : String
  deriving DecidableEq

def PaperMarketData.validate (market : PaperMarketData) : Result Unit := do
  validateCanonicalId "paper market instrument_id" market.instrumentId
  validateUtcTimestamp "paper market observation time" market.observedAt
  refuseIf (market.markPrice ≤ Decimal.zero)
    "paper market mark price must be positive"

structure PaperComboMarketData where
  marks : List PaperMarketData
  deriving DecidableEq

namespace PaperComboMarketData

def markFor (market : PaperComboMarketData) (instrumentId : String) :
    Option PaperMarketData :=
  market.marks.find? fun mark => mark.instrumentId == instrumentId

def missingMark (instrumentId : String) : PaperError :=
  ⟨"paper combo observation is missing a mark for " ++ instrumentId⟩

def validateFor (market : PaperComboMarketData) (intent : ComboIntent) : Result Unit := do
  refuseIf (market.marks.length ≠ intent.legs.length)
    "paper combo observation must carry exactly one mark per leg"
  checkAll PaperMarketData.validate market.marks
  checkAll (fun leg : ComboIntentLeg =>
    refuseIf (market.markFor leg.instrumentId = none)
      (missingMark leg.instrumentId).message) intent.legs

def minText (a b : String) : String :=
  if b < a then b else a

def oldestObservedAt (market : PaperComboMarketData) : Result String :=
  match market.marks with
  | [] => .error ⟨"paper combo observation is empty"⟩
  | mark :: marks =>
    .ok ((marks.map (·.observedAt)).foldl minText mark.observedAt)

end PaperComboMarketData

/-! ## Policy -/

structure InstrumentBucket where
  (assetClass currency sector : String)
  deriving DecidableEq

structure PortfolioRiskComposition where
  policy : PortfolioRiskPolicy
  instrumentBuckets : OrderedMap String InstrumentBucket
  marginRates : Option (OrderedMap String MarginRate)

structure ShortExposurePolicy where
  maxShortQuantity : Decimal

structure PaperRiskPolicy where
  (version tradingCalendarId : String)
  (maxOrderQuantity maxOrderNotional maxPriceDeviationBps : Decimal)
  maxOpenOrders : Nat
  (maxPositionQuantity maxRealizedLoss : Decimal)
  (maxMarketDataAgeSeconds maxOrderRate orderRateWindowSeconds : Nat)
  portfolioRisk : Option PortfolioRiskComposition
  shortExposure : Option ShortExposurePolicy
  (instrumentTickSizes instrumentLotSizes : OrderedMap String Decimal)

/-- The first instrument listed in exactly one of two tables. -/
def unpairedInstrument (tickSizes lotSizes : OrderedMap String Decimal) : Option String :=
  (tickSizes.keys.find? fun key => !lotSizes.contains key).or
    (lotSizes.keys.find? fun key => !tickSizes.contains key)

namespace PaperRiskPolicy

def offGrid (value increment : Decimal) : Bool := value.scaled.tmod increment.scaled != 0

def tickRejection (policy : PaperRiskPolicy) (instrumentId : String)
    (limitPrice : Option Decimal) : Option String :=
  match policy.instrumentTickSizes[instrumentId]? with
  | none => some "INSTRUMENT_TICK_SIZE_UNCONFIGURED"
  | some tick =>
    match limitPrice with
    | some price =>
      if offGrid price tick then some "LIMIT_PRICE_OFF_TICK_GRID" else none
    | none => none

def lotRejection (policy : PaperRiskPolicy) (instrumentId : String)
    (quantity : Decimal) : Option String :=
  match policy.instrumentLotSizes[instrumentId]? with
  | none => some "INSTRUMENT_LOT_SIZE_UNCONFIGURED"
  | some lot =>
    if offGrid quantity lot then some "ORDER_QUANTITY_OFF_LOT_SIZE" else none

def finestTick (policy : PaperRiskPolicy) (legs : List ComboIntentLeg) : Option Decimal :=
  match legs.filterMap fun leg =>
    policy.instrumentTickSizes[leg.instrumentId]? with
  | [] => none
  | tick :: ticks => some (ticks.foldl Decimal.min tick)

def comboTickRejections (policy : PaperRiskPolicy) (intent : ComboIntent) : List String :=
  (intent.legs.filterMap fun leg =>
      policy.tickRejection leg.instrumentId (some leg.limitPrice)) ++
    match policy.finestTick intent.legs with
    | some tick =>
      if offGrid intent.priceLimit.amount tick then
        ["COMBO_NET_PRICE_OFF_TICK_GRID"]
      else
        []
    | none => []

def renderLegEntries (intent : ComboIntent)
    (table : OrderedMap String Decimal) : String :=
  joinWith "|" (intent.legs.map fun leg =>
    leg.instrumentId ++ ":" ++
      match table[leg.instrumentId]? with
      | some value => value.display
      | none => "UNCONFIGURED")

def comboTickEvidence (policy : PaperRiskPolicy) (intent : ComboIntent) : String :=
  renderLegEntries intent policy.instrumentTickSizes

def comboLotEvidence (policy : PaperRiskPolicy) (intent : ComboIntent) : String :=
  renderLegEntries intent policy.instrumentLotSizes

def breachesPositionLimit (policy : PaperRiskPolicy) (projected : Decimal) :
    Result Bool :=
  if policy.maxPositionQuantity < projected then
    pure true
  else if projected < Decimal.zero then
    match policy.shortExposure with
    | none => pure true
    | some permission => do
      let short ← Decimal.zero.checkedSub projected
      pure (permission.maxShortQuantity < short)
  else
    pure false

def isIncrementTable (table : OrderedMap String Decimal) : Bool :=
  !table.isEmpty &&
    table.toList.all fun entry =>
      isCanonicalId entry.1 && decide (Decimal.zero < entry.2)

def validateComposition (composition : PortfolioRiskComposition) : Result Unit := do
  composition.policy.validate
  checkAll (fun bucket : InstrumentBucket =>
    refuseIf (isCanonicalId bucket.assetClass = false ∨
        isCanonicalId bucket.sector = false ∨
        isCurrencyCode bucket.currency = false)
      "invalid instrument bucket reference data")
    composition.instrumentBuckets.values
  match composition.marginRates with
  | none => pure ()
  | some rates => do
    refuseIf (rates.isEmpty = true)
      "configured margin_rates must not be empty"
    checkAll (fun entry : String × MarginRate =>
      refuseIf (isCanonicalId entry.1 = false ∨ 10000 < entry.2.initialBps ∨
          entry.2.initialBps < entry.2.maintenanceBps ∨
          entry.2.maintenanceBps = 0)
        "invalid margin rate") rates.toList

def validate (policy : PaperRiskPolicy) : Result Unit := do
  let tenThousand ← Decimal.fromInteger 10000
  refuseIf (policy.version.isEmpty = true ∨
      isCanonicalId policy.tradingCalendarId = false ∨
      policy.maxOrderQuantity ≤ Decimal.zero ∨
      policy.maxOrderNotional ≤ Decimal.zero ∨
      policy.maxPriceDeviationBps < Decimal.zero ∨
      tenThousand ≤ policy.maxPriceDeviationBps ∨
      policy.maxOpenOrders = 0 ∨
      policy.maxPositionQuantity ≤ Decimal.zero ∨
      policy.maxRealizedLoss < Decimal.zero ∨
      policy.maxMarketDataAgeSeconds = 0 ∨
      policy.maxOrderRate = 0 ∨ policy.orderRateWindowSeconds = 0)
    "invalid paper risk policy"
  refuseIf (isIncrementTable policy.instrumentTickSizes = false)
    "paper risk policy needs a positive tick size per listed instrument"
  refuseIf (isIncrementTable policy.instrumentLotSizes = false)
    "paper risk policy needs a positive lot size per listed instrument"
  match unpairedInstrument policy.instrumentTickSizes
      policy.instrumentLotSizes with
  | some instrumentId =>
    .error ⟨"paper risk policy lists " ++ instrumentId ++
      " in only one of its tick and lot tables"⟩
  | none => pure ()
  match policy.shortExposure with
  | some permission =>
    refuseIf (permission.maxShortQuantity ≤ Decimal.zero)
      "paper short-exposure permission must state a positive bound"
  | none => pure ()
  match policy.portfolioRisk with
  | some composition => validateComposition composition
  | none => pure ()

end PaperRiskPolicy

end Follon.Paper
