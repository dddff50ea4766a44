import Follon.Paper.KillSwitch

/-!
# Live accounts, limits, activations and approvals

LIVE states its limits, its kill switches and its market observations in the
shapes PAPER uses; what is added is the capital ceiling, the canary limits,
and the two kinds of four-eyes authorization.
-/

namespace Follon.Live

open Foundation Domain Accounting Risk
open Paper (PaperRiskPolicy PaperMarketData PaperComboMarketData
  PortfolioRiskComposition KillSwitchScope KillSwitchRegistry)

abbrev LiveError : Type :=
  PaperError

/-! ## Account -/

structure SecretReference where
  value : String
  deriving DecidableEq

namespace SecretReference

def new (value : String) : Result SecretReference := do
  refuseIf (isCanonicalId value = false)
    "secret reference must be a canonical ID"
  pure ⟨value⟩

def asStr (reference : SecretReference) : String := reference.value

end SecretReference

structure LiveAccount where
  (accountId currency : String)
  (initialCash maxDeployedCapital : Decimal)
  environment : String
  credentialReference : SecretReference
  deriving DecidableEq

def LiveAccount.validate (account : LiveAccount) : Result Unit := do
  validateCanonicalId "live account_id" account.accountId
  refuseIf (isCurrencyCode account.currency = false ∨ account.initialCash < Decimal.zero ∨
      account.maxDeployedCapital ≤ Decimal.zero ∨
      account.initialCash < account.maxDeployedCapital ∨
      account.environment ≠ "LIVE")
    "live account must have uppercase currency, bounded capital, and LIVE environment"

/-! ## Policy -/

structure LiveRiskPolicy extends PaperRiskPolicy where
  canaryMaxOrderNotional : Decimal
  canaryMaxOrders : Nat

namespace LiveRiskPolicy

def validate (policy : LiveRiskPolicy) : Result Unit := do
  validateCanonicalId "live trading_calendar_id" policy.tradingCalendarId
  let tenThousand ← Decimal.fromInteger 10000
  refuseIf (policy.version.isEmpty = true ∨ policy.maxOrderQuantity ≤ Decimal.zero ∨
      policy.maxOrderNotional ≤ Decimal.zero ∨
      policy.maxPriceDeviationBps < Decimal.zero ∨
      tenThousand ≤ policy.maxPriceDeviationBps ∨
      policy.canaryMaxOrderNotional ≤ Decimal.zero ∨
      policy.maxOrderNotional < policy.canaryMaxOrderNotional ∨
      policy.canaryMaxOrders = 0 ∨ policy.maxOpenOrders = 0 ∨
      policy.maxPositionQuantity ≤ Decimal.zero ∨
      policy.maxRealizedLoss < Decimal.zero ∨
      policy.maxMarketDataAgeSeconds = 0 ∨
      policy.maxOrderRate = 0 ∨ policy.orderRateWindowSeconds = 0)
    "invalid controlled-live risk policy"
  refuseIf (PaperRiskPolicy.isIncrementTable policy.instrumentTickSizes = false)
    "controlled-live risk policy needs a positive tick size per listed instrument"
  refuseIf (PaperRiskPolicy.isIncrementTable policy.instrumentLotSizes = false)
    "controlled-live risk policy needs a positive lot size per listed instrument"
  match Paper.unpairedInstrument policy.instrumentTickSizes
      policy.instrumentLotSizes with
  | some instrumentId =>
    .error ⟨"controlled-live risk policy lists " ++ instrumentId ++
      " in only one of its tick and lot tables"⟩
  | none => pure ()
  match policy.shortExposure with
  | some permission =>
    refuseIf (permission.maxShortQuantity ≤ Decimal.zero)
      "live short-exposure permission must state a positive bound"
  | none => pure ()
  match policy.portfolioRisk with
  | some composition => PaperRiskPolicy.validateComposition composition
  | none => pure ()

end LiveRiskPolicy

/-! ## Market observations -/

abbrev LiveMarketData : Type :=
  PaperMarketData

def LiveMarketData.validate (market : LiveMarketData) : Result Unit := do
  validateCanonicalId "live market instrument_id" market.instrumentId
  validateUtcTimestamp "live market observed_at" market.observedAt
  refuseIf (market.markPrice ≤ Decimal.zero)
    "live market mark must be positive"

abbrev LiveComboMarketData : Type :=
  PaperComboMarketData

namespace LiveComboMarketData

def missingMark (instrumentId : String) : LiveError :=
  ⟨"live combo observation is missing a mark for " ++ instrumentId⟩

def validateFor (market : LiveComboMarketData) (intent : ComboIntent) : Result Unit := do
  refuseIf (market.marks.length ≠ intent.legs.length)
    "live combo observation must carry exactly one mark per leg"
  checkAll LiveMarketData.validate market.marks
  checkAll (fun leg : ComboIntentLeg =>
    refuseIf (market.markFor leg.instrumentId = none)
      (missingMark leg.instrumentId).message) intent.legs

def oldestObservedAt (market : LiveComboMarketData) : Result String :=
  match market.marks with
  | [] => .error ⟨"live combo observation is empty"⟩
  | mark :: marks =>
    .ok ((marks.map (·.observedAt)).foldl PaperComboMarketData.minText mark.observedAt)

end LiveComboMarketData

/-! ## Activation -/

inductive LiveRunMode where
  | shadow
  | canary
  deriving DecidableEq

structure LiveActivation where
  activationId : String
  mode : LiveRunMode
  (configurationFingerprint requestedBy approvedBy activatedAt : String)
  expiresAt : String
  deriving DecidableEq

namespace LiveActivation

def validate (activation : LiveActivation)
    (expectedConfigurationFingerprint : String) : Result Unit := do
  validateCanonicalId "live activation_id" activation.activationId
  validateCanonicalId "live activation requester" activation.requestedBy
  validateCanonicalId "live activation approver" activation.approvedBy
  validateUtcTimestamp "live activation time" activation.activatedAt
  validateUtcTimestamp "live activation expiry" activation.expiresAt
  refuseIf (activation.requestedBy = activation.approvedBy ∨
      activation.expiresAt ≤ activation.activatedAt ∨
      activation.configurationFingerprint ≠ expectedConfigurationFingerprint)
    "live activation requires distinct approver, valid interval, and exact configuration"

def activeAt (activation : LiveActivation) (timestamp : String) : Result Bool := do
  validateUtcTimestamp "live activation check time" timestamp
  pure (activation.activatedAt ≤ timestamp ∧ timestamp < activation.expiresAt)

end LiveActivation

/-! ## Approval -/

structure LiveApproval where
  (approvalId intentId intentFingerprint configurationFingerprint : String)
  (requestedBy approvedBy approvedAt expiresAt : String)
  deriving DecidableEq

def isHexDigit (c : Char) : Bool :=
  isAsciiDigit c || ('a' ≤ c && c ≤ 'f') || ('A' ≤ c && c ≤ 'F')

def isFingerprint (value : String) : Bool :=
  value.utf8ByteSize == 64 && value.toList.all isHexDigit

def LiveApproval.validate (approval : LiveApproval)
    (expectedConfigurationFingerprint : String) : Result Unit := do
  validateCanonicalId "live approval_id" approval.approvalId
  validateCanonicalId "live approval intent_id" approval.intentId
  validateCanonicalId "live approval requester" approval.requestedBy
  validateCanonicalId "live approval approver" approval.approvedBy
  validateUtcTimestamp "live approval time" approval.approvedAt
  validateUtcTimestamp "live approval expiry" approval.expiresAt
  refuseIf (approval.requestedBy = approval.approvedBy ∨
      approval.expiresAt ≤ approval.approvedAt ∨
      isFingerprint approval.intentFingerprint = false ∨
      approval.configurationFingerprint ≠ expectedConfigurationFingerprint)
    "live approval must bind exact configuration and use distinct approver"

structure RegisteredLiveApproval where
  approval : LiveApproval
  consumed : Bool
  deriving DecidableEq

/-! ## Kill switches -/

def validateKillSwitchScope : KillSwitchScope → Result Unit
  | .global => .ok ()
  | .account value => validateCanonicalId "live kill account" value
  | .strategy value => validateCanonicalId "live kill strategy" value
  | .instrument value => validateCanonicalId "live kill instrument" value

namespace LiveKillSwitchRegistry

def new (version : String) : Result KillSwitchRegistry := do
  refuseIf (version.isEmpty = true) "live kill-switch version is required"
  pure ⟨version, ∅⟩

def activate (registry : KillSwitchRegistry) (scope : KillSwitchScope) :
    Result (Bool × KillSwitchRegistry) := do
  validateKillSwitchScope scope
  pure (!registry.active.contains scope,
    { registry with active := registry.active.insert scope })

end LiveKillSwitchRegistry

end Follon.Live
