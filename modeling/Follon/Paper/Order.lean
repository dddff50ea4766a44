import Follon.Paper.Broker

/-!
# Paper orders and their risk evidence
-/

namespace Follon.Paper

open Foundation Domain ControlPlane

structure PaperOrder where
  oms : OmsOrder
  brokerOrderId : Option String
  brokerOrderVersions : List String
  replaceReturnState : Option OrderState
  filledQuantity : Decimal
  market : PaperMarketData
  deriving DecidableEq

namespace PaperOrder

def isTerminal (order : PaperOrder) : Bool := isTerminalState order.oms.state

def working (order : PaperOrder) : Bool := !order.isTerminal

def reservedCash (order : PaperOrder) : Result Decimal :=
  if order.working = false ∨ order.oms.intent.side ≠ .buy then
    pure Decimal.zero
  else do
    let remaining ← order.oms.intent.quantity.checkedSub order.filledQuantity
    remaining.checkedMul order.market.markPrice

end PaperOrder

structure PaperComboOrder where
  oms : OmsComboOrder
  brokerOrderId : Option String
  brokerOrderVersions : List String
  market : PaperComboMarketData
  filledQuantity : Decimal
  executions : OrderedMap String BrokerComboExecution
  evidenceError : Option String
  deriving DecidableEq

namespace PaperComboOrder

def isTerminal (order : PaperComboOrder) : Bool := isTerminalState order.oms.state

def working (order : PaperComboOrder) : Bool := !order.isTerminal

def reservedCash (order : PaperComboOrder) : Result Decimal :=
  if order.working = false then
    pure Decimal.zero
  else do
    let netPrice ← order.oms.intent.protectedNetPrice
    if netPrice ≤ Decimal.zero then
      pure Decimal.zero
    else do
      let unfilled ←
        order.oms.intent.comboQuantity.checkedSub order.filledQuantity
      netPrice.checkedMul unfilled

def workingState (order : PaperComboOrder) : OrderState :=
  if order.filledQuantity = Decimal.zero then .acknowledged
  else .partiallyFilled

end PaperComboOrder

structure PaperRiskEvidence where
  intent : OrderIntent
  decision : RiskDecision
  market : PaperMarketData
  submittedBy : Option String
  deriving DecidableEq

structure PaperComboRiskEvidence where
  intent : ComboIntent
  decision : RiskDecision
  market : PaperComboMarketData
  submittedBy : Option String
  deriving DecidableEq

structure PaperSubmitOutcome where
  decision : RiskDecision
  orderId : Option String
  state : Option OrderState
  deriving DecidableEq

/-! ## Exchange sessions -/

structure TradingSession where
  (exchangeDate opensAt closesAt : String)
  deriving DecidableEq

def TradingSession.validate (session : TradingSession) : Result Unit := do
  validateUtcTimestamp "session opens_at" session.opensAt
  validateUtcTimestamp "session closes_at" session.closesAt
  refuseIf (session.exchangeDate.utf8ByteSize ≠ 10 ∨ session.closesAt ≤ session.opensAt)
    "trading session is invalid"

structure PaperTradingSession where
  calendarId : String
  session : TradingSession
  deriving DecidableEq

def PaperTradingSession.validate (session : PaperTradingSession) : Result Unit := do
  validateCanonicalId "paper calendar_id" session.calendarId
  session.session.validate
  validateExchangeDate session.session.exchangeDate

/-! ## Corporate actions -/

inductive CorporateAction where
  | split (actionId instrumentId effectiveAt : String) (ratio : Decimal)
  | cashDividend (actionId instrumentId effectiveAt : String)
      (amount : Decimal)
  deriving DecidableEq

namespace CorporateAction

def actionId : CorporateAction → String
  | split actionId _ _ _ => actionId
  | cashDividend actionId _ _ _ => actionId

def instrumentId : CorporateAction → String
  | split _ instrumentId _ _ => instrumentId
  | cashDividend _ instrumentId _ _ => instrumentId

def effectiveAt : CorporateAction → String
  | split _ _ effectiveAt _ => effectiveAt
  | cashDividend _ _ effectiveAt _ => effectiveAt

def value : CorporateAction → Decimal
  | split _ _ _ ratio => ratio
  | cashDividend _ _ _ amount => amount

def validate (action : CorporateAction) : Result Unit := do
  validateCanonicalId "action_id" action.actionId
  validateCanonicalId "instrument_id" action.instrumentId
  validateUtcTimestamp "corporate action effective_at" action.effectiveAt
  refuseIf (action.value ≤ Decimal.zero)
    "corporate action must have a positive value"

end CorporateAction

structure PaperCorporateAction where
  action : CorporateAction
  heldQuantity : Decimal
  (appliedBy appliedAt : String)

structure PaperCorporateActionReceipt where
  action : CorporateAction
  (appliedBy appliedAt : String)
  (quantityBefore quantityAfter cashDelta : Decimal)
  deriving DecidableEq

/-! ## Reconciliation -/

structure ReconciliationIssue where
  (incidentId category subject detail : String)
  deriving DecidableEq

structure ReconciliationReport where
  (reconciliationId reconciledAt : String)
  issues : List ReconciliationIssue
  deriving DecidableEq

def ReconciliationReport.isClean (report : ReconciliationReport) : Bool :=
  report.issues.isEmpty

structure ReconciliationIncident where
  issue : ReconciliationIssue
  explanation : Option String
  deriving DecidableEq

def ReconciliationIncident.unexplained (incident : ReconciliationIncident) : Bool :=
  incident.explanation.isNone

end Follon.Paper
