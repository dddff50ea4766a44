import Follon.Paper.Submit

/-!
# Cancellation, replacement and operator controls
-/

namespace Follon.Paper

open Foundation Domain ControlPlane Accounting

/-! ## Orders a command addresses -/

def isCancelSettled : OrderState → Bool
  | .pendingCancel | .cancelled => true
  | _ => false

def isWorkingState : OrderState → Bool
  | .acknowledged | .partiallyFilled => true
  | _ => false

def raisesLimitRisk (side : Side) (priorLimit replacement : Decimal) : Bool :=
  replacement ≤ Decimal.zero ∨ (side = .buy ∧ priorLimit < replacement) ∨
    (side = .sell ∧ replacement < priorLimit)

def replaceRequestFor (order : PaperOrder) (replacement : Decimal) :
    Result BrokerReplaceRequest := do
  refuseIf (isWorkingState order.oms.state = false)
    "only acknowledged or partially filled paper orders can be replaced"
  match order.oms.intent.limitPrice with
  | none => .error ⟨"only paper limit orders support price replacement"⟩
  | some priorLimit => do
    refuseIf (raisesLimitRisk order.oms.intent.side priorLimit replacement = true)
      "replacement may only reduce the originally approved limit risk"
    match order.brokerOrderId with
    | none =>
      .error
        ⟨"paper replacement requires an acknowledged broker order ID"⟩
    | some previous =>
      pure ⟨order.oms.intent.accountId, order.oms.orderId, previous, replacement⟩

def beginReplacement : OrderM Unit := do
  update fun order : PaperOrder =>
    { order with replaceReturnState := some order.oms.state }
  PaperOrder.move .pendingReplace "PAPER_REPLACE_REQUESTED"

/-! ## Records of commands -/

def switchOutcome (registry : KillSwitchRegistry) (scope : KillSwitchScope) :
    KillSwitchAction → Result (Bool × KillSwitchRegistry)
  | .activate => registry.activate scope
  | .release => .ok (registry.deactivate scope)

namespace ServiceRecord

def noteOperation (operation : Option OrderOperation)
    (s : ServiceRecord) : ServiceRecord :=
  { s with orderOperations := s.orderOperations ++ operation.toList }

def cancelRequestFor (s : ServiceRecord) (orderId : String) : BrokerCancelRequest :=
  ⟨s.account.accountId, orderId⟩

def setSwitches (registry : KillSwitchRegistry) (s : ServiceRecord) : ServiceRecord :=
  { s with killSwitches := registry }

def noteSwitch (changed : Bool) (operation : KillSwitchOperation)
    (s : ServiceRecord) : ServiceRecord :=
  if changed then
    { s with
      killSwitchOperations := s.killSwitchOperations ++ [operation] }
  else
    s

/-! ## Corporate actions -/

/-- The first order of either kind still working in the instrument. -/
def workingOrderIn (s : ServiceRecord) (instrumentId : String) : Option String :=
  ((s.orders.values.find? fun order =>
      order.working && order.oms.intent.instrumentId == instrumentId).map
    (·.oms.orderId)).or
  ((s.comboOrders.values.find? fun order =>
      order.working && order.oms.intent.legs.any
        (·.instrumentId == instrumentId)).map (·.oms.orderId))

def splitPortfolio (s : ServiceRecord) (instrumentId actionId : String) (ratio : Decimal)
    (portfolio : Portfolio) : Result Portfolio := do
  let scaled ← portfolio.applySplit ratio
  let quantity ← magnitude scaled.quantity
  refuseIf (s.riskPolicy.lotRejection instrumentId quantity ≠ none)
    ("split " ++ actionId ++ " would leave " ++ scaled.quantity.display ++
      " of " ++ instrumentId ++
      ", not a whole number of its lots; cash in lieu of a fraction is not modelled")
  pure scaled

def splitAttribution (ratio : Decimal) (strategies : OrderedMap String Decimal) :
    Result (OrderedMap String Decimal) :=
  OrderedMap.traverse (fun _ quantity => quantity.checkedMul ratio) strategies

def splitMark (instrumentId actionId : String) (ratio mark : Decimal) :
    Result Decimal := do
  let rebased ← mark.checkedDiv ratio
  refuseIf (rebased ≤ Decimal.zero)
    ("split " ++ actionId ++ " would round " ++ instrumentId ++ "'s mark of " ++
      mark.display ++ " down to nothing")
  pure rebased

def transpose {α β : Type} (convert : α → Result β) : Option α → Result (Option β)
  | none => pure none
  | some value => do
    let converted ← convert value
    pure (some converted)

def putWhen {ν : Type} (map : OrderedMap String ν) (key : String) :
    Option ν → OrderedMap String ν
  | some value => map.insert key value
  | none => map

def refuseWorking (instrumentId actionId : String) : Option String → Result Unit
  | some orderId =>
    .error ⟨"working order " ++ orderId ++ " cannot rest across " ++
      instrumentId ++ "'s split " ++ actionId ++
      "; cancel it before applying the split"⟩
  | none => pure ()

def splitBooks (s : ServiceRecord) (instrumentId actionId : String)
    (ratio : Decimal) : Result (Books × OrderedMap String Decimal) := do
  refuseWorking instrumentId actionId (s.workingOrderIn instrumentId)
  let portfolio ← transpose (s.splitPortfolio instrumentId actionId ratio)
    s.portfolios[instrumentId]?
  let taxLots ← s.taxLots.applySplit instrumentId ratio
  let attribution ← transpose (splitAttribution ratio)
    s.strategyAttribution[instrumentId]?
  let mark ← transpose (splitMark instrumentId actionId ratio)
    s.marks[instrumentId]?
  pure
    ({ s.toBooks with
        portfolios := putWhen s.portfolios instrumentId portfolio
        taxLots
        strategyAttribution :=
          putWhen s.strategyAttribution instrumentId attribution },
      putWhen s.marks instrumentId mark)

def setMarks (marks : OrderedMap String Decimal) (s : ServiceRecord) : ServiceRecord :=
  { s with marks }

def takeEffect (s : ServiceRecord) (request : PaperCorporateAction)
    (quantityBefore : Decimal) : Result (ServiceRecord × PaperCorporateActionReceipt) :=
  match request.action with
  | .split actionId instrumentId _ ratio => do
    let (books, marks) ← s.splitBooks instrumentId actionId ratio
    let after := (s.setBooks books).setMarks marks
    pure (after, ⟨request.action, request.appliedBy, request.appliedAt,
      quantityBefore, after.heldQuantity instrumentId, Decimal.zero⟩)
  | .cashDividend _ _ _ amount => do
    let cashDelta ← quantityBefore.checkedMul amount
    let cash ← s.cash.checkedAdd cashDelta
    pure (s.setCash cash, ⟨request.action, request.appliedBy,
      request.appliedAt, quantityBefore, quantityBefore, cashDelta⟩)

def repeatedAction (request : PaperCorporateAction)
    (applied : PaperCorporateActionReceipt) : Result PaperCorporateActionReceipt := do
  refuseIf (applied.action ≠ request.action ∨
      applied.quantityBefore ≠ request.heldQuantity)
    ("corporate action " ++ request.action.actionId ++
      " was already applied with other terms")
  pure applied

def noteReceipt (receipt : PaperCorporateActionReceipt)
    (s : ServiceRecord) : ServiceRecord :=
  { s with corporateActions := s.corporateActions ++ [receipt] }

end ServiceRecord

namespace PaperTradingService

variable {B : Type} [PaperBrokerAdapter B] [ContentHash]

/-! ## Cancellation -/

/-- Asks the broker to cancel an order journaled as `PENDING_CANCEL`; a failed
call leaves it `UNKNOWN`. -/
def requestCancel (orderId : String) (lose : BooksM Unit) : PaperM B Unit := do
  let s ← Fallible.read
  let request := s.cancelRequestFor orderId
  let reply ← command (.cancel request) (PaperBrokerAdapter.cancel · request)
  match reply with
  | .ok () => pure ()
  | .error error => do
    onBooks lose
    update (setSession false)
    persist
    Fallible.fail error

def cancelComboOrder (orderId : String) (operation : Option OrderOperation) :
    PaperM B Unit := do
  let s ← Fallible.read
  lift (refuseIf (s.brokerConnected = false)
    "reconnect and reconcile before combination cancellation")
  let order ← lift (s.findCombo orderId)
  if isCancelSettled order.oms.state = true then
    pure ()
  else do
    lift (refuseIf (order.evidenceError ≠ none ∨ isWorkingState order.oms.state = false)
      "only acknowledged or partially filled combinations can be cancelled")
    onBooks (Books.onCombo orderId
      (PaperComboOrder.move .pendingCancel "PAPER_COMBO_CANCEL_REQUESTED"))
    update (edit (ServiceRecord.noteOperation operation))
    persist
    requestCancel orderId (Books.onCombo orderId
      (PaperComboOrder.move .unknown "PAPER_COMBO_CANCEL_OUTCOME_UNKNOWN"))

def cancelPlainOrder (orderId : String) (operation : Option OrderOperation) :
    PaperM B Unit := do
  let s ← Fallible.read
  lift (refuseIf (s.brokerConnected = false)
    "paper broker session is disconnected; reconnect and reconcile before cancellation")
  let order ← lift (s.findOrder orderId)
  if isCancelSettled order.oms.state = true then
    pure ()
  else do
    lift (refuseIf (isWorkingState order.oms.state = false)
      "only acknowledged or partially filled paper orders can be cancelled")
    onBooks (Books.onOrder orderId
      (PaperOrder.move .pendingCancel "PAPER_CANCEL_REQUESTED"))
    update (edit (ServiceRecord.noteOperation operation))
    persist
    requestCancel orderId (Books.onOrder orderId
      (PaperOrder.move .unknown "PAPER_CANCEL_OUTCOME_UNKNOWN"))

def cancelOrderAttributed (orderId : String)
    (operation : Option OrderOperation) : PaperM B Unit := do
  let s ← Fallible.read
  lift s.ensurePersistenceHealthy
  if orderId ∈ s.comboOrders then
    cancelComboOrder orderId operation
  else
    cancelPlainOrder orderId operation

def cancelOrder (orderId : String) : PaperM B Unit := cancelOrderAttributed orderId none

def cancelOrderAs (orderId operator operatedAt : String) : PaperM B Unit := do
  lift (validateCanonicalId "order operator" operator)
  lift (validateUtcTimestamp "order operation time" operatedAt)
  cancelOrderAttributed orderId
    (some ⟨orderId, .cancelRequested, operator, operatedAt⟩)

/-! ## Replacement -/

def replaceOrder (orderId : String) (replacementLimitPrice : Decimal) :
    PaperM B Unit := do
  let s ← Fallible.read
  lift s.ensurePersistenceHealthy
  lift (refuseIf (s.brokerConnected = false)
    "paper broker session is disconnected; reconnect and reconcile before replacement")
  let capabilities ← lift
    (PaperBrokerAdapter.capabilities s.broker s.account.accountId)
  lift (refuseIf (capabilities.replacement = false)
    "the configured paper broker route cannot replace orders; the order was left unchanged")
  let order ← lift (s.findOrder orderId)
  let request ← lift (replaceRequestFor order replacementLimitPrice)
  onBooks (Books.onOrder orderId beginReplacement)
  let reply ← command (.replace request)
    (PaperBrokerAdapter.replace · request)
  match reply with
  | .ok () => persist
  | .error error => do
    onBooks (Books.onOrder orderId
      (PaperOrder.move .unknown "PAPER_REPLACE_OUTCOME_UNKNOWN"))
    update (setSession false)
    persist
    Fallible.fail error

/-! ## Kill switches -/

def activateKillSwitch (scope : KillSwitchScope) : PaperM B Bool := do
  let s ← Fallible.read
  lift s.ensurePersistenceHealthy
  let (changed, registry) ← lift (s.killSwitches.activate scope)
  update (edit (ServiceRecord.setSwitches registry))
  persist
  pure changed

def persistIf (changed : Bool) : PaperM B Unit :=
  if changed then persist else pure ()

def deactivateKillSwitch (scope : KillSwitchScope) : PaperM B Bool := do
  let s ← Fallible.read
  lift s.ensurePersistenceHealthy
  let (changed, registry) := s.killSwitches.deactivate scope
  update (edit (ServiceRecord.setSwitches registry))
  persistIf changed
  pure changed

def operateKillSwitchAs (scope : KillSwitchScope) (action : KillSwitchAction)
    (operator operatedAt : String) : PaperM B Bool := do
  let s ← Fallible.read
  lift s.ensurePersistenceHealthy
  lift scope.validate
  lift (validateCanonicalId "kill-switch operator" operator)
  lift
    (validateUtcTimestamp "kill-switch operation time" operatedAt)
  let (changed, registry) ←
    lift (switchOutcome s.killSwitches scope action)
  update (edit (ServiceRecord.setSwitches registry))
  update (edit (ServiceRecord.noteSwitch changed
    ⟨scope.asKey, action, operator, operatedAt⟩))
  persistIf changed
  pure changed

def activateKillSwitchAs (scope : KillSwitchScope)
    (operator operatedAt : String) : PaperM B Bool :=
  operateKillSwitchAs scope .activate operator operatedAt

def releaseKillSwitchAs (scope : KillSwitchScope)
    (operator operatedAt : String) : PaperM B Bool :=
  operateKillSwitchAs scope .release operator operatedAt

/-! ## Corporate actions -/

def admitCorporateAction (s : PaperTradingService B)
    (request : PaperCorporateAction) : Result Unit := do
  s.ensurePersistenceHealthy
  request.action.validate
  validateCanonicalId "corporate action operator" request.appliedBy
  validateUtcTimestamp "corporate action applied_at" request.appliedAt
  refuseIf (request.appliedAt < request.action.effectiveAt)
    ("corporate action " ++ request.action.actionId ++ " takes effect at " ++
      request.action.effectiveAt ++ "; it cannot be applied at " ++
      request.appliedAt)

def applyCorporateAction (request : PaperCorporateAction) :
    PaperM B PaperCorporateActionReceipt := do
  let s ← Fallible.read
  lift (s.admitCorporateAction request)
  match s.corporateActions.find? fun receipt =>
      receipt.action.actionId == request.action.actionId with
  | some applied =>
    lift (ServiceRecord.repeatedAction request applied)
  | none => do
    let instrumentId := request.action.instrumentId
    let quantityBefore := s.heldQuantity instrumentId
    lift (refuseIf (quantityBefore ≠ request.heldQuantity)
      ("the account holds " ++ quantityBefore.display ++ " of " ++
        instrumentId ++ ", not the " ++ request.heldQuantity.display ++
        " corporate action " ++ request.action.actionId ++
        " was stated against; reconcile before applying it"))
    let (after, receipt) ←
      lift (s.takeEffect request quantityBefore)
    update (edit fun _ => after.noteReceipt receipt)
    persist
    pure receipt

end PaperTradingService

end Follon.Paper
