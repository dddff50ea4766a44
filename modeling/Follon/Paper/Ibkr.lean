import Follon.Paper.Broker

/-!
# The model broker

A deterministic local model of the paper-order contract: it acknowledges,
fills, cancels and replaces, and reports what it did through an event queue.
-/

namespace Follon.Paper

open Foundation Domain

structure IbkrOrder where
  brokerOrderId : String
  request : BrokerOrderRequest
  state : OrderState
  filledQuantity : Decimal
  deriving DecidableEq

structure IbkrCombo where
  brokerOrderId : String
  request : BrokerComboRequest
  state : OrderState
  filledQuantity : Decimal
  deriving DecidableEq

structure IbkrPaperAdapter where
  accountId : String
  connected : Bool
  (nextOrder nextExecution : Nat)
  orders : OrderedMap String IbkrOrder
  combos : OrderedMap String IbkrCombo
  positions : OrderedMap String Decimal
  cash : Decimal
  pendingEvents : List BrokerEvent
  deriving DecidableEq

namespace IbkrPaperAdapter

def new (account : PaperAccount) : Result IbkrPaperAdapter := do
  account.validate
  pure ⟨account.accountId, true, 1, 1, ∅, ∅, ∅, account.initialCash, []⟩

def disconnect (broker : IbkrPaperAdapter) : IbkrPaperAdapter :=
  { broker with connected := false }

def position (broker : IbkrPaperAdapter) (instrumentId : String) : Decimal :=
  broker.positions[instrumentId]?.getD Decimal.zero

def orderIdFor (number : Nat) : String := "ibkr-paper-order-" ++ eightDigits number

def comboIdFor (number : Nat) : String := "ibkr-paper-combo-" ++ eightDigits number

def executionIdFor (number : Nat) : String := "ibkr-paper-exec-" ++ eightDigits number

def addSigned (held : Decimal) (side : Side) (quantity : Decimal) : Result Decimal :=
  match side with
  | .buy => held.checkedAdd quantity
  | .sell => held.checkedSub quantity

def settleTrade (cash : Decimal) (side : Side)
    (quantity price fee : Decimal) : Result Decimal := do
  let gross ← price.checkedMul quantity
  match side with
  | .buy => do
    let paid ← gross.checkedAdd fee
    cash.checkedSub paid
  | .sell => do
    let received ← gross.checkedSub fee
    cash.checkedAdd received

def filledState (total quantity : Decimal) : OrderState :=
  if total = quantity then .filled else .partiallyFilled

def unknownOrder : PaperError := ⟨"paper broker does not know client order"⟩

/-! ## Fills -/

def countFill (clientOrderId : String) (order : IbkrOrder) (total : Decimal)
    (broker : IbkrPaperAdapter) : IbkrPaperAdapter :=
  { broker with
    orders := broker.orders.insert clientOrderId
      { order with
        filledQuantity := total
        state := filledState total order.request.quantity } }

def setPosition (instrumentId : String) (held : Decimal)
    (broker : IbkrPaperAdapter) : IbkrPaperAdapter :=
  { broker with positions := broker.positions.insert instrumentId held }

def setCash (cash : Decimal) (broker : IbkrPaperAdapter) : IbkrPaperAdapter :=
  { broker with cash }

def queueExecution (execution : BrokerExecution) (broker : IbkrPaperAdapter) :
    IbkrPaperAdapter :=
  { broker with
    nextExecution := broker.nextExecution + 1
    pendingEvents := broker.pendingEvents ++ [.execution execution] }

/-- Queues an execution of an acknowledged order.  What a failing call wrote
before it failed stays written. -/
def queueFill (clientOrderId : String) (quantity price fee : Decimal)
    (executedAt : String) : Fallible IbkrPaperAdapter PaperError String := do
  lift (validateCanonicalId "client_order_id" clientOrderId)
  lift (validateUtcTimestamp "paper execution time" executedAt)
  lift (refuseIf (quantity ≤ Decimal.zero ∨ price ≤ Decimal.zero ∨ fee < Decimal.zero)
    "invalid paper execution values")
  let broker ← Fallible.read
  match broker.orders[clientOrderId]? with
  | none => Fallible.fail unknownOrder
  | some order => do
    let total ← lift (order.filledQuantity.checkedAdd quantity)
    lift (refuseIf (order.request.quantity < total)
      "paper execution would exceed requested quantity")
    update (countFill clientOrderId order total)
    let instrumentId := order.request.instrumentId
    let held := broker.position instrumentId
    update (setPosition instrumentId held)
    let held ←
      lift (addSigned held order.request.side quantity)
    update (setPosition instrumentId held)
    let cash ← lift
      (settleTrade broker.cash order.request.side quantity price fee)
    update (setCash cash)
    let executionId := executionIdFor broker.nextExecution
    update (queueExecution ⟨executionId, clientOrderId,
      order.brokerOrderId, quantity, price, fee, executedAt⟩)
    pure executionId

def isResting : OrderState → Bool
  | .acknowledged | .partiallyFilled => true
  | _ => false

/-! ## The adapter interface -/

def accountMismatch : PaperError :=
  ⟨"IBKR paper account does not match adapter configuration"⟩

def capabilities (broker : IbkrPaperAdapter) (accountId : String) :
    Result PaperBrokerCapabilities := do
  refuseIf (accountId ≠ broker.accountId) accountMismatch.message
  pure ⟨true, true, true⟩

def adapterConfigurationFingerprint (broker : IbkrPaperAdapter)
    (accountId : String) : Result String := do
  refuseIf (accountId ≠ broker.accountId) accountMismatch.message
  pure ("ibkr-paper-model-v1|" ++ broker.accountId)

def acceptOrder (broker : IbkrPaperAdapter) (request : BrokerOrderRequest) :
    IbkrPaperAdapter :=
  let brokerOrderId := orderIdFor broker.nextOrder
  { broker with
    nextOrder := broker.nextOrder + 1
    orders := broker.orders.insert request.clientOrderId
      ⟨brokerOrderId, request, .acknowledged, Decimal.zero⟩
    pendingEvents := broker.pendingEvents ++
      [.acknowledged request.clientOrderId brokerOrderId] }

def guarded {α : Type} (broker : IbkrPaperAdapter) (checks : Result Unit)
    (effect : Result α × IbkrPaperAdapter) : Result α × IbkrPaperAdapter :=
  match checks with
  | .ok () => effect
  | .error error => (.error error, broker)

def checkSubmit (broker : IbkrPaperAdapter) (request : BrokerOrderRequest) :
    Result Unit := do
  request.validate
  refuseIf (broker.connected = false)
    "IBKR paper connection is unavailable; submission outcome is unknown"
  refuseIf (request.accountId ≠ broker.accountId)
    "IBKR paper account does not match request"

def submit (broker : IbkrPaperAdapter) (request : BrokerOrderRequest) :
    Result BrokerSubmitResult × IbkrPaperAdapter :=
  guarded broker (broker.checkSubmit request)
    (match broker.orders[request.clientOrderId]? with
    | some existing =>
      if existing.request ≠ request then
        (.error ⟨"client order id was reused with different paper request data"⟩, broker)
      else
        (.ok (.acknowledged existing.brokerOrderId), broker)
    | none =>
      (.ok (.acknowledged (orderIdFor broker.nextOrder)), broker.acceptOrder request))

def checkSubmitCombo (broker : IbkrPaperAdapter)
    (request : BrokerComboRequest) : Result Unit := do
  request.validate
  refuseIf (broker.connected = false)
    "IBKR paper connection is unavailable; combination outcome is unknown"
  refuseIf (request.accountId ≠ broker.accountId)
    "IBKR paper account does not match combination request"

def acceptCombo (broker : IbkrPaperAdapter) (request : BrokerComboRequest) :
    IbkrPaperAdapter :=
  { broker with
    nextOrder := broker.nextOrder + 1
    combos := broker.combos.insert request.clientOrderId
      ⟨comboIdFor broker.nextOrder, request, .acknowledged, Decimal.zero⟩ }

def submitCombo (broker : IbkrPaperAdapter) (request : BrokerComboRequest) :
    Result BrokerSubmitResult × IbkrPaperAdapter :=
  guarded broker (broker.checkSubmitCombo request)
    (match broker.combos[request.clientOrderId]? with
    | some existing =>
      if existing.request ≠ request then
        (.error ⟨"client order id was reused with different paper combination data"⟩,
          broker)
      else
        (.ok (.acknowledged existing.brokerOrderId), broker)
    | none =>
      (.ok (.acknowledged (comboIdFor broker.nextOrder)), broker.acceptCombo request))

def checkCancel (broker : IbkrPaperAdapter) (request : BrokerCancelRequest) :
    Result Unit := do
  request.validate
  refuseIf (request.accountId ≠ broker.accountId)
    "IBKR paper account does not match cancellation request"
  refuseIf (broker.connected = false)
    "IBKR paper connection is unavailable; cancellation outcome is unknown"

def isClosed : OrderState → Bool
  | .filled | .cancelled | .rejected => true
  | _ => false

def cancelCombo (broker : IbkrPaperAdapter) (clientOrderId : String)
    (combo : IbkrCombo) : Result Unit × IbkrPaperAdapter :=
  if isResting combo.state = false then
    (.error ⟨"paper combination is already terminal"⟩, broker)
  else
    (.ok (), { broker with
      combos := broker.combos.insert clientOrderId
        { combo with state := .cancelled }
      pendingEvents := broker.pendingEvents ++
        [.cancelled clientOrderId "IBKR_PAPER_COMBO_CANCELLED"] })

def cancelPlain (broker : IbkrPaperAdapter) (clientOrderId : String)
    (order : IbkrOrder) : Result Unit × IbkrPaperAdapter :=
  if isClosed order.state = true then
    (.error ⟨"paper order is already terminal"⟩, broker)
  else
    (.ok (), { broker with
      orders := broker.orders.insert clientOrderId
        { order with state := .cancelled }
      pendingEvents := broker.pendingEvents ++
        [.cancelled clientOrderId "IBKR_PAPER_CANCELLED"] })

def cancel (broker : IbkrPaperAdapter) (request : BrokerCancelRequest) :
    Result Unit × IbkrPaperAdapter :=
  guarded broker (broker.checkCancel request)
    (match broker.combos[request.clientOrderId]? with
    | some combo => broker.cancelCombo request.clientOrderId combo
    | none =>
      match broker.orders[request.clientOrderId]? with
      | some order => broker.cancelPlain request.clientOrderId order
      | none => (.error unknownOrder, broker))

def checkReplace (broker : IbkrPaperAdapter)
    (request : BrokerReplaceRequest) : Result Unit := do
  request.validate
  refuseIf (request.accountId ≠ broker.accountId)
    "IBKR paper account does not match replacement request"
  refuseIf (broker.connected = false)
    "IBKR paper connection is unavailable; replacement outcome is unknown"

def replaceWorking (broker : IbkrPaperAdapter)
    (request : BrokerReplaceRequest) (order : IbkrOrder) :
    Result Unit × IbkrPaperAdapter :=
  if order.brokerOrderId ≠ request.previousBrokerOrderId ∨
      isResting order.state = false then
    (.error ⟨"paper replacement does not match a working broker order"⟩, broker)
  else
    (.ok (), { broker with
      nextOrder := broker.nextOrder + 1
      orders := broker.orders.insert request.clientOrderId
        { order with
          brokerOrderId := orderIdFor broker.nextOrder
          request := { order.request with
            limitPrice := some request.limitPrice } }
      pendingEvents := broker.pendingEvents ++
        [.replaced request.clientOrderId order.brokerOrderId
          (orderIdFor broker.nextOrder)] })

def replace (broker : IbkrPaperAdapter) (request : BrokerReplaceRequest) :
    Result Unit × IbkrPaperAdapter :=
  guarded broker (broker.checkReplace request)
    (match broker.orders[request.clientOrderId]? with
    | some order => broker.replaceWorking request order
    | none => (.error unknownOrder, broker))

def checkPoll (broker : IbkrPaperAdapter) (accountId : String) : Result Unit := do
  refuseIf (accountId ≠ broker.accountId)
    "IBKR paper account does not match poll request"
  refuseIf (broker.connected = false) "IBKR paper connection is unavailable"

def poll (broker : IbkrPaperAdapter) (accountId : String) :
    Result (List BrokerEvent) × IbkrPaperAdapter :=
  guarded broker (broker.checkPoll accountId)
    (.ok broker.pendingEvents, { broker with pendingEvents := [] })

def orderSnapshots (broker : IbkrPaperAdapter) : List BrokerOrderSnapshot :=
  broker.orders.toList.map fun entry =>
    ⟨entry.1, entry.2.brokerOrderId, entry.2.state, entry.2.filledQuantity⟩

def comboSnapshots (broker : IbkrPaperAdapter) : List BrokerOrderSnapshot :=
  broker.combos.toList.map fun entry =>
    ⟨entry.1, entry.2.brokerOrderId, entry.2.state, entry.2.filledQuantity⟩

def positionSnapshots (broker : IbkrPaperAdapter) : List BrokerPositionSnapshot :=
  broker.positions.toList.map fun entry => ⟨entry.1, entry.2⟩

def snapshot (broker : IbkrPaperAdapter) (accountId : String) :
    Result BrokerAccountSnapshot × IbkrPaperAdapter :=
  guarded broker
    (refuseIf (accountId ≠ broker.accountId)
      "IBKR paper account does not match snapshot request")
    (.ok ⟨broker.orderSnapshots ++ broker.comboSnapshots,
      broker.positionSnapshots, broker.cash⟩, broker)

def reconnect (broker : IbkrPaperAdapter) (accountId : String) :
    Result Unit × IbkrPaperAdapter :=
  guarded broker
    (refuseIf (accountId ≠ broker.accountId)
      "IBKR paper account does not match reconnect request")
    (.ok (), { broker with connected := true })

instance : PaperBrokerAdapter IbkrPaperAdapter where
  capabilities := capabilities
  adapterConfigurationFingerprint := adapterConfigurationFingerprint
  submit := submit
  submitCombo := submitCombo
  cancel := cancel
  replace := replace
  poll := poll
  snapshot := snapshot
  reconnect := reconnect

end IbkrPaperAdapter

end Follon.Paper
