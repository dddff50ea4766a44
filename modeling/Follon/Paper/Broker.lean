import Follon.Paper.KillSwitch

/-!
# The broker boundary

Requests, replies, asynchronous events and account snapshots exchanged with a
paper broker adapter, and the adapter interface itself.
-/

namespace Follon.Paper

open Foundation Domain ControlPlane

/-! ## Requests -/

structure BrokerOrderRequest where
  (clientOrderId accountId instrumentId : String)
  side : Side
  quantity : Decimal
  limitPrice : Option Decimal
  deriving DecidableEq

namespace BrokerOrderRequest

def fromOrder (order : OmsOrder) : BrokerOrderRequest where
  clientOrderId := order.orderId
  accountId := order.intent.accountId
  instrumentId := order.intent.instrumentId
  side := order.intent.side
  quantity := order.intent.quantity
  limitPrice := order.intent.limitPrice

def isNonPositive (price : Option Decimal) : Bool :=
  match price with
  | some price => price ≤ Decimal.zero
  | none => false

def validate (request : BrokerOrderRequest) : Result Unit := do
  validateCanonicalId "client_order_id" request.clientOrderId
  validateCanonicalId "account_id" request.accountId
  validateCanonicalId "instrument_id" request.instrumentId
  refuseIf (request.quantity ≤ Decimal.zero ∨ isNonPositive request.limitPrice = true)
    "invalid broker order request"

end BrokerOrderRequest

structure BrokerComboLeg where
  instrumentId : String
  side : Side
  ratio : Nat
  quantity : Decimal
  deriving DecidableEq

structure BrokerComboRequest where
  (clientOrderId accountId : String)
  legs : List BrokerComboLeg
  limitPrice : Option Decimal
  deriving DecidableEq

namespace BrokerComboRequest

def fromLeg (intent : ComboIntent) (leg : ComboIntentLeg) : Result BrokerComboLeg := do
  let quantity ← intent.legQuantity leg
  pure ⟨leg.instrumentId, leg.side, leg.ratio, quantity⟩

def fromComboOrder (order : OmsComboOrder) : Result BrokerComboRequest := do
  let legs ← collect (fromLeg order.intent) order.intent.legs
  pure ⟨order.orderId, order.intent.accountId, legs, some order.intent.priceLimit.amount⟩

def validateLeg (leg : BrokerComboLeg) : Result Unit := do
  validateCanonicalId "combo leg instrument_id" leg.instrumentId
  refuseIf (leg.ratio = 0) "paper combo leg ratio must be positive"
  refuseIf (leg.quantity ≤ Decimal.zero)
    "paper combo leg quantity must be positive"

def validate (request : BrokerComboRequest) : Result Unit := do
  validateCanonicalId "combo client_order_id" request.clientOrderId
  validateCanonicalId "combo account_id" request.accountId
  refuseIf (request.legs = [] ∨ 16 < request.legs.length)
    "paper combo request must contain between one and sixteen legs"
  refuseIf (BrokerOrderRequest.isNonPositive request.limitPrice = true)
    "paper combo limit price must be positive"
  checkAll validateLeg request.legs

end BrokerComboRequest

structure BrokerReplaceRequest where
  (accountId clientOrderId previousBrokerOrderId : String)
  limitPrice : Decimal
  deriving DecidableEq

def BrokerReplaceRequest.validate (request : BrokerReplaceRequest) : Result Unit := do
  validateCanonicalId "replace account_id" request.accountId
  validateCanonicalId "replace client_order_id" request.clientOrderId
  validateCanonicalId "replace previous_broker_order_id"
    request.previousBrokerOrderId
  refuseIf (request.limitPrice ≤ Decimal.zero)
    "replacement limit price must be positive"

structure BrokerCancelRequest where
  (accountId clientOrderId : String)
  deriving DecidableEq

def BrokerCancelRequest.validate (request : BrokerCancelRequest) : Result Unit := do
  validateCanonicalId "cancel account_id" request.accountId
  validateCanonicalId "cancel client_order_id" request.clientOrderId

inductive BrokerSubmitResult where
  | acknowledged (brokerOrderId : String)
  | rejected (reason : String)
  | unknown (reason : String)
  deriving DecidableEq

/-! ## Events -/

structure BrokerComboExecutionLeg where
  (executionId instrumentId : String)
  side : Side
  (quantity price fee : Decimal)
  executedAt : String
  deriving DecidableEq

structure BrokerComboExecution where
  (executionId clientOrderId brokerOrderId : String)
  units : Decimal
  legs : List BrokerComboExecutionLeg
  deriving DecidableEq

structure BrokerExecution where
  (executionId clientOrderId brokerOrderId : String)
  (quantity price fee : Decimal)
  executedAt : String
  deriving DecidableEq

inductive BrokerEvent where
  | comboExecution (execution : BrokerComboExecution)
  | acknowledged (clientOrderId brokerOrderId : String)
  | execution (execution : BrokerExecution)
  | cancelled (clientOrderId reason : String)
  | cancelRejected (clientOrderId reason : String)
  | expired (clientOrderId reason : String)
  | replaceRequested (clientOrderId previousBrokerOrderId : String)
  | replaced (clientOrderId previousBrokerOrderId brokerOrderId : String)
  | replaceRejected (clientOrderId reason : String)
  | rejected (clientOrderId reason : String)
  deriving DecidableEq

def BrokerEvent.clientOrderId : BrokerEvent → String
  | .comboExecution fill => fill.clientOrderId
  | .execution fill => fill.clientOrderId
  | .acknowledged clientOrderId _ => clientOrderId
  | .cancelled clientOrderId _ => clientOrderId
  | .cancelRejected clientOrderId _ => clientOrderId
  | .expired clientOrderId _ => clientOrderId
  | .replaceRequested clientOrderId _ => clientOrderId
  | .replaced clientOrderId _ _ => clientOrderId
  | .replaceRejected clientOrderId _ => clientOrderId
  | .rejected clientOrderId _ => clientOrderId

/-! ## Snapshots -/

structure BrokerOrderSnapshot where
  (clientOrderId brokerOrderId : String)
  state : OrderState
  filledQuantity : Decimal
  deriving DecidableEq

structure BrokerPositionSnapshot where
  instrumentId : String
  quantity : Decimal
  deriving DecidableEq

structure BrokerAccountSnapshot where
  orders : List BrokerOrderSnapshot
  positions : List BrokerPositionSnapshot
  cash : Decimal
  deriving DecidableEq

def duplicateVersions : String :=
  "broker snapshot has duplicate broker order versions or negative filled quantity"

def validateSnapshotOrders (versions : List (String × String))
    (brokerIds : List String) : List BrokerOrderSnapshot → Result Unit
  | [] => pure ()
  | order :: orders => do
    validateCanonicalId "broker snapshot client_order_id" order.clientOrderId
    validateCanonicalId "broker snapshot broker_order_id" order.brokerOrderId
    refuseIf (order.filledQuantity < Decimal.zero ∨
        (order.clientOrderId, order.brokerOrderId) ∈ versions ∨
        order.brokerOrderId ∈ brokerIds) duplicateVersions
    validateSnapshotOrders
      ((order.clientOrderId, order.brokerOrderId) :: versions)
      (order.brokerOrderId :: brokerIds) orders

def validateSnapshotPositions (instruments : List String) :
    List BrokerPositionSnapshot → Result Unit
  | [] => pure ()
  | position :: positions => do
    validateCanonicalId "broker snapshot instrument_id" position.instrumentId
    refuseIf (position.instrumentId ∈ instruments)
      "broker snapshot contains duplicate instrument position"
    validateSnapshotPositions (position.instrumentId :: instruments) positions

def validateBrokerSnapshot (snapshot : BrokerAccountSnapshot) : Result Unit := do
  validateSnapshotOrders [] [] snapshot.orders
  validateSnapshotPositions [] snapshot.positions

/-! ## Adapters -/

structure PaperBrokerCapabilities where
  combinations : Bool := false
  goodTilCancelled : Bool := false
  replacement : Bool := false
  deriving DecidableEq

/-- The paper broker boundary.  A call returns its reply and the adapter it
leaves. -/
class PaperBrokerAdapter (B : Type) where
  capabilities : B → String → Result PaperBrokerCapabilities :=
    fun _ _ => .ok {}
  adapterConfigurationFingerprint : B → String → Result String :=
    fun _ _ => .ok ""
  configurationFingerprint : B → String → Result String := fun _ _ => .ok ""
  permitsEmptyJournal : B → String → Bool := fun _ _ => true
  requiresCleanReconciliation : B → Bool := fun _ => false
  submit : B → BrokerOrderRequest → Result BrokerSubmitResult × B
  submitCombo : B → BrokerComboRequest → Result BrokerSubmitResult × B :=
    fun broker _ =>
      (.error ⟨"broker adapter does not support native combos"⟩, broker)
  cancel : B → BrokerCancelRequest → Result Unit × B
  replace : B → BrokerReplaceRequest → Result Unit × B :=
    fun broker _ =>
      (.error ⟨"paper broker adapter does not support order replacement"⟩, broker)
  poll : B → String → Result (List BrokerEvent) × B
  snapshot : B → String → Result BrokerAccountSnapshot × B
  reconnect : B → String → Result Unit × B

end Follon.Paper
