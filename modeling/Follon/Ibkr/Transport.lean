import Follon.Ibkr.Session
import Follon.Paper.Broker

/-!
# The bridge's answers at the host

How the bridge writes the answers to a poll and to a snapshot, and how the
transport of the host reads them.
-/

namespace Follon.Ibkr

open Foundation Domain Paper

/-! ## What the bridge writes -/

def textsObject (members : List (String × String)) : Json :=
  .obj (members.map fun member => (member.1, .str member.2))

def BridgeEvent.toJson : BridgeEvent → Json
  | .acknowledged clientOrderId brokerOrderId =>
    textsObject [("broker_order_id", brokerOrderId), ("client_order_id", clientOrderId),
      ("event_type", "ACKNOWLEDGED")]
  | .execution executionId clientOrderId brokerOrderId quantity price fee
      executedAt =>
      textsObject [("broker_order_id", brokerOrderId), ("client_order_id", clientOrderId),
        ("event_type", "EXECUTION"), ("executed_at", executedAt),
        ("execution_id", executionId), ("fee", fee),
        ("price", price), ("quantity", quantity)]
  | .cancelled clientOrderId reason =>
    textsObject [("client_order_id", clientOrderId),
      ("event_type", "CANCELLED"), ("reason", reason)]
  | .cancelRejected clientOrderId reason =>
    textsObject [("client_order_id", clientOrderId),
      ("event_type", "CANCEL_REJECTED"), ("reason", reason)]
  | .rejected clientOrderId reason =>
    textsObject [("client_order_id", clientOrderId),
      ("event_type", "REJECTED"), ("reason", reason)]

def OrderRow.toJson (row : OrderRow) : Json :=
  textsObject [("broker_order_id", row.brokerOrderId),
    ("client_order_id", row.clientOrderId),
    ("filled_quantity", row.filledQuantity),
    ("state", row.state.text)]

def positionJson (position : String × String) : Json :=
  textsObject [("instrument_id", position.1), ("quantity", position.2)]

def BridgeSnapshot.toJson (snapshot : BridgeSnapshot) : Json :=
  .obj [("cash", .str snapshot.cash),
    ("orders", .arr (snapshot.orders.map OrderRow.toJson)),
    ("positions", .arr (snapshot.positions.map positionJson))]

def okResponse (requestId : Nat) (result : Json) : Json :=
  .obj [("error", .null), ("ok", .bool true), ("protocol_version", .num 1),
    ("request_id", .num requestId), ("result", result)]

def responseLine (requestId : Nat) (result : Json) : String :=
  (okResponse requestId result).print Json.pythonChar

def pollLine (requestId : Nat) (events : List BridgeEvent) : String :=
  responseLine requestId (.arr (events.map BridgeEvent.toJson))

def snapshotLine (requestId : Nat) (snapshot : BridgeSnapshot) : String :=
  responseLine requestId snapshot.toJson

/-! ## Responses -/

def knows (fields : List String) (members : Payload) : Bool :=
  members.all fun member => member.1 ∈ fields

def requiredText (members : Payload) (name : String) : Option String :=
  match Payload.get members name with
  | some (.str value) => some value
  | _ => none

def optionalText (members : Payload) (name : String) : Option (Option String) :=
  match Payload.get members name with
  | none => some none
  | some .null => some none
  | some (.str value) => some (some value)
  | _ => none

structure BridgeResponse where
  (protocolVersion requestId : Int)
  ok : Bool
  result : Option Json
  error : Option String

def readResponse : Json → Option BridgeResponse
  | .obj members =>
    if knows ["protocol_version", "request_id", "ok", "result", "error"]
        members = true then
      match Payload.get members "protocol_version", Payload.get members "request_id",
          Payload.get members "ok", optionalText members "error" with
      | some (.num protocolVersion), some (.num requestId), some (.bool ok),
          some error =>
          let result :=
            match Payload.get members "result" with
            | some .null => none
            | result => result
          some { protocolVersion, requestId, ok, result, error }
      | _, _, _, _ => none
    else none
  | _ => none

def validateBridgeText (name value : String) : Result Unit :=
  refuseIf (isBlank value = true ∨ 1024 < value.utf8ByteSize ∨
      '\r' ∈ value.toList ∨ '\n' ∈ value.toList)
    (name ++ " must contain 1 to 1024 single-line characters")

/-- The result a line brings for a request.  A line is longer than the limit
with its end. -/
def receiveResult (maxResponseBytes requestId : Nat) (line : String) : Result Json := do
  refuseIf (maxResponseBytes < line.utf8ByteSize + 1)
    "IBKR paper bridge emitted an oversized response"
  match (Json.read line).bind readResponse with
  | none => .error ⟨"IBKR paper bridge response is malformed"⟩
  | some response =>
    refuseIf (response.protocolVersion ≠ 1 ∨ response.requestId ≠ requestId ∨
        response.ok = response.error.isSome ∨
        response.ok ≠ response.result.isSome)
      "IBKR paper bridge response does not match the request"
    match response.error, response.result with
    | some error, _ =>
      match validateBridgeText "IBKR paper bridge error" error with
      | .ok () => .error ⟨error⟩
      | .error _ =>
        .error ⟨"IBKR paper bridge error response is malformed"⟩
    | none, some result => .ok result
    | none, none => .error ⟨"IBKR paper bridge response has no result"⟩

/-! ## Events -/

structure WireEvent where
  eventType : String
  executionId : Option String
  clientOrderId : String
  (brokerOrderId quantity price fee executedAt reason : Option String)

def readEvent : Json → Option WireEvent
  | .obj members => do
    if knows ["event_type", "execution_id", "client_order_id",
        "broker_order_id", "quantity", "price", "fee", "executed_at",
        "reason"] members = false then none
    let eventType ← requiredText members "event_type"
    let executionId ← optionalText members "execution_id"
    let clientOrderId ← requiredText members "client_order_id"
    let brokerOrderId ← optionalText members "broker_order_id"
    let quantity ← optionalText members "quantity"
    let price ← optionalText members "price"
    let fee ← optionalText members "fee"
    let executedAt ← optionalText members "executed_at"
    let reason ← optionalText members "reason"
    some (.mk eventType executionId clientOrderId brokerOrderId quantity
      price fee executedAt reason)
  | _ => none

def required (text : String) : Option String → Result String
  | some value => .ok value
  | none => .error ⟨text⟩

def bridgeDecimal (name value : String) : Result Decimal :=
  match Decimal.parse value with
  | .ok parsed => .ok parsed
  | .error e => .error ⟨"invalid " ++ name ++ ": " ++ e.message⟩

def requiredBridgeReason (reason : Option String) : Result String := do
  let reason ← required "IBKR response has no reason" reason
  validateBridgeText "IBKR response reason" reason
  pure reason

def normalizeBridgeEvent (event : WireEvent) : Result BrokerEvent := do
  validateCanonicalId "IBKR event client_order_id" event.clientOrderId
  if event.eventType = "ACKNOWLEDGED" then
    let brokerOrderId ← required
      "IBKR acknowledgement event has no broker order ID" event.brokerOrderId
    validateCanonicalId "IBKR event broker_order_id" brokerOrderId
    pure (.acknowledged event.clientOrderId brokerOrderId)
  else if event.eventType = "EXECUTION" then
    let executionId ← required "IBKR execution event has no execution ID"
      event.executionId
    let brokerOrderId ← required
      "IBKR execution event has no broker order ID" event.brokerOrderId
    validateCanonicalId "IBKR execution_id" executionId
    validateCanonicalId "IBKR execution broker_order_id" brokerOrderId
    let executedAt ← required "IBKR execution event has no timestamp"
      event.executedAt
    validateUtcTimestamp "IBKR execution time" executedAt
    let quantityText ← required "IBKR execution event has no quantity"
      event.quantity
    let quantity ← bridgeDecimal "IBKR execution quantity" quantityText
    let priceText ← required "IBKR execution event has no price" event.price
    let price ← bridgeDecimal "IBKR execution price" priceText
    let feeText ← required "IBKR execution event has no fee" event.fee
    let fee ← bridgeDecimal "IBKR execution fee" feeText
    pure (.execution (.mk executionId event.clientOrderId brokerOrderId
      quantity price fee executedAt))
  else if event.eventType = "CANCELLED" then
    let reason ← requiredBridgeReason event.reason
    pure (.cancelled event.clientOrderId reason)
  else if event.eventType = "CANCEL_REJECTED" then
    let reason ← requiredBridgeReason event.reason
    pure (.cancelRejected event.clientOrderId reason)
  else if event.eventType = "REJECTED" then
    let reason ← requiredBridgeReason event.reason
    pure (.rejected event.clientOrderId reason)
  else .error ⟨"IBKR bridge emitted an unknown event type"⟩

def readItems {α : Type} (item : Json → Option α) : Json → Option (List α)
  | .arr items => items.mapM item
  | _ => none

def pollPaperEvents (maxResponseBytes requestId : Nat) (line : String) :
    Result (List BrokerEvent) := do
  let value ← receiveResult maxResponseBytes requestId line
  match readItems readEvent value with
  | none => .error ⟨"IBKR event response is malformed"⟩
  | some events => events.mapM normalizeBridgeEvent

/-! ## Snapshots -/

structure WireOrder where
  (clientOrderId brokerOrderId state filledQuantity : String)

def readOrder : Json → Option WireOrder
  | .obj members => do
    if knows ["client_order_id", "broker_order_id", "state",
        "filled_quantity"] members = false then none
    let clientOrderId ← requiredText members "client_order_id"
    let brokerOrderId ← requiredText members "broker_order_id"
    let state ← requiredText members "state"
    let filledQuantity ← requiredText members "filled_quantity"
    some { clientOrderId, brokerOrderId, state, filledQuantity }
  | _ => none

def readPosition : Json → Option (String × String)
  | .obj members => do
    if knows ["instrument_id", "quantity"] members = false then none
    let instrumentId ← requiredText members "instrument_id"
    let quantity ← requiredText members "quantity"
    some (instrumentId, quantity)
  | _ => none

structure WireSnapshot where
  orders : List WireOrder
  positions : List (String × String)
  cash : String

def readSnapshot : Json → Option WireSnapshot
  | .obj members => do
    if knows ["orders", "positions", "cash"] members = false then none
    let orders ← (Payload.get members "orders").bind (readItems readOrder)
    let positions ← (Payload.get members "positions").bind (readItems readPosition)
    let cash ← requiredText members "cash"
    some { orders, positions, cash }
  | _ => none

def parseBridgeOrderState (value : String) : Result OrderState :=
  if value = "PENDING_SUBMIT" then .ok .pendingSubmit
  else if value = "SUBMITTED" then .ok .submitted
  else if value = "ACKNOWLEDGED" then .ok .acknowledged
  else if value = "PARTIALLY_FILLED" then .ok .partiallyFilled
  else if value = "FILLED" then .ok .filled
  else if value = "PENDING_CANCEL" then .ok .pendingCancel
  else if value = "CANCELLED" then .ok .cancelled
  else if value = "REJECTED" then .ok .rejected
  else if value = "EXPIRED" then .ok .expired
  else if value = "UNKNOWN" then .ok .unknown
  else .error ⟨"IBKR snapshot contains an unknown order state"⟩

def normalizeOrder (order : WireOrder) : Result BrokerOrderSnapshot := do
  validateCanonicalId "IBKR snapshot client_order_id" order.clientOrderId
  validateCanonicalId "IBKR snapshot broker_order_id" order.brokerOrderId
  let filledQuantity ← bridgeDecimal "IBKR snapshot filled quantity"
    order.filledQuantity
  refuseIf (filledQuantity < Decimal.zero)
    "IBKR snapshot filled quantity is negative"
  let state ← parseBridgeOrderState order.state
  pure (.mk order.clientOrderId order.brokerOrderId state filledQuantity)

def normalizePosition (position : String × String) : Result BrokerPositionSnapshot := do
  validateCanonicalId "IBKR snapshot instrument_id" position.1
  let quantity ← bridgeDecimal "IBKR snapshot position" position.2
  pure { instrumentId := position.1, quantity }

def paperAccountSnapshot (maxResponseBytes requestId : Nat) (line : String) :
    Result BrokerAccountSnapshot := do
  let value ← receiveResult maxResponseBytes requestId line
  match readSnapshot value with
  | none => .error ⟨"IBKR snapshot response is malformed"⟩
  | some snapshot =>
    let orders ← snapshot.orders.mapM normalizeOrder
    let positions ← snapshot.positions.mapM normalizePosition
    let cash ← bridgeDecimal "IBKR snapshot cash" snapshot.cash
    pure { orders, positions, cash }

end Follon.Ibkr
