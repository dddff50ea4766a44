import Follon.Foundation.Transition
import Follon.Ibkr.Bridge

/-!
# Requests to the bridge

The bridge answers one request after the other while callbacks arrive on
another thread.  A request that waits is a work under way, and any callback may
come before it goes on.  The trace holds what was reported, put, placed and
answered, the last first.
-/

namespace Follon.Ibkr

open Foundation Domain

/-! ## Submissions -/

structure SubmitRequest where
  clientOrderId : String
  contract : InstrumentContract
  (side quantity : String)
  limitPrice : Option String
  deriving DecidableEq

abbrev Payload : Type :=
  List (String × Json)

namespace Payload

def get (payload : Payload) (name : String) : Option Json :=
  (payload.reverse.find? (·.1 = name)).map (·.2)

def hasExactly (payload : Payload) (expected : List String) : Bool :=
  (payload.all fun member => member.1 ∈ expected) &&
    expected.all fun name => (payload.get name).isSome

def canonical (payload : Payload) (name : String) : Option String :=
  match payload.get name with
  | some (.str value) => if isCanonicalId value = true then some value else none
  | _ => none

def decimalText : Json → Option String
  | .str value =>
    match PythonNumber.ofText value with
    | some (.finite parsed) =>
      if parsed.isPositive = true then some parsed.plain else none
    | _ => none
  | _ => none

def side (payload : Payload) : Option String :=
  match payload.get "side" with
  | some (.str value) =>
    if value = "BUY" ∨ value = "SELL" then some value else none
  | _ => none

def limitPrice (payload : Payload) : Option (Option String) :=
  match payload.get "limit_price" with
  | some .null => some none
  | some value => (decimalText value).map some
  | none => none

end Payload

def BridgeConfiguration.contract? (config : BridgeConfiguration)
    (instrumentId : String) : Option InstrumentContract :=
  (config.instruments.reverse.find? (·.1 = instrumentId)).map (·.2)

def orRefuse {α : Type} (code : String) : Option α → Except String α
  | some value => .ok value
  | none => .error code

def validateSubmit (config : BridgeConfiguration) (payload : Payload) :
    Except String SubmitRequest := do
  if payload.hasExactly ["client_order_id", "account_id", "instrument_id",
      "side", "quantity", "limit_price"] = false then
    .error "INVALID_REQUEST"
  let clientOrderId ←
    orRefuse "INVALID_REQUEST" (payload.canonical "client_order_id")
  let accountId ← orRefuse "INVALID_REQUEST" (payload.canonical "account_id")
  if accountId ≠ config.accountId then .error "ACCOUNT_MISMATCH"
  let instrumentId ←
    orRefuse "INVALID_REQUEST" (payload.canonical "instrument_id")
  let contract ←
    orRefuse "INSTRUMENT_UNMAPPED" (config.contract? instrumentId)
  let side ← orRefuse "INVALID_SIDE" payload.side
  let quantity ← orRefuse "INVALID_REQUEST"
    ((payload.get "quantity").bind Payload.decimalText)
  let limitPrice ← orRefuse "INVALID_REQUEST" payload.limitPrice
  .ok { clientOrderId, contract, side, quantity, limitPrice }

/-! ## Answers -/

inductive SubmitResult where
  | acknowledged (brokerOrderId : String)
  | rejected (reason : String)
  | unknown (reason : String)
  deriving DecidableEq

def refusal (code : String) : SubmitResult := .rejected ("IBKR_BRIDGE_REFUSED_" ++ code)

def outcomeUnknown : SubmitResult := .unknown "IBKR_SUBMIT_OUTCOME_UNKNOWN"

def retryResult (existing : Int) : Option BridgeState → SubmitResult
  | some .acknowledged => .acknowledged (brokerOrderIdOf existing)
  | some .partiallyFilled => .acknowledged (brokerOrderIdOf existing)
  | some .filled => .acknowledged (brokerOrderIdOf existing)
  | some .rejected => .rejected "IBKR_PAPER_REJECTED"
  | some .cancelled => .rejected "IBKR_PAPER_CANCELLED"
  | _ => outcomeUnknown

structure BridgeSnapshot where
  orders : List OrderRow
  positions : List (String × String)
  cash : String

/-- The answer to a request; a submission's also has the order it is for. -/
inductive Answer where
  | submit (clientOrderId : Option String) (result : SubmitResult)
  | cancel
  | poll (events : List BridgeEvent)
  | snapshot (snapshot : BridgeSnapshot)
  | reconnect
  | failed

/-! ## Sessions -/

inductive Refresh where
  | snapshot (accountRequestId : Int)
  | reconnect

inductive Work where
  | idle
  | placing (request : SubmitRequest) (orderId : Int)
  | awaiting (clientOrderId : String) (orderId : Int)
  | settled (clientOrderId : String) (orderId : Int)
  | snapshotCleared (accountRequestId : Int)
  | snapshotRequested (accountRequestId : Int)
  | refreshing (requestId : Int) (purpose : Refresh)
  | snapshotWaiting (accountRequestId : Int)
  | connecting

inductive Entry where
  | reported (callback : Callback)
  | put (event : BridgeEvent)
  | placed (clientOrderId : String) (orderId : Int)
  | cancelled (orderId : Int)
  | answered (answer : Answer)

structure Session where
  app : App
  work : Work
  nextRequestId : Int
  isConnected : Bool
  trace : List Entry

namespace Session

def start : Session where
  app := App.new
  work := .idle
  nextRequestId := 9101
  isConnected := false
  trace := []

def log (entry : Entry) (session : Session) : Session :=
  { session with trace := entry :: session.trace }

def newEvents (session : Session) (app : App) : List Entry :=
  ((app.events.all.drop session.app.events.all.length).map .put).reverse

def moveTo (app : App) (session : Session) : Session :=
  { session with app, trace := session.newEvents app ++ session.trace }

def goOn (work : Work) (session : Session) : Session := { session with work }

def answer (answer : Answer) (session : Session) : Session :=
  { session with work := .idle, trace := .answered answer :: session.trace }

def connected (session : Session) : Bool :=
  session.isConnected && session.app.connectedReady

def receive (config : BridgeConfiguration) (callback : Callback)
    (session : Session) : Session :=
  (session.log (.reported callback)).moveTo
    (callback.apply config session.app)

/-! ## Submissions -/

def clientOrderIdOf (payload : Payload) : Option String :=
  match payload.get "client_order_id" with
  | some (.str value) => some value
  | _ => none

def allocate (request : SubmitRequest) (orderId : Int) (session : Session) : Session :=
  { session with
    app := ({ session.app with nextOrderId := some (orderId + 1) } : App).mapOrder
      orderId request.clientOrderId
    work := .placing request orderId }

def submit (config : BridgeConfiguration) (payload : Payload)
    (session : Session) : Session :=
  match validateSubmit config payload with
  | .error code =>
    session.answer (.submit (clientOrderIdOf payload) (refusal code))
  | .ok request =>
    match session.app.orderByClient[request.clientOrderId]? with
    | some existing =>
      session.answer (.submit (some request.clientOrderId)
        (retryResult existing (session.app.stateOf request.clientOrderId)))
    | none =>
      if session.connected = false then
        session.answer (.submit (some request.clientOrderId)
          (refusal "GATEWAY_DISCONNECTED"))
      else
        match session.app.nextOrderId with
        | none =>
          session.answer (.submit (some request.clientOrderId)
            (refusal "ORDER_ID_UNAVAILABLE"))
        | some orderId => session.allocate request orderId

def isSettled (state : BridgeState) : Bool :=
  state = .acknowledged || state = .partiallyFilled || state.isTerminal

def settledAnswer (clientOrderId : String) (orderId : Int) (session : Session) : Answer :=
  match session.app.stateOf clientOrderId with
  | none => .failed
  | some .rejected =>
    .submit (some clientOrderId) (.rejected "IBKR_PAPER_REJECTED")
  | some _ =>
    .submit (some clientOrderId) (.acknowledged (brokerOrderIdOf orderId))

/-! ## Cancellations and polls -/

def refuseCancel (clientOrderId code : String) (session : Session) : Session :=
  (session.moveTo (session.app.put
    (.cancelRejected clientOrderId ("IBKR_BRIDGE_REFUSED_" ++ code)))).answer
      .cancel

def sendCancel (clientOrderId : String) (orderId : Int) (session : Session) : Session :=
  ({ session with
    app := { session.app with
      cancelRequested := clientOrderId :: session.app.cancelRequested }
    trace := .cancelled orderId :: session.trace } : Session).answer .cancel

def cancel (payload : Payload) (session : Session) : Session :=
  match payload.hasExactly ["client_order_id"],
      payload.canonical "client_order_id" with
  | true, some clientOrderId =>
    if session.connected = false then
      session.refuseCancel clientOrderId "GATEWAY_DISCONNECTED"
    else
      match session.app.orderByClient[clientOrderId]? with
      | none => session.refuseCancel clientOrderId "ORDER_UNKNOWN"
      | some orderId => session.sendCancel clientOrderId orderId
  | _, _ => session.answer .failed

def poll (payload : Payload) (session : Session) : Session :=
  if payload ≠ [] ∨ session.connected = false then session.answer .failed
  else
    ({ session with
      app := { session.app with events := session.app.events.drain } } :
      Session).answer (.poll session.app.events.waiting)

/-! ## Snapshots and connections -/

def refresh (purpose : Refresh) (session : Session) : Session :=
  { session with
    nextRequestId := session.nextRequestId + 1
    app := { session.app with
      executionsDone := false
      activeExecutionRequest := some session.nextRequestId
      executionIdsByRequest :=
        session.app.executionIdsByRequest.insert session.nextRequestId [] }
    work := .refreshing session.nextRequestId purpose }

def isRefreshed (requestId : Int) (session : Session) : Bool :=
  session.app.executionsDone &&
    (session.app.executionIdsByRequest[requestId]?.getD []).all fun execId =>
      session.app.commissions.contains execId

def endRefresh (session : Session) : Session :=
  { session with app := { session.app with activeExecutionRequest := none } }

def snapshot (config : BridgeConfiguration) (payload : Payload)
    (session : Session) : Session :=
  if session.connected = false ∨ payload.hasExactly ["account_id"] = false ∨
      payload.canonical "account_id" ≠ some config.accountId then
    session.answer .failed
  else
    { session with
      nextRequestId := session.nextRequestId + 1
      app := { session.app with
        openOrdersDone := false, positionsDone := false
        accountSummaryDone := false, completedOrdersDone := false
        positions := ∅, activeAccountSummaryRequest := none, cash := none
        orders := ∅ }
      work := .snapshotCleared session.nextRequestId }

def requestSummary (accountRequestId : Int) (session : Session) : Session :=
  { session with
    app := { session.app with
      activeAccountSummaryRequest := some accountRequestId }
    work := .snapshotRequested accountRequestId }

def retireSummary (session : Session) : Session :=
  { session with
    app := { session.app with activeAccountSummaryRequest := none } }

def isSnapshotDone (session : Session) : Bool :=
  session.app.openOrdersDone && session.app.positionsDone &&
    session.app.accountSummaryDone && session.app.completedOrdersDone

def answerSnapshot (session : Session) : Session :=
  match session.app.cash with
  | none => session.retireSummary.answer .failed
  | some cash =>
    session.retireSummary.answer (.snapshot
      { orders := session.app.orders.toList.map (·.2)
        positions := session.app.positions.toList
        cash })

def reconnect (payload : Payload) (session : Session) : Session :=
  if payload ≠ [] then session.answer .failed
  else
    { session with
      app := { session.app with connectedReady := false, managedAccounts := [] }
      work := .connecting }

def isReady (config : BridgeConfiguration) (session : Session) : Bool :=
  session.app.connectedReady && config.brokerAccount ∈ session.app.managedAccounts

/-! ## Steps -/

/-- A callback arrives, the connection changes, a request is made, or the
request under way goes on, is answered or times out. -/
inductive Step (config : BridgeConfiguration) : Session → Session → Prop
  | callback (session : Session) (callback : Callback) :
      Step config session (session.receive config callback)
  | connection (session : Session) (isConnected : Bool) :
      Step config session { session with isConnected }
  | submit {session : Session} (h : session.work = .idle)
      (payload : Payload) : Step config session (session.submit config payload)
  | place {session : Session} {request : SubmitRequest} {orderId : Int}
      (h : session.work = .placing request orderId) :
      Step config session ((session.log (.placed request.clientOrderId orderId)).goOn
          (.awaiting request.clientOrderId orderId))
  | settle {session : Session} {clientOrderId : String} {orderId : Int}
      (h : session.work = .awaiting clientOrderId orderId)
      (hstate : (session.app.stateOf clientOrderId).any isSettled = true) :
      Step config session (session.goOn (.settled clientOrderId orderId))
  | answerSubmit {session : Session} {clientOrderId : String} {orderId : Int}
      (h : session.work = .settled clientOrderId orderId) :
      Step config session
        (session.answer (session.settledAnswer clientOrderId orderId))
  | submitTimeout {session : Session} {clientOrderId : String} {orderId : Int}
      (h : session.work = .awaiting clientOrderId orderId) :
      Step config session
        (session.answer (.submit (some clientOrderId) outcomeUnknown))
  | cancel {session : Session} (h : session.work = .idle)
      (payload : Payload) : Step config session (session.cancel payload)
  | poll {session : Session} (h : session.work = .idle)
      (payload : Payload) : Step config session (session.poll payload)
  | snapshot {session : Session} (h : session.work = .idle)
      (payload : Payload) :
      Step config session (session.snapshot config payload)
  | requestSummary {session : Session} {accountRequestId : Int}
      (h : session.work = .snapshotCleared accountRequestId) :
      Step config session (session.requestSummary accountRequestId)
  | requestExecutions {session : Session} {accountRequestId : Int}
      (h : session.work = .snapshotRequested accountRequestId) :
      Step config session (session.refresh (.snapshot accountRequestId))
  | refreshed {session : Session} {requestId accountRequestId : Int}
      (h : session.work = .refreshing requestId (.snapshot accountRequestId))
      (hdone : session.isRefreshed requestId = true) :
      Step config session
        (session.endRefresh.goOn (.snapshotWaiting accountRequestId))
  | answerSnapshot {session : Session} {accountRequestId : Int}
      (h : session.work = .snapshotWaiting accountRequestId)
      (hdone : session.isSnapshotDone = true) :
      Step config session session.answerSnapshot
  | refreshTimeout {session : Session} {requestId accountRequestId : Int}
      (h : session.work = .refreshing requestId (.snapshot accountRequestId)) :
      Step config session (session.retireSummary.answer .failed)
  | snapshotTimeout {session : Session} {accountRequestId : Int}
      (h : session.work = .snapshotWaiting accountRequestId) :
      Step config session (session.retireSummary.answer .failed)
  | reconnect {session : Session} (h : session.work = .idle)
      (payload : Payload) : Step config session (session.reconnect payload)
  | connect {session : Session} (h : session.work = .connecting)
      (hready : session.isReady config = true) :
      Step config session (session.refresh .reconnect)
  | reconnected {session : Session} {requestId : Int}
      (h : session.work = .refreshing requestId .reconnect)
      (hdone : session.isRefreshed requestId = true) :
      Step config session (session.endRefresh.answer .reconnect)
  | connectTimeout {session : Session} (h : session.work = .connecting) :
      Step config session (session.answer .failed)
  | reconnectTimeout {session : Session} {requestId : Int}
      (h : session.work = .refreshing requestId .reconnect) :
      Step config session (session.answer .failed)

def Run (config : BridgeConfiguration) : Session → Prop :=
  Reachable (· = start) (Step config)

end Session

/-! ## Traces -/

def Entry.callback? : Entry → Option Callback
  | .reported callback => some callback
  | _ => none

def Session.callbacks (session : Session) : List Callback :=
  session.trace.filterMap Entry.callback?

namespace Session

variable {config : BridgeConfiguration}

theorem callback?_newEvents (session : Session) (app : App) :
    (session.newEvents app).filterMap Entry.callback? = [] := by
  rw [List.filterMap_eq_nil_iff]
  intro entry hentry
  rw [newEvents, List.mem_reverse, mem_map] at hentry
  obtain ⟨event, _, rfl⟩ := hentry
  rfl

@[simp] theorem callbacks_moveTo (session : Session) (app : App) :
    (session.moveTo app).callbacks = session.callbacks := by
  unfold callbacks moveTo
  dsimp only
  rw [filterMap_append, callback?_newEvents, nil_append]

theorem callbacks_receive (session : Session) (callback : Callback) :
    (session.receive config callback).callbacks
      = callback :: session.callbacks := by
  rw [receive, callbacks_moveTo]
  rfl

theorem receive_inj {session : Session} {callback callback' : Callback}
    (h : session.receive config callback
      = session.receive config callback') : callback = callback' := by
  have hcallbacks := congrArg callbacks h
  rw [callbacks_receive, callbacks_receive] at hcallbacks
  exact (List.cons.inj hcallbacks).1

end Session

end Follon.Ibkr
