import Follon.Live.Policy

/-!
# The controlled LIVE adapter

A session of the capital-bearing adapter: its readiness flags, what each call
asks of the transport, and what the transport answers.  The answers are inputs.
-/

namespace Follon.Live

open Foundation Domain

/-! ## Requests -/

structure LiveBrokerOrderRequest where
  (clientOrderId accountId instrumentId : String)
  side : Side
  quantity : Decimal
  limitPrice : Option Decimal
  deriving DecidableEq

structure LiveBrokerReplaceRequest where
  (clientOrderId previousBrokerOrderId : String)
  limitPrice : Decimal
  deriving DecidableEq

inductive LiveBrokerSubmitResult where
  | acknowledged (brokerOrderId : String)
  | rejected (reason : String)
  | unknown (reason : String)
  deriving DecidableEq

/-! ## Configuration -/

structure IbkrLiveGatewayConfiguration where
  (accountId host : String)
  port : UInt16
  environment : String
  (maximumQuantity maximumNotional : Decimal)
  allowedInstruments : List String
  deriving DecidableEq

def IbkrLiveGatewayConfiguration.validate
    (configuration : IbkrLiveGatewayConfiguration) : Result Unit := do
  validateCanonicalId "IBKR live account_id" configuration.accountId
  refuseIf (configuration.host ∉ ["127.0.0.1", "localhost", "::1"] ∨
      configuration.port ∉ ([7496, 4001] : List UInt16) ∨
      configuration.environment ≠ "LIVE" ∨
      configuration.maximumQuantity ≤ Decimal.zero ∨
      configuration.maximumNotional ≤ Decimal.zero ∨
      configuration.allowedInstruments = [])
    "IBKR LIVE adapter requires loopback LIVE port and positive canary limits"
  checkAll (validateCanonicalId "IBKR live allowed instrument")
    configuration.allowedInstruments

/-! ## The transport -/

/-- A call of the transport, with its answer where the session depends on
it. -/
inductive TransportCall where
  | connectLive (credential : List UInt8) (answer : Result Unit)
  | submitLive (request : LiveBrokerOrderRequest)
  | cancelLive (clientOrderId : String)
  | replaceLive (request : LiveBrokerReplaceRequest)
  | pollLive
  | liveAccountSnapshot (accountId : String) (answered : Bool)
  | cancelAllLive (accountId : String)
  | disconnectLive

structure TransportAnswers (Snapshot Events : Type) where
  connectLive : Result Unit
  submitLive : Result LiveBrokerSubmitResult
  (cancelLive replaceLive : Result Unit)
  pollLive : Result Events
  liveAccountSnapshot : Result Snapshot
  cancelAllLive : Result Unit

/-! ## The adapter -/

structure IbkrControlledLiveAdapter where
  configuration : IbkrLiveGatewayConfiguration
  (connected initialSnapshotObserved emergencyStop : Bool)
  deriving DecidableEq

structure Outcome (α : Type) where
  result : Result α
  adapter : IbkrControlledLiveAdapter
  calls : List TransportCall

namespace IbkrControlledLiveAdapter

variable {Snapshot Events : Type}

def new (configuration : IbkrLiveGatewayConfiguration) :
    Result IbkrControlledLiveAdapter := do
  configuration.validate
  pure
    { configuration
      connected := false
      initialSnapshotObserved := false
      emergencyStop := false }

def activateEmergencyStop (adapter : IbkrControlledLiveAdapter)
    (answers : TransportAnswers Snapshot Events) : Outcome Unit where
  result := answers.cancelAllLive
  adapter := { adapter with emergencyStop := true }
  calls := [.cancelAllLive adapter.configuration.accountId]

def requireSubmissionReady (adapter : IbkrControlledLiveAdapter)
    (request : LiveBrokerOrderRequest) : Result Unit := do
  refuseIf (adapter.connected = false ∨
      adapter.initialSnapshotObserved = false ∨ adapter.emergencyStop = true)
    "IBKR LIVE adapter is disconnected, unreconciled, or emergency-stopped"
  refuseIf (request.accountId ≠ adapter.configuration.accountId ∨
      request.instrumentId ∉ adapter.configuration.allowedInstruments ∨
      request.quantity ≤ Decimal.zero ∨
      adapter.configuration.maximumQuantity < request.quantity)
    "IBKR LIVE request exceeds the reviewed canary envelope"
  match request.limitPrice with
  | none =>
    .error ⟨"IBKR LIVE canary requires a price-protected limit order"⟩
  | some limitPrice => do
    let notional ← request.quantity.checkedMul limitPrice
    refuseIf (adapter.configuration.maximumNotional < notional)
      "IBKR LIVE request exceeds maximum canary notional"

def connect (adapter : IbkrControlledLiveAdapter) (accountId : String)
    (credential : List UInt8) (answers : TransportAnswers Snapshot Events) :
    Outcome Unit :=
  if accountId ≠ adapter.configuration.accountId ∨
      adapter.emergencyStop = true then
    { result := .error
        ⟨"IBKR LIVE connection account mismatch or emergency stop"⟩
      adapter
      calls := [] }
  else
    match answers.connectLive with
    | .error e =>
      { result := .error e
        adapter
        calls := [.connectLive credential (.error e)] }
    | .ok () =>
      match answers.liveAccountSnapshot with
      | .error _ =>
        { result := .error ⟨"IBKR LIVE initial account snapshot failed"⟩
          adapter := { adapter with
            connected := false, initialSnapshotObserved := false }
          calls :=
            [.connectLive credential (.ok ()),
              .liveAccountSnapshot adapter.configuration.accountId false,
              .disconnectLive] }
      | .ok _ =>
        { result := .ok ()
          adapter := { adapter with
            connected := true, initialSnapshotObserved := true }
          calls :=
            [.connectLive credential (.ok ()),
              .liveAccountSnapshot adapter.configuration.accountId true] }

def submit (adapter : IbkrControlledLiveAdapter) (request : LiveBrokerOrderRequest)
    (answers : TransportAnswers Snapshot Events) : Outcome LiveBrokerSubmitResult :=
  match adapter.requireSubmissionReady request with
  | .error e => { result := .error e, adapter, calls := [] }
  | .ok () =>
    { result := answers.submitLive, adapter, calls := [.submitLive request] }

def cancel (adapter : IbkrControlledLiveAdapter) (clientOrderId : String)
    (answers : TransportAnswers Snapshot Events) : Outcome Unit :=
  if isCanonicalId clientOrderId = false then
    { result := .error
        ⟨"IBKR live cancel client_order_id must be a non-empty canonical ID"⟩
      adapter
      calls := [] }
  else if adapter.connected = false then
    { result := .error ⟨"IBKR LIVE adapter is disconnected"⟩, adapter
      calls := [] }
  else
    { result := answers.cancelLive, adapter
      calls := [.cancelLive clientOrderId] }

def replace (adapter : IbkrControlledLiveAdapter) (request : LiveBrokerReplaceRequest)
    (answers : TransportAnswers Snapshot Events) : Outcome Unit :=
  if adapter.connected = false ∨ adapter.emergencyStop = true then
    { result := .error ⟨"IBKR LIVE replacement is disabled"⟩, adapter
      calls := [] }
  else
    { result := answers.replaceLive, adapter, calls := [.replaceLive request] }

def poll (adapter : IbkrControlledLiveAdapter)
    (answers : TransportAnswers Snapshot Events) : Outcome Events :=
  if adapter.connected = false then
    { result := .error ⟨"IBKR LIVE adapter is disconnected"⟩, adapter
      calls := [] }
  else { result := answers.pollLive, adapter, calls := [.pollLive] }

def snapshot (adapter : IbkrControlledLiveAdapter) (accountId : String)
    (answers : TransportAnswers Snapshot Events) : Outcome Snapshot :=
  if accountId ≠ adapter.configuration.accountId ∨
      adapter.connected = false then
    { result := .error
        ⟨"IBKR LIVE snapshot account mismatch or disconnected adapter"⟩
      adapter
      calls := [] }
  else
    match answers.liveAccountSnapshot with
    | .error e =>
      { result := .error e, adapter
        calls := [.liveAccountSnapshot accountId false] }
    | .ok found =>
      { result := .ok found
        adapter := { adapter with initialSnapshotObserved := true }
        calls := [.liveAccountSnapshot accountId true] }

def reconnect (adapter : IbkrControlledLiveAdapter) (accountId : String)
    (credential : List UInt8) (answers : TransportAnswers Snapshot Events) :
    Outcome Unit :=
  let disconnected := { adapter with
    connected := false, initialSnapshotObserved := false }
  if adapter.emergencyStop = true then
    { result := .error
        ⟨"IBKR LIVE adapter cannot reconnect after emergency stop"⟩
      adapter := disconnected
      calls := [.disconnectLive] }
  else
    let outcome := disconnected.connect accountId credential answers
    { outcome with calls := .disconnectLive :: outcome.calls }

end IbkrControlledLiveAdapter

/-! ## Sessions -/

inductive LiveOperation where
  | connect (accountId : String) (credential : List UInt8)
  | reconnect (accountId : String) (credential : List UInt8)
  | submit (request : LiveBrokerOrderRequest)
  | replace (request : LiveBrokerReplaceRequest)
  | cancel (clientOrderId : String)
  | poll
  | snapshot (accountId : String)
  | activateEmergencyStop

/-- What happened in a session: connection attempts, the stop, and the calls of
the transport. -/
inductive LiveEvent where
  | attempt
  | stop
  | call (call : TransportCall)

structure LiveSession where
  adapter : IbkrControlledLiveAdapter
  trace : List LiveEvent

namespace LiveSession

variable {Snapshot Events : Type}

def after {α : Type} (session : LiveSession) (marks : List LiveEvent)
    (outcome : Outcome α) : LiveSession where
  adapter := outcome.adapter
  trace := session.trace ++ (marks ++ outcome.calls.map .call)

def perform (session : LiveSession) (operation : LiveOperation)
    (answers : TransportAnswers Snapshot Events) : LiveSession :=
  match operation with
  | .connect accountId credential =>
    session.after [.attempt]
      (session.adapter.connect accountId credential answers)
  | .reconnect accountId credential =>
    session.after [.attempt]
      (session.adapter.reconnect accountId credential answers)
  | .submit request => session.after [] (session.adapter.submit request answers)
  | .replace request =>
    session.after [] (session.adapter.replace request answers)
  | .cancel clientOrderId =>
    session.after [] (session.adapter.cancel clientOrderId answers)
  | .poll => session.after [] (session.adapter.poll answers)
  | .snapshot accountId =>
    session.after [] (session.adapter.snapshot accountId answers)
  | .activateEmergencyStop =>
    session.after [.stop] (session.adapter.activateEmergencyStop answers)

end LiveSession

end Follon.Live
