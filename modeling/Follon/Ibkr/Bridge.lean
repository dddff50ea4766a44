import Follon.Domain.Identity
import Follon.Foundation.PythonValues

/-!
# The IBKR bridge

What the bridge process keeps of orders, executions and the account, and how
each callback of IBKR's client changes it.  Numbers of a callback are given by
the text `str` has for them.
-/

namespace Follon.Ibkr

open Foundation Domain

/-! ## Configuration -/

structure InstrumentContract where
  conId : Int
  (symbol securityType exchange primaryExchange currency : String)
  deriving DecidableEq

/-- What the process is started with.  `instantText` is the UTC text of a day,
a time of day and a zone, where there is one. -/
structure BridgeConfiguration where
  (accountId brokerAccount accountCurrency : String)
  clientId : Int
  twsTimezone : String
  instruments : List (String × InstrumentContract)
  instantText : String → String → String → Option String

def BridgeConfiguration.instrumentByConId (config : BridgeConfiguration)
    (conId : Int) : Option String :=
  (config.instruments.reverse.find? (·.2.conId = conId)).map (·.1)

/-! ## Numbers -/

/-- What a `safe_` reading comes to. -/
inductive Safe where
  | value (value : PythonDecimal)
  | refused
  | raises

namespace Safe

def toOption : Safe → Option PythonDecimal
  | .value parsed => some parsed
  | _ => none

def filter (keep : PythonDecimal → Bool) : Safe → Safe
  | .value parsed => if keep parsed = true then .value parsed else .refused
  | other => other

end Safe

/-- The exponent of the first digit after rounding to 28 digits. -/
def roundedAdjusted (d : PythonDecimal) : Int :=
  let next := (d.digits.drop 28).head?
  if d.digits.take 28 = List.replicate 28 '9' ∧ '5' ≤ next.getD '0' then
    d.adjusted + 1
  else d.adjusted

/-- `abs(parsed) > Decimal("1000000000")`: the absolute value is rounded to 28
digits, half to even. -/
def exceedsLimit (d : PythonDecimal) : Bool :=
  if 0 ≤ d.exponent then
    1000000000 < d.coefficient * 10 ^ d.exponent.toNat
  else
    (2 * 10 ^ 27 + 1) * 10 ^ d.exponent.natAbs < 2 * 10 ^ 18 * d.coefficient

def safeDecimal (value : String) : Safe :=
  match PythonNumber.ofText value with
  | some (.finite parsed) =>
    if parsed.coefficient ≠ 0 ∧ 999999 < roundedAdjusted parsed then .raises
    else if exceedsLimit parsed = true then .refused
    else .value parsed
  | _ => .refused

def safeNonnegativeDecimal (value : String) : Safe :=
  (safeDecimal value).filter PythonDecimal.isNonnegative

def safePositiveDecimal (value : String) : Safe :=
  (safeDecimal value).filter PythonDecimal.isPositive

def isAboveZero : PythonNumber → Option Bool
  | .finite value => some value.isPositive
  | .infinity negative => some (!negative)
  | .quietNan => none
  | .signalingNan => none

def isZero : PythonNumber → Option Bool
  | .finite value => some (value.coefficient == 0)
  | .infinity _ => some false
  | .quietNan => some false
  | .signalingNan => none

/-! ## Order states -/

inductive BridgeState where
  | pendingSubmit
  | acknowledged
  | partiallyFilled
  | filled
  | pendingCancel
  | cancelled
  | rejected
  | unknown
  deriving DecidableEq

namespace BridgeState

def text : BridgeState → String
  | .pendingSubmit => "PENDING_SUBMIT"
  | .acknowledged => "ACKNOWLEDGED"
  | .partiallyFilled => "PARTIALLY_FILLED"
  | .filled => "FILLED"
  | .pendingCancel => "PENDING_CANCEL"
  | .cancelled => "CANCELLED"
  | .rejected => "REJECTED"
  | .unknown => "UNKNOWN"

def isTerminal : BridgeState → Bool
  | .cancelled => true
  | .filled => true
  | .rejected => true
  | _ => false

def ofStatus (status : String) : BridgeState :=
  if status = "PendingSubmit" then .pendingSubmit
  else if status = "PreSubmitted" then .acknowledged
  else if status = "Submitted" then .acknowledged
  else if status = "PendingCancel" then .pendingCancel
  else if status = "ApiCancelled" then .cancelled
  else if status = "Cancelled" then .cancelled
  else if status = "Inactive" then .rejected
  else .unknown

end BridgeState

def readQuantities (filled remaining : String) : PythonNumber × PythonNumber :=
  match PythonNumber.ofText filled, PythonNumber.ofText remaining with
  | some filledValue, some remainingValue => (filledValue, remainingValue)
  | _, _ => (.finite ⟨false, 0, 0⟩, .finite ⟨false, 0, 0⟩)

def normalizeOrderState (status filled remaining : String) : Option BridgeState := do
  let (filledValue, remainingValue) := readQuantities filled remaining
  if status = "Filled" then some .filled
  else if (← isAboveZero filledValue) = true then
    if (← isZero remainingValue) = true then some .filled
    else some .partiallyFilled
  else some (.ofStatus status)

/-! ## Identifiers and times -/

/-- The character `str.lower` and the rewriting of other characters leave. -/
def executionIdChars (c : Char) : List Char :=
  if c = Char.ofNat 0x130 then ['i', '-']
  else if c = Char.ofNat 0x212a then ['k']
  else
    let lower := lowerAscii c
    if ('a' ≤ lower && lower ≤ 'z') || isAsciiDigit lower || lower == '_' then
      [lower]
    else ['-']

def canonicalExecutionId (executionId : String) : String :=
  "ibkr-paper-execution-" ++ String.ofList (executionId.toList.flatMap executionIdChars)

def brokerOrderIdOf (orderId : Int) : String := "ibkr-paper-order-" ++ toString orderId

def hasUtcShape (value : String) : Bool :=
  let digit c := (unicodeDigit c).isSome
  match value.toList with
  | [y1, y2, y3, y4, '-', m1, m2, '-', d1, d2, 'T', h1, h2, ':', n1, n2, ':',
      s1, s2, 'Z'] =>
      [y1, y2, y3, y4, m1, m2, d1, d2, h1, h2, n1, n2, s1, s2].all digit
  | _ => false

def replaceDash : List Char → List Char
  | [] => []
  | c :: rest => if c = '-' then ' ' :: rest else c :: replaceDash rest

def splitPython (current : List Char) : List Char → List String
  | [] => if current = [] then [] else [String.ofList current]
  | c :: rest =>
    if isPythonSpace c = true then
      if current = [] then splitPython [] rest
      else String.ofList current :: splitPython [] rest
    else splitPython (current ++ [c]) rest

def normalizeExecutionTime (config : BridgeConfiguration) (value : String) :
    Option String := do
  let normalized ←
    match splitPython [] (replaceDash (stripPython value.toList)) with
    | day :: clock :: zone :: _ => config.instantText day clock zone
    | [day, clock] => config.instantText day clock config.twsTimezone
    | _ => none
  if hasUtcShape normalized = true then some normalized else none

/-! ## The state of the bridge -/

inductive BridgeEvent where
  | acknowledged (clientOrderId brokerOrderId : String)
  | execution (executionId clientOrderId brokerOrderId quantity price fee
      executedAt : String)
  | cancelled (clientOrderId reason : String)
  | cancelRejected (clientOrderId reason : String)
  | rejected (clientOrderId reason : String)
  deriving DecidableEq

structure EventQueue where
  (taken waiting : List BridgeEvent)

namespace EventQueue

def put (queue : EventQueue) (event : BridgeEvent) : EventQueue :=
  { queue with waiting := queue.waiting ++ [event] }

def drain (queue : EventQueue) : EventQueue where
  taken := queue.taken ++ queue.waiting
  waiting := []

def all (queue : EventQueue) : List BridgeEvent := queue.taken ++ queue.waiting

@[simp] theorem all_put (queue : EventQueue) (event : BridgeEvent) :
    (queue.put event).all = queue.all ++ [event] := by
  simp [all, put]

@[simp] theorem all_drain (queue : EventQueue) : queue.drain.all = queue.all := by
  simp [all, drain]

end EventQueue

structure OrderRow where
  (clientOrderId brokerOrderId : String)
  state : BridgeState
  filledQuantity : String

structure Execution where
  (execId acctNumber : String)
  (clientId orderId : Int)
  (orderRef shares cumQty price time : String)

structure App where
  connectedReady : Bool
  managedAccounts : List String
  nextOrderId : Option Int
  clientByOrder : OrderedMap Int String
  orderByClient : OrderedMap String Int
  orders : OrderedMap String OrderRow
  positions : OrderedMap String String
  cash : Option String
  events : EventQueue
  executionData : OrderedMap String (Int × Execution)
  commissions : OrderedMap String String
  (emittedExecutions cancelRequested : List String)
  (openOrdersDone positionsDone accountSummaryDone executionsDone : Bool)
  completedOrdersDone : Bool
  (activeExecutionRequest activeAccountSummaryRequest : Option Int)
  executionIdsByRequest : OrderedMap Int (List String)

namespace App

def new : App where
  connectedReady := false
  managedAccounts := []
  nextOrderId := none
  clientByOrder := ∅
  orderByClient := ∅
  orders := ∅
  positions := ∅
  cash := none
  events := ⟨[], []⟩
  executionData := ∅
  commissions := ∅
  emittedExecutions := []
  cancelRequested := []
  openOrdersDone := false
  positionsDone := false
  accountSummaryDone := false
  executionsDone := false
  completedOrdersDone := false
  activeExecutionRequest := none
  activeAccountSummaryRequest := none
  executionIdsByRequest := ∅

def put (app : App) (event : BridgeEvent) : App :=
  { app with events := app.events.put event }

def mapOrder (app : App) (orderId : Int) (clientOrderId : String) : App :=
  { app with
    clientByOrder := app.clientByOrder.insert orderId clientOrderId
    orderByClient := app.orderByClient.insert clientOrderId orderId }

def stateOf (app : App) (clientOrderId : String) : Option BridgeState :=
  app.orders[clientOrderId]?.map (·.state)

def filledOf (app : App) (clientOrderId : String) : String :=
  (app.orders[clientOrderId]?.map (·.filledQuantity)).getD "0"

def setOrder (app : App) (clientOrderId : String) (orderId : Int)
    (state : BridgeState) (filledQuantity : String) : App :=
  { app with
    orders := app.orders.insert clientOrderId
      { clientOrderId, brokerOrderId := brokerOrderIdOf orderId, state, filledQuantity } }

end App

/-! ## Callbacks about orders -/

structure OrderReport where
  (account orderRef : String)
  (clientId permId orderId : Int)

def OrderReport.isOwned (config : BridgeConfiguration) (order : OrderReport) : Bool :=
  order.clientId = config.clientId && isCanonicalId order.orderRef

def foreignOrderId (orderId : Int) (order : OrderReport) : String :=
  "unmapped-ibkr-order-" ++
    if 0 < order.permId then toString order.permId
    else toString order.clientId ++ "-" ++ toString orderId

namespace App

def raiseNextOrderId (orderId : Int) (app : App) : App :=
  if 0 ≤ orderId then
    { app with nextOrderId := app.nextOrderId.map (max · (orderId + 1)) }
  else app

def recordOpen (orderId : Int) (clientOrderId status : String) (app : App) : App :=
  match normalizeOrderState status "0" "0" with
  | some state =>
    app.setOrder clientOrderId orderId state (app.filledOf clientOrderId)
  | none => app

def openOrder (config : BridgeConfiguration) (orderId : Int)
    (order : OrderReport) (status : String) (app : App) : App :=
  let app := app.raiseNextOrderId orderId
  if order.account ≠ config.brokerAccount then app
  else if order.isOwned config = true then
    (app.mapOrder orderId order.orderRef).recordOpen orderId order.orderRef
      status
  else app.recordOpen orderId (foreignOrderId orderId order) status

def completedOrderId (order : OrderReport) : Int :=
  if order.orderId ≠ 0 then order.orderId else order.permId

def completedOrder (config : BridgeConfiguration) (order : OrderReport)
    (status : String) (app : App) : App :=
  if 0 < completedOrderId order then
    app.openOrder config (completedOrderId order) order status
  else app

def isWorking (state : BridgeState) : Bool :=
  state = .acknowledged || state = .partiallyFilled

def announce (clientOrderId : String) (orderId : Int)
    (previous : Option BridgeState) (normalized : BridgeState) (app : App) : App :=
  if isWorking normalized = true ∧ previous ≠ some .acknowledged ∧
      previous ≠ some .partiallyFilled ∧ previous ≠ some .filled then
    app.put (.acknowledged clientOrderId (brokerOrderIdOf orderId))
  else if normalized = .cancelled ∧ previous ≠ some .cancelled then
    app.put (.cancelled clientOrderId "IBKR_PAPER_CANCELLED")
  else if normalized = .rejected ∧ previous ≠ some .rejected then
    app.put (.rejected clientOrderId "IBKR_PAPER_REJECTED")
  else app

def discardCancel (clientOrderId : String) (app : App) : App :=
  { app with
    cancelRequested := app.cancelRequested.filter (· ≠ clientOrderId) }

def changeState (clientOrderId : String) (orderId : Int)
    (normalized : BridgeState) (filled : String) (app : App) : App :=
  let previous := app.stateOf clientOrderId
  if previous.any BridgeState.isTerminal = true ∧
      previous ≠ some normalized then
    app
  else
    (app.setOrder clientOrderId orderId normalized filled).announce
      clientOrderId orderId previous normalized

def orderStatus (config : BridgeConfiguration) (orderId : Int)
    (status filled remaining : String) (clientId : Int) (app : App) : App :=
  if clientId ≠ config.clientId then app
  else
    match app.clientByOrder[orderId]? with
    | none => app
    | some clientOrderId =>
      match normalizeOrderState status filled remaining with
      | none => app
      | some normalized =>
        let app :=
          if normalized.isTerminal = true then
            app.discardCancel clientOrderId
          else app
        app.changeState clientOrderId orderId normalized filled

inductive ErrorDetail where
  | number (value : Int)
  | text (value : String)

def errorCodeOf : List ErrorDetail → Int
  | .number _ :: .number code :: _ :: _ => code
  | .number code :: _ => code
  | _ => -1

def isNotice (code : Int) : Bool :=
  code ∈ [131, 202, 399, 404] || (2100 ≤ code && code < 2170)

def isCancelFailure (code : Int) : Bool := code ∈ [135, 136, 161, 10147, 10148]

def errorReason (code : Int) : String := "IBKR_ERROR_" ++ toString code

def failCancel (clientOrderId : String) (code : Int) (app : App) : App :=
  if clientOrderId ∈ app.cancelRequested then
    (app.discardCancel clientOrderId).put
      (.cancelRejected clientOrderId (errorReason code))
  else app

def rejectOrder (clientOrderId : String) (reqId code : Int) (app : App) : App :=
  if ((app.stateOf clientOrderId).any BridgeState.isTerminal) = true then app
  else
    (app.setOrder clientOrderId reqId .rejected (app.filledOf clientOrderId)).put
        (.rejected clientOrderId (errorReason code))

def error (reqId : Int) (details : List ErrorDetail) (app : App) : App :=
  let code := errorCodeOf details
  if code = 1100 ∨ code = 2110 then { app with connectedReady := false }
  else if code = 1101 ∨ code = 1102 then { app with connectedReady := true }
  else if isNotice code = true then app
  else
    match app.clientByOrder[reqId]? with
    | none => app
    | some clientOrderId =>
      if isCancelFailure code = true then app.failCancel clientOrderId code
      else app.rejectOrder clientOrderId reqId code

/-! ## Callbacks about executions -/

/-- `orderRef`, or what the bridge knows of the order where it is empty. -/
def orderReference (app : App) (execution : Execution) : String :=
  if execution.orderRef ≠ "" then execution.orderRef
  else app.clientByOrder[execution.orderId]?.getD ""

/-- The event of an execution whose two reports are there, if all of it is
accepted. -/
def executionEvent (config : BridgeConfiguration) (executionId : String)
    (conId : Int) (execution : Execution) (commission clientOrderId : String) :
    Option BridgeEvent := do
  if isCanonicalId clientOrderId = false then none
  let _ ← config.instrumentByConId conId
  let fee ← (safeDecimal commission).toOption
  let quantity ← (safePositiveDecimal execution.shares).toOption
  let price ← (safePositiveDecimal execution.price).toOption
  let executedAt ← normalizeExecutionTime config execution.time
  some (.execution (canonicalExecutionId executionId) clientOrderId
    (brokerOrderIdOf execution.orderId) quantity.plain price.plain fee.plain
    executedAt)

def emitExecutionIfComplete (config : BridgeConfiguration)
    (executionId : String) (app : App) : App :=
  if executionId ∈ app.emittedExecutions then app
  else
    match app.executionData[executionId]?, app.commissions[executionId]? with
    | some (conId, execution), some commission =>
      match executionEvent config executionId conId execution commission
          (app.orderReference execution) with
      | some event =>
        { app with
          emittedExecutions := app.emittedExecutions ++ [executionId]
          events := app.events.put event }
      | none => app
    | _, _ => app

def keepExecution (reqId conId : Int) (execution : Execution) (app : App) : App :=
  { app with
    executionData :=
      app.executionData.insert execution.execId (conId, execution)
    executionIdsByRequest := app.executionIdsByRequest.insert reqId
      (execution.execId :: app.executionIdsByRequest[reqId]?.getD []) }

def recordCumulative (clientOrderId : String) (orderId : Int)
    (cumulative : PythonDecimal) (app : App) : App :=
  let existing := (app.stateOf clientOrderId).getD .unknown
  let state :=
    if existing.isTerminal = false ∧ cumulative.isPositive = true then
      .partiallyFilled
    else existing
  app.setOrder clientOrderId orderId state cumulative.plain

def execDetails (config : BridgeConfiguration) (reqId conId : Int)
    (execution : Execution) (app : App) : App :=
  if execution.acctNumber ≠ config.brokerAccount ∨
      execution.clientId ≠ config.clientId then app
  else
    let app := app.keepExecution reqId conId execution
    let clientOrderId := app.orderReference execution
    if isCanonicalId clientOrderId = true then
      let app := app.mapOrder execution.orderId clientOrderId
      match safeNonnegativeDecimal execution.cumQty with
      | .raises => app
      | .refused => app.emitExecutionIfComplete config execution.execId
      | .value cumulative =>
        (app.recordCumulative clientOrderId execution.orderId
          cumulative).emitExecutionIfComplete config execution.execId
    else app.emitExecutionIfComplete config execution.execId

def commissionReport (config : BridgeConfiguration)
    (execId commission : String) (app : App) : App :=
  let app := { app with commissions := app.commissions.insert execId commission }
  app.emitExecutionIfComplete config execId

/-! ## Callbacks about the account and the connection -/

def position (config : BridgeConfiguration) (account : String) (conId : Int)
    (held : String) (app : App) : App :=
  if account ≠ config.brokerAccount then app
  else
    let instrumentId := (config.instrumentByConId conId).getD
      ("unmapped-ibkr-conid-" ++ toString conId)
    { app with positions := app.positions.insert instrumentId held }

def accountSummary (config : BridgeConfiguration) (reqId : Int)
    (account tag value currency : String) (app : App) : App :=
  if app.activeAccountSummaryRequest = some reqId ∧
      account = config.brokerAccount ∧ tag = "TotalCashValue" ∧
      currency = config.accountCurrency then
    { app with cash := some value }
  else app

def nextValidId (orderId : Int) (app : App) : App :=
  { app with nextOrderId := some orderId, connectedReady := true }

def manageAccounts (accountsList : String) (app : App) : App :=
  { app with
    managedAccounts :=
      (splitAtChar ',' accountsList.toList []).filter (· ≠ "") }

end App

/-- What an error callback is about, which the bridge is not told: the number
it carries is the number of an order or of a request. -/
inductive ErrorSubject where
  | order
  | request
  | system
  deriving DecidableEq

inductive Callback where
  | nextValidId (orderId : Int)
  | managedAccounts (accountsList : String)
  | connectionClosed
  | openOrder (orderId : Int) (order : OrderReport) (status : String)
  | orderStatus (orderId : Int) (status filled remaining : String)
      (clientId : Int)
  | completedOrder (order : OrderReport) (status : String)
  | completedOrdersEnd
  | openOrderEnd
  | position (account : String) (conId : Int) (held : String)
  | positionEnd
  | accountSummary (reqId : Int) (account tag value currency : String)
  | accountSummaryEnd (reqId : Int)
  | execDetails (reqId conId : Int) (execution : Execution)
  | execDetailsEnd (reqId : Int)
  | commissionReport (execId commission : String)
  | error (subject : ErrorSubject) (reqId : Int)
      (details : List App.ErrorDetail)

def Callback.apply (config : BridgeConfiguration) (app : App) : Callback → App
  | .nextValidId orderId => app.nextValidId orderId
  | .managedAccounts accountsList => app.manageAccounts accountsList
  | .connectionClosed => { app with connectedReady := false }
  | .openOrder orderId order status => app.openOrder config orderId order status
  | .orderStatus orderId status filled remaining clientId =>
    app.orderStatus config orderId status filled remaining clientId
  | .completedOrder order status => app.completedOrder config order status
  | .completedOrdersEnd => { app with completedOrdersDone := true }
  | .openOrderEnd => { app with openOrdersDone := true }
  | .position account conId held => app.position config account conId held
  | .positionEnd => { app with positionsDone := true }
  | .accountSummary reqId account tag value currency =>
    app.accountSummary config reqId account tag value currency
  | .accountSummaryEnd reqId =>
    if app.activeAccountSummaryRequest = some reqId then
      { app with accountSummaryDone := true }
    else app
  | .execDetails reqId conId execution =>
    app.execDetails config reqId conId execution
  | .execDetailsEnd reqId =>
    if app.activeExecutionRequest = some reqId then
      { app with executionsDone := true }
    else app
  | .commissionReport execId commission =>
    app.commissionReport config execId commission
  | .error _ reqId details => app.error reqId details

end Follon.Ibkr

/-!
## Execution identifiers

The identifier an execution event carries is a rewriting of IBKR's own.  Two
identifiers are rewritten alike when they differ only in the case of letters
and in which marks they hold that are no letter, digit or underscore.
-/

namespace Follon.Ibkr

open Foundation Domain

def spelled (c : Char) : List Char :=
  if c = Char.ofNat 0x130 then ['i', '.']
  else if c = Char.ofNat 0x212a then ['k']
  else [c]

def isMark (c : Char) : Bool :=
  let lower := lowerAscii c
  !(('a' ≤ lower && lower ≤ 'z') || isAsciiDigit lower || lower == '_')

def SameMark (c d : Char) : Prop :=
  lowerAscii c = lowerAscii d ∨ isMark c = true ∧ isMark d = true

instance (c d : Char) : Decidable (SameMark c d) := inferInstanceAs (Decidable (_ ∨ _))

def Confusable (a b : String) : Prop :=
  List.Forall₂ SameMark (a.toList.flatMap spelled) (b.toList.flatMap spelled)

def dashMark (c : Char) : Char :=
  if isMark c = true then '-' else lowerAscii c

theorem dashMark_eq_iff {c d : Char} : dashMark c = dashMark d ↔ SameMark c d := by
  have hdash : isMark '-' = true := by decide
  have hlower : ∀ e, isMark e = false → lowerAscii e ≠ '-' := by
    intro e he heq
    unfold isMark at he
    rw [heq] at he
    revert he
    decide
  have hsame : lowerAscii c = lowerAscii d → isMark c = isMark d := by
    intro heq
    unfold isMark
    rw [heq]
  unfold dashMark SameMark
  cases hc : isMark c <;> cases hd : isMark d
  · simp
  · simp only [Bool.false_eq_true, if_false, if_true, false_and, or_false]
    constructor
    · intro heq
      exact absurd heq (hlower c hc)
    · intro heq
      rw [hsame heq, hd] at hc
      exact Bool.noConfusion hc
  · simp only [Bool.false_eq_true, if_false, if_true, and_false, or_false]
    constructor
    · intro heq
      exact absurd heq.symm (hlower d hd)
    · intro heq
      rw [hsame heq, hd] at hc
      exact Bool.noConfusion hc
  · simp

theorem executionIdChars_eq (c : Char) :
    executionIdChars c = (spelled c).map dashMark := by
  unfold executionIdChars spelled
  split
  · decide
  · split
    · decide
    · rw [map_cons, map_nil]
      dsimp only
      split
      · next hplain =>
          have hmark : isMark c = false := by
            rw [isMark, hplain, Bool.not_true]
          rw [dashMark, hmark, if_neg Bool.false_ne_true]
      · next hplain =>
          rw [not_eq_true] at hplain
          have hmark : isMark c = true := by
            rw [isMark, hplain, Bool.not_false]
          rw [dashMark, hmark, if_pos rfl]

theorem canonicalExecutionId_eq_iff {a b : String} :
    canonicalExecutionId a = canonicalExecutionId b ↔ Confusable a b := by
  have hchars : ∀ text : String,
      text.toList.flatMap executionIdChars
        = (text.toList.flatMap spelled).map dashMark := by
    intro text
    rw [List.map_flatMap]
    exact List.flatMap_congr fun c _ => executionIdChars_eq c
  unfold canonicalExecutionId Confusable
  rw [String.append_right_inj, String.ofList_inj, hchars, hchars,
    ← List.forall₂_eq_eq_eq, List.forall₂_map_left_iff, List.forall₂_map_right_iff]
  simp only [dashMark_eq_iff]

end Follon.Ibkr
