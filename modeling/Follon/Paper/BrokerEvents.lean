import Follon.Paper.Service

/-!
# Applying broker events to the books

One event changes its order and, for an execution, the portfolio, the tax
lots, the strategy attribution, the cash and the execution identities.  A
failing step leaves the writes before it; undoing them is the caller's part.
-/

namespace Follon.Paper

open Foundation Domain ControlPlane Accounting

abbrev OrderM (α : Type) : Type :=
  Fallible PaperOrder PaperError α

abbrev ComboM (α : Type) : Type :=
  Fallible PaperComboOrder PaperError α

abbrev BooksM (α : Type) : Type :=
  Fallible Books PaperError α

namespace Books

def onOrder {α : Type} (orderId : String) (x : OrderM α) : BooksM α :=
  fun books =>
    match books.orders[orderId]? with
    | some order => ((x.run order).1, books.putOrder orderId (x.final order))
    | none => (.error unknownOrder, books)

def onCombo {α : Type} (orderId : String) (x : ComboM α) : BooksM α :=
  fun books =>
    match books.comboOrders[orderId]? with
    | some order => ((x.run order).1, books.putCombo orderId (x.final order))
    | none => (.error unknownCombo, books)

end Books

/-! ## Plain orders -/

namespace PaperOrder

def move (next : OrderState) (reason : String) : OrderM Unit := do
  let order ← Fallible.read
  let (oms, _) ← lift (order.oms.transition next reason)
  update fun order => { order with oms }

def transitionToAcknowledged (reason : String) : OrderM Unit := do
  let order ← Fallible.read
  match order.oms.state with
  | .pendingSubmit => do
    move .submitted reason
    move .acknowledged reason
  | .submitted | .unknown => move .acknowledged reason
  | .acknowledged | .partiallyFilled | .filled | .pendingCancel
  | .pendingReplace => pure ()
  | _ =>
    Fallible.fail
      ⟨"broker acknowledgement is incompatible with internal OMS state"⟩

def workingState (order : PaperOrder) : OrderState :=
  if order.filledQuantity = Decimal.zero then .acknowledged
  else .partiallyFilled

def restoreWorkingState (reason : String) : OrderM Unit := do
  let order ← Fallible.read
  move order.workingState reason

def restoreReplacementState (reason : String) : OrderM Unit := do
  let order ← Fallible.read
  let state := order.replaceReturnState.getD order.workingState
  update fun order => { order with replaceReturnState := none }
  move state reason

def enterTerminal (terminal : OrderState) (reason : String) : OrderM Unit := do
  let order ← Fallible.read
  match order.oms.state with
  | .pendingSubmit => do
    move .submitted reason
    move terminal reason
  | .submitted | .acknowledged | .partiallyFilled | .pendingCancel
  | .pendingReplace | .unknown => move terminal reason
  -- a repeated or conflicting terminal status never overwrites the first one
  | .filled | .cancelled | .rejected | .expired => pure ()
  | _ =>
    Fallible.fail
      ⟨"broker terminal event is incompatible with OMS state"⟩

def isUnfilledTerminal : OrderState → Bool
  | .cancelled | .rejected | .expired => true
  | _ => false

def transitionToTerminal (terminal : OrderState) (reason : String) : OrderM Unit := do
  enterTerminal terminal reason
  let order ← Fallible.read
  lift (refuseIf (isUnfilledTerminal order.oms.state = true ∧
      order.oms.intent.quantity ≤ order.filledQuantity)
    "non-filled terminal state cannot have cumulative quantity equal to requested quantity")

def noteVersion (order : PaperOrder) (brokerOrderId : String) : PaperOrder :=
  { order with
    brokerOrderId := order.brokerOrderId.or (some brokerOrderId)
    brokerOrderVersions :=
      if brokerOrderId ∈ order.brokerOrderVersions then
        order.brokerOrderVersions
      else
        order.brokerOrderVersions ++ [brokerOrderId] }

def namesOtherVersion (order : PaperOrder) (brokerOrderId : String) : Bool :=
  match order.brokerOrderId with
  | some existing => existing != brokerOrderId
  | none => false

def applyAcknowledged (brokerOrderId : String) : OrderM Unit := do
  let order ← Fallible.read
  if order.namesOtherVersion brokerOrderId = true then
    -- an acknowledgement of an earlier version never rolls the active one back
    lift (refuseIf (brokerOrderId ∉ order.brokerOrderVersions)
      "broker reused client order ID with an unrecognized broker ID")
  else do
    update (·.noteVersion brokerOrderId)
    let order ← Fallible.read
    if order.isTerminal then
      pure ()
    else
      transitionToAcknowledged "IBKR_PAPER_ACKNOWLEDGED_EVENT"

/-- A late execution reopens a terminal order as `UNKNOWN`. -/
def reopenLate (reason : String) : OrderM Unit := do
  let order ← Fallible.read
  if isUnfilledTerminal order.oms.state = true then
    move .unknown reason
  else
    pure ()

def concludeFill (total : Decimal) : OrderM Unit := do
  let order ← Fallible.read
  if total = order.oms.intent.quantity then
    if order.oms.state ≠ .filled then
      move .filled "BROKER_FULL_FILL"
    else
      pure ()
  else if order.oms.state = .acknowledged then
    move .partiallyFilled "BROKER_PARTIAL_FILL"
  else
    pure ()

def fillOf (order : PaperOrder) (execution : BrokerExecution) : Fill where
  executionId := execution.executionId
  orderId := order.oms.orderId
  instrumentId := order.oms.intent.instrumentId
  side := order.oms.intent.side
  quantity := execution.quantity
  price := execution.price
  fee := execution.fee
  executedAt := execution.executedAt

def applyExecution (execution : BrokerExecution) : OrderM (Fill × String) := do
  let order ← Fallible.read
  lift (refuseIf (order.namesOtherVersion execution.brokerOrderId = true ∧
      execution.brokerOrderId ∉ order.brokerOrderVersions)
    "broker execution has an unrecognized broker order version")
  update (·.noteVersion execution.brokerOrderId)
  reopenLate "LATE_BROKER_EXECUTION_AFTER_TERMINAL"
  transitionToAcknowledged "BROKER_EXECUTION_CONFIRMED_ORDER"
  let order ← Fallible.read
  let total ← lift
    (order.filledQuantity.checkedAdd execution.quantity)
  lift (refuseIf (order.oms.intent.quantity < total)
    "broker execution exceeds internal requested quantity")
  update fun order => { order with filledQuantity := total }
  concludeFill total
  let order ← Fallible.read
  pure (order.fillOf execution, order.oms.intent.strategyId)

def applyCancelRejected : OrderM Unit := do
  let order ← Fallible.read
  match order.oms.state with
  | .pendingCancel | .unknown => restoreWorkingState "BROKER_CANCEL_REJECTED"
  | .filled | .cancelled | .rejected | .expired => pure ()
  | _ =>
    Fallible.fail
      ⟨"broker cancel rejection is incompatible with OMS state"⟩

def replacementMismatch : String :=
  "broker replacement does not match active broker order"

def replacementIncompatible : PaperError :=
  ⟨"broker replacement is incompatible with OMS state"⟩

def applyReplaceRequested (previousBrokerOrderId : String) : OrderM Unit := do
  let order ← Fallible.read
  lift (refuseIf (order.brokerOrderId ≠ some previousBrokerOrderId) replacementMismatch)
  match order.oms.state with
  | .acknowledged | .partiallyFilled => do
    update fun order =>
      { order with replaceReturnState := some order.oms.state }
    move .pendingReplace "BROKER_REPLACE_REQUESTED"
  | .pendingReplace | .filled | .cancelled | .rejected | .expired => pure ()
  | _ => Fallible.fail replacementIncompatible

def applyReplaced (previousBrokerOrderId brokerOrderId : String) : OrderM Unit := do
  let order ← Fallible.read
  if order.brokerOrderId ≠ some previousBrokerOrderId then
    lift (refuseIf (brokerOrderId ∉ order.brokerOrderVersions) replacementMismatch)
  else
    match order.oms.state with
    | .pendingReplace | .unknown => do
      update fun order =>
        { order.noteVersion brokerOrderId with
          brokerOrderId := some brokerOrderId }
      restoreReplacementState "BROKER_REPLACED"
    | .filled | .cancelled | .rejected | .expired => pure ()
    | _ => Fallible.fail replacementIncompatible

def applyReplaceRejected : OrderM Unit := do
  let order ← Fallible.read
  match order.oms.state with
  | .pendingReplace | .unknown =>
    restoreReplacementState "BROKER_REPLACE_REJECTED"
  | .filled | .cancelled | .rejected | .expired => pure ()
  | _ =>
    Fallible.fail
      ⟨"broker replacement rejection is incompatible with OMS state"⟩

end PaperOrder

/-! ## Combination orders -/

namespace BrokerComboExecution

def isWhole (units : Decimal) : Bool := units.scaled.tmod Decimal.scale == 0

def inconsistentLeg : String :=
  "combination execution has duplicate identities or inconsistent leg economics"

def validateLegs (intent : ComboIntent) (units : Decimal)
    (instruments ids : List String) : List BrokerComboExecutionLeg → Result Unit
  | [] => pure ()
  | leg :: legs => do
    validateCanonicalId "combo leg execution ID" leg.executionId
    validateUtcTimestamp "combo leg execution time" leg.executedAt
    match intent.legs.find? fun approved =>
        approved.instrumentId == leg.instrumentId with
    | none =>
      .error ⟨"combination execution has an unapproved instrument"⟩
    | some approved => do
      refuseIf (leg.instrumentId ∈ instruments ∨ leg.executionId ∈ ids ∨
          leg.side ≠ approved.side) inconsistentLeg
      let ratio ← Decimal.fromInteger approved.ratio
      let quantity ← units.checkedMul ratio
      refuseIf (leg.quantity ≠ quantity ∨ leg.price ≤ Decimal.zero ∨
          leg.fee < Decimal.zero) inconsistentLeg
      validateLegs intent units (leg.instrumentId :: instruments)
        (leg.executionId :: ids) legs

def validate (execution : BrokerComboExecution) (intent : ComboIntent) : Result Unit := do
  validateCanonicalId "combo execution ID" execution.executionId
  validateCanonicalId "combo client ID" execution.clientOrderId
  validateCanonicalId "combo broker ID" execution.brokerOrderId
  refuseIf (execution.units ≤ Decimal.zero ∨ isWhole execution.units = false ∨
      execution.legs.length ≠ intent.legs.length)
    "combination execution requires whole units and every leg"
  validateLegs intent execution.units [] [execution.executionId] execution.legs

def fills (execution : BrokerComboExecution) : List Fill :=
  execution.legs.map fun leg =>
    { executionId := leg.executionId, orderId := execution.clientOrderId
      instrumentId := leg.instrumentId, side := leg.side
      quantity := leg.quantity, price := leg.price, fee := leg.fee
      executedAt := leg.executedAt }

def sortLegs (execution : BrokerComboExecution) : BrokerComboExecution :=
  { execution with
    legs := execution.legs.insertionSort fun a b =>
      a.instrumentId ≤ b.instrumentId }

end BrokerComboExecution

namespace PaperComboOrder

def move (next : OrderState) (reason : String) : ComboM Unit := do
  let order ← Fallible.read
  let (oms, _) ← lift (order.oms.transition next reason)
  update fun order => { order with oms }

def noteBrokerId (order : PaperComboOrder) (brokerId : String) : PaperComboOrder :=
  { order with
    brokerOrderId := some brokerId
    brokerOrderVersions :=
      if brokerId ∈ order.brokerOrderVersions then order.brokerOrderVersions
      else order.brokerOrderVersions ++ [brokerId] }

def leavePendingSubmit (reason : String) : ComboM Unit := do
  let order ← Fallible.read
  if order.oms.state = .pendingSubmit then
    move .submitted reason
  else
    pure ()

def confirmWorking : ComboM Unit := do
  let order ← Fallible.read
  if order.oms.state = .submitted ∨ order.oms.state = .unknown then
    move order.workingState "COMBO_BROKER_ACKNOWLEDGED"
  else
    pure ()

def acknowledge (brokerId : String) : ComboM Unit := do
  lift (validateCanonicalId "combo broker ID" brokerId)
  let order ← Fallible.read
  lift (refuseIf (order.brokerOrderId ≠ none ∧ order.brokerOrderId ≠ some brokerId)
    "combination evidence has an unrecognized broker ID")
  update (·.noteBrokerId brokerId)
  if order.evidenceError ≠ none ∨ order.isTerminal = true then
    pure ()
  else do
    leavePendingSubmit "COMBO_BROKER_EVIDENCE"
    confirmWorking

def applyCancelRejected (reason : String) : ComboM Unit := do
  let order ← Fallible.read
  if order.evidenceError = none ∧
      (order.oms.state = .pendingCancel ∨ order.oms.state = .unknown) then
    move order.workingState reason
  else
    pure ()

def finishAs (reason : String) (state : OrderState) : ComboM Unit := do
  let order ← Fallible.read
  if order.evidenceError ≠ none ∨ order.isTerminal = true then
    pure ()
  else do
    leavePendingSubmit reason
    move state reason

/-- A late execution reopens a terminal combination as `UNKNOWN`. -/
def reopenLate (reason : String) : ComboM Unit := do
  let order ← Fallible.read
  if PaperOrder.isUnfilledTerminal order.oms.state = true then
    move .unknown reason
  else
    pure ()

def confirmExecution (brokerOrderId : String) : ComboM Unit := do
  reopenLate "LATE_COMBO_EXECUTION_AFTER_TERMINAL"
  acknowledge brokerOrderId

def concludeUnits (total : Decimal) : ComboM Unit := do
  let order ← Fallible.read
  if order.evidenceError ≠ none then
    pure ()
  else if total = order.oms.intent.comboQuantity then
    move .filled "BROKER_COMBO_FULL_FILL"
  else if order.oms.state = .acknowledged then
    move .partiallyFilled "BROKER_COMBO_PARTIAL_FILL"
  else
    pure ()

def recordExecution (total : Decimal) (execution : BrokerComboExecution) :
    ComboM Unit := do
  update fun order => { order with filledQuantity := total }
  concludeUnits total
  update fun order =>
    { order with
      executions := order.executions.insert execution.executionId execution }

end PaperComboOrder

/-! ## Accounting -/

namespace Books

def applyPortfolioFill (config : Configuration) (fill : Fill) : BooksM Unit := do
  let books ← Fallible.read
  let portfolio := books.portfolios[fill.instrumentId]?.getD
    (Portfolio.new config.account.accountId fill.instrumentId)
  update fun books =>
    { books with
      portfolios := books.portfolios.insert fill.instrumentId portfolio }
  let filled ← lift
    (if config.riskPolicy.shortExposure.isSome then
      portfolio.applySignedFill fill
    else
      portfolio.applyFill fill)
  update fun books =>
    { books with
      portfolios := books.portfolios.insert fill.instrumentId filled }

def onTaxLots {α : Type} (x : TaxLotBook.BookM α) : BooksM α :=
  x.zoom (·.taxLots) fun taxLots books => { books with taxLots }

def closeTaxLots (currency : Currency) (fill : Fill)
    (closing closeFee : Decimal) : BooksM Unit :=
  if closing ≤ Decimal.zero then
    pure ()
  else match fill.side with
  | .buy => do
    let _ ← onTaxLots (TaxLotBook.cover ("taxcover-" ++ fill.executionId)
      fill.instrumentId currency closing fill.price closeFee fill.executedAt
      .fifo)
    pure ()
  | .sell => do
    let _ ← onTaxLots (TaxLotBook.dispose
      ("taxdisposal-" ++ fill.executionId) fill.instrumentId currency closing
      fill.price closeFee fill.executedAt .fifo)
    pure ()

def openTaxLot (currency : Currency) (fill : Fill)
    (opening closeFee : Decimal) : BooksM Unit :=
  if opening = Decimal.zero then
    pure ()
  else do
    let openFee ← lift (fill.fee.checkedSub closeFee)
    let gross ← lift (fill.price.checkedMul opening)
    match fill.side with
    | .buy => do
      let cost ← lift (gross.checkedAdd openFee)
      let unitCost ← lift (cost.checkedDiv opening)
      let _ ← onTaxLots (TaxLotBook.acquire
        { lotId := "taxlot-" ++ fill.executionId
          instrumentId := fill.instrumentId
          currency
          openedAt := fill.executedAt
          remainingQuantity := opening
          unitPrice := unitCost })
      pure ()
    | .sell => do
      let proceeds ← lift (gross.checkedSub openFee)
      let unitProceeds ← lift (proceeds.checkedDiv opening)
      let _ ← onTaxLots (TaxLotBook.openShort
        { lotId := "taxshort-" ++ fill.executionId
          instrumentId := fill.instrumentId
          currency
          openedAt := fill.executedAt
          remainingQuantity := opening
          unitPrice := unitProceeds })
      pure ()

/-- Closes opposite inventory first; a crossing fill splits its fee once and
the remainder opens a lot. -/
def applyTaxLotFill (config : Configuration) (fill : Fill) : BooksM Unit := do
  let currency ← lift (Currency.new config.account.currency)
  let books ← Fallible.read
  let available ← lift
    (match fill.side with
    | .buy => openQuantity (books.taxLots.shortLots fill.instrumentId)
    | .sell => openQuantity (books.taxLots.lots fill.instrumentId))
  let closing := available.min fill.quantity
  let opening ← lift (fill.quantity.checkedSub closing)
  let closeFee ← lift (fill.feeShare closing)
  closeTaxLots currency fill closing closeFee
  openTaxLot currency fill opening closeFee

def applyStrategyAttributionFill (fill : Fill) (strategyId : String) : BooksM Unit := do
  let books ← Fallible.read
  let attribution := books.strategyAttribution[fill.instrumentId]?.getD ∅
  update fun books =>
    { books with
      strategyAttribution :=
        books.strategyAttribution.insert fill.instrumentId attribution }
  let current := attribution[strategyId]?.getD Decimal.zero
  let updated ← lift
    (match fill.side with
    | .buy => current.checkedAdd fill.quantity
    | .sell => current.checkedSub fill.quantity)
  update fun books =>
    { books with
      strategyAttribution :=
        books.strategyAttribution.insert fill.instrumentId
          (attribution.insert strategyId updated) }

def settle (cash : Decimal) (fill : Fill) : Result Decimal := do
  let gross ← fill.price.checkedMul fill.quantity
  match fill.side with
  | .buy => do
    let paid ← gross.checkedAdd fill.fee
    cash.checkedSub paid
  | .sell => do
    let received ← gross.checkedSub fill.fee
    cash.checkedAdd received

def applyAccountedFill (config : Configuration) (fill : Fill)
    (strategyId : String) : BooksM Unit := do
  applyPortfolioFill config fill
  applyTaxLotFill config fill
  applyStrategyAttributionFill fill strategyId
  let books ← Fallible.read
  let cash ← lift (settle books.cash fill)
  update fun books =>
    { books with
      cash
      executionIds := books.executionIds.insert fill.executionId }

def applyFills (config : Configuration) (strategyId : String) : List Fill → BooksM Unit
  | [] => pure ()
  | fill :: fills => do
    applyAccountedFill config fill strategyId
    applyFills config strategyId fills

/-! ## Events -/

def applyExecution (config : Configuration) (execution : BrokerExecution) :
    BooksM Unit := do
  lift
    (validateCanonicalId "broker execution_id" execution.executionId)
  lift
    (validateCanonicalId "broker client_order_id" execution.clientOrderId)
  lift (validateCanonicalId "broker order_id" execution.brokerOrderId)
  lift
    (validateUtcTimestamp "broker execution time" execution.executedAt)
  lift (refuseIf (execution.quantity ≤ Decimal.zero ∨ execution.price ≤ Decimal.zero ∨
      execution.fee < Decimal.zero)
    "invalid broker execution values")
  let books ← Fallible.read
  if execution.executionId ∈ books.executionIds then
    pure ()
  else do
    let (fill, strategyId) ← onOrder execution.clientOrderId
      (PaperOrder.applyExecution execution)
    update fun books =>
      { books with
        executionIds := books.executionIds.insert execution.executionId }
    applyAccountedFill config fill strategyId

def applyPlainEvent (config : Configuration) : BrokerEvent → BooksM Unit
  | .comboExecution _ =>
    Fallible.fail ⟨"combo execution does not name a combination"⟩
  | .acknowledged clientOrderId brokerOrderId => do
    lift
      (validateCanonicalId "broker client_order_id" clientOrderId)
    lift (validateCanonicalId "broker order_id" brokerOrderId)
    onOrder clientOrderId (PaperOrder.applyAcknowledged brokerOrderId)
  | .execution execution => applyExecution config execution
  | .cancelled clientOrderId reason => do
    lift
      (validateCanonicalId "broker client_order_id" clientOrderId)
    lift
      (validateBrokerReason "broker cancellation reason" reason)
    onOrder clientOrderId
      (PaperOrder.transitionToTerminal .cancelled reason)
  | .cancelRejected clientOrderId reason => do
    lift
      (validateCanonicalId "broker client_order_id" clientOrderId)
    lift
      (validateBrokerReason "broker cancel rejection reason" reason)
    onOrder clientOrderId PaperOrder.applyCancelRejected
  | .expired clientOrderId reason => do
    lift
      (validateCanonicalId "broker client_order_id" clientOrderId)
    lift (validateBrokerReason "broker expiry reason" reason)
    onOrder clientOrderId (PaperOrder.transitionToTerminal .expired reason)
  | .replaceRequested clientOrderId previousBrokerOrderId => do
    lift
      (validateCanonicalId "broker client_order_id" clientOrderId)
    lift
      (validateCanonicalId "broker previous_order_id" previousBrokerOrderId)
    onOrder clientOrderId
      (PaperOrder.applyReplaceRequested previousBrokerOrderId)
  | .replaced clientOrderId previousBrokerOrderId brokerOrderId => do
    lift
      (validateCanonicalId "broker client_order_id" clientOrderId)
    lift
      (validateCanonicalId "broker previous_order_id" previousBrokerOrderId)
    lift
      (validateCanonicalId "broker replacement_order_id" brokerOrderId)
    onOrder clientOrderId
      (PaperOrder.applyReplaced previousBrokerOrderId brokerOrderId)
  | .replaceRejected clientOrderId reason => do
    lift
      (validateCanonicalId "broker client_order_id" clientOrderId)
    lift
      (validateBrokerReason "broker replacement rejection reason" reason)
    onOrder clientOrderId PaperOrder.applyReplaceRejected
  | .rejected clientOrderId reason => do
    lift
      (validateCanonicalId "broker client_order_id" clientOrderId)
    lift (validateBrokerReason "broker rejection reason" reason)
    onOrder clientOrderId (PaperOrder.transitionToTerminal .rejected reason)

def overlapsApplied (books : Books) (execution : BrokerComboExecution) : Bool :=
  books.executionIds.contains execution.executionId ||
    execution.legs.any fun leg => books.executionIds.contains leg.executionId

def applyComboExecution (config : Configuration) (id : String)
    (execution : BrokerComboExecution) : BooksM Unit := do
  let books ← Fallible.read
  match books.comboOrders[id]? with
  | none => Fallible.fail ⟨"paper OMS does not know combination"⟩
  | some order => do
    lift (execution.validate order.oms.intent)
    match order.executions[execution.executionId]? with
    | some previous =>
      lift (refuseIf (previous ≠ execution)
        "combination execution identity reused with changed evidence")
    | none => do
      lift (refuseIf (books.overlapsApplied execution = true)
        "combination execution overlaps previously applied evidence")
      let total ← lift
        (order.filledQuantity.checkedAdd execution.units)
      lift (refuseIf (order.oms.intent.comboQuantity < total)
        "combination execution exceeds approved units")
      onCombo id
        (PaperComboOrder.confirmExecution execution.brokerOrderId)
      applyFills config order.oms.intent.strategyId execution.fills
      update fun books =>
        { books with
          executionIds := books.executionIds.insert execution.executionId }
      onCombo id (PaperComboOrder.recordExecution total execution)

def finishComboAs (id reason : String) (state : OrderState) : BooksM Unit := do
  lift (validateBrokerReason "combo terminal reason" reason)
  onCombo id (PaperComboOrder.finishAs reason state)

def applyComboEvent (config : Configuration) (event : BrokerEvent) : BooksM Unit := do
  let id := event.clientOrderId
  lift (validateCanonicalId "combo client ID" id)
  match event with
  | .comboExecution execution =>
    applyComboExecution config id execution.sortLegs
  | .acknowledged _ brokerOrderId =>
    onCombo id (PaperComboOrder.acknowledge brokerOrderId)
  | .cancelRejected _ reason => do
    lift (validateBrokerReason "combo cancel rejection" reason)
    onCombo id (PaperComboOrder.applyCancelRejected reason)
  | .cancelled _ reason => finishComboAs id reason .cancelled
  | .expired _ reason => finishComboAs id reason .expired
  | .rejected _ reason => finishComboAs id reason .rejected
  | _ =>
    Fallible.fail
      ⟨"combination requires complete atomic execution evidence; replacement is unsupported"⟩

def applyBrokerEvent (config : Configuration) (event : BrokerEvent) : BooksM Unit := do
  let books ← Fallible.read
  if event.clientOrderId ∈ books.comboOrders then
    applyComboEvent config event
  else
    applyPlainEvent config event

end Books

end Follon.Paper
