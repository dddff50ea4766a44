import Follon.Paper.Records

/-!
# The paper trading service

The service's state, grouped by the books, the running values of the risk
gate, the evidence, the operator controls and the reconciliation record, with
the durable journal it appends to.

`effects` is a ghost: it lists, in order, the snapshots that reached the
journal and the commands sent to the broker.  No method reads it.
-/

namespace Follon.Paper

open Foundation Domain ControlPlane Accounting

/-! ## Journal -/

/-- What the file does with one append.  After `lost` nothing was written,
after `kept` the whole line was although the call failed, and after `torn` a
part of it was. -/
inductive WriteOutcome where
  | written
  | lost
  | kept
  | torn
  deriving DecidableEq

/-- An append-only journal of complete snapshots, oldest first, with the
outcomes of the appends to come; an empty list means they all succeed. -/
structure FilePaperJournal where
  records : List PersistentPaperState
  torn : Bool
  outcomes : List WriteOutcome

namespace FilePaperJournal

def empty : FilePaperJournal := ⟨[], false, []⟩

def latest (journal : FilePaperJournal) : Option PersistentPaperState :=
  journal.records.getLast?

def outcome (journal : FilePaperJournal) : WriteOutcome := journal.outcomes.headD .written

def writeFailure : PaperError := ⟨"paper journal write failed"⟩

def append (journal : FilePaperJournal) (state : PersistentPaperState) :
    Result Unit × FilePaperJournal :=
  match journal.outcome with
  | .written =>
    (.ok (), { journal with
      records := journal.records ++ [state]
      outcomes := journal.outcomes.tail })
  | .lost =>
    (.error writeFailure, { journal with outcomes := journal.outcomes.tail })
  | .kept =>
    (.error writeFailure, { journal with
      records := journal.records ++ [state]
      outcomes := journal.outcomes.tail })
  | .torn =>
    (.error writeFailure, { journal with
      torn := true, outcomes := journal.outcomes.tail })

def acceptsWrites (journal : FilePaperJournal) : Prop :=
  ∀ outcome ∈ journal.outcomes, outcome = .written

end FilePaperJournal

/-! ## Effects -/

inductive BrokerCommand where
  | submit (request : BrokerOrderRequest)
  | submitCombo (request : BrokerComboRequest)
  | cancel (request : BrokerCancelRequest)
  | replace (request : BrokerReplaceRequest)
  deriving DecidableEq

inductive Effect where
  | journaled (state : PersistentPaperState)
  | commanded (command : BrokerCommand)

/-! ## State -/

structure Configuration where
  account : PaperAccount
  riskPolicy : PaperRiskPolicy
  brokerRouteFingerprint : String

structure Books where
  orders : OrderedMap String PaperOrder
  comboOrders : OrderedMap String PaperComboOrder
  portfolios : OrderedMap String Portfolio
  taxLots : TaxLotBook
  strategyAttribution : OrderedMap String (OrderedMap String Decimal)
  executionIds : OrderedSet String
  cash : Decimal
  deriving DecidableEq

structure RunningValues where
  marks : OrderedMap String Decimal
  peakEquity : Decimal
  dailyBaselineDate : Option String
  dailyBaselineEquity : Decimal
  deriving DecidableEq

structure EvidenceRecord where
  riskEvidence : OrderedMap String PaperRiskEvidence
  comboRiskEvidence : OrderedMap String PaperComboRiskEvidence
  deriving DecidableEq

structure OperatorRecord where
  killSwitches : KillSwitchRegistry
  killSwitchOperations : List KillSwitchOperation
  orderOperations : List OrderOperation
  corporateActions : List PaperCorporateActionReceipt
  deriving DecidableEq

structure ReconciliationRecord where
  incidents : OrderedMap String ReconciliationIncident
  lastReconciledAt : Option String
  lastReconciliationClean : Option Bool
  latestReconciliation : Option ReconciliationReport
  paperDays : OrderedMap String PersistentPaperDay
  nextReconciliation : Nat
  deriving DecidableEq

structure ServiceRecord extends Configuration, Books, RunningValues,
    EvidenceRecord, OperatorRecord, ReconciliationRecord

structure PaperTradingService (B : Type) extends ServiceRecord where
  broker : B
  (brokerConnected persistenceHealthy : Bool)
  journal : Option FilePaperJournal
  effects : List Effect

abbrev PaperM (B α : Type) : Type :=
  Fallible (PaperTradingService B) PaperError α

namespace PaperTradingService

variable {B : Type} [PaperBrokerAdapter B]

def emptyBooks (cash : Decimal) : Books where
  orders := ∅
  comboOrders := ∅
  portfolios := ∅
  taxLots := .empty
  strategyAttribution := ∅
  executionIds := ∅
  cash := cash

def new (account : PaperAccount) (riskPolicy : PaperRiskPolicy)
    (killSwitches : KillSwitchRegistry) (broker : B) :
    Result (PaperTradingService B) := do
  account.validate
  riskPolicy.validate
  let brokerRouteFingerprint ←
    PaperBrokerAdapter.configurationFingerprint broker account.accountId
  pure
    { toConfiguration := ⟨account, riskPolicy, brokerRouteFingerprint⟩
      toBooks := emptyBooks account.initialCash, marks := ∅
      peakEquity := account.initialCash, dailyBaselineDate := none
      dailyBaselineEquity := Decimal.zero, riskEvidence := ∅
      comboRiskEvidence := ∅
      killSwitches
      killSwitchOperations := []
      orderOperations := []
      corporateActions := []
      incidents := ∅
      lastReconciledAt := none
      lastReconciliationClean := none
      latestReconciliation := none
      paperDays := ∅
      nextReconciliation := 1
      broker
      brokerConnected := true
      persistenceHealthy := true
      journal := none
      effects := [] }

def edit (f : ServiceRecord → ServiceRecord) (s : PaperTradingService B) :
    PaperTradingService B :=
  { s with toServiceRecord := f s.toServiceRecord }

def order (s : PaperTradingService B) (orderId : String) : Option PaperOrder :=
  s.orders[orderId]?

def comboOrder (s : PaperTradingService B) (orderId : String) : Option PaperComboOrder :=
  s.comboOrders[orderId]?

def ensurePersistenceHealthy (s : PaperTradingService B) : Result Unit :=
  refuseIf (s.persistenceHealthy = false)
    "paper OMS is fail-closed after a durable journal write failure"

end PaperTradingService

namespace Books

def unknownOrder : PaperError := ⟨"paper OMS does not know order"⟩

def unknownCombo : PaperError := ⟨"paper OMS does not know combination order"⟩

def findOrder (books : Books) (orderId : String) : Result PaperOrder :=
  match books.orders[orderId]? with
  | some order => .ok order
  | none => .error unknownOrder

def findCombo (books : Books) (orderId : String) : Result PaperComboOrder :=
  match books.comboOrders[orderId]? with
  | some order => .ok order
  | none => .error unknownCombo

def putOrder (books : Books) (orderId : String) (order : PaperOrder) : Books :=
  { books with orders := books.orders.insert orderId order }

def putCombo (books : Books) (orderId : String) (order : PaperComboOrder) : Books :=
  { books with comboOrders := books.comboOrders.insert orderId order }

def heldQuantity (books : Books) (instrumentId : String) : Decimal :=
  match books.portfolios[instrumentId]? with
  | some portfolio => portfolio.quantity
  | none => Decimal.zero

end Books

end Follon.Paper
