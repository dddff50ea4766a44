import Follon.Backtest.Dataset
import Follon.ControlPlane.Replays

/-!
# The backtest runner

Bars and due corporate actions, in order, through the replay engine and the
accounting ledger.  The ledger is booked from the fills of the returned events
and from the actions themselves; the engine keeps its own portfolios.
-/

namespace Follon.Backtest

open Foundation Domain Accounting ControlPlane

structure Checkpoint where
  events : List EventEnvelope
  ledger : BacktestLedger

/-- A run under way.  `returned` and `checkpoints` only record: the events the
engine has returned, and the ledger after each of them and after each
action. -/
structure BacktestRun (S : Type) where
  replay : Replay InMemoryEventStore S
  ledger : BacktestLedger
  marks : OrderedMap String Decimal
  (canonicalEvents appliedCorporateActionIds : List String)
  equityCurve : List EquityPoint
  returned : List EventEnvelope
  checkpoints : List Checkpoint

abbrev RunM (S α : Type) : Type :=
  Fallible (BacktestRun S) PaperError α

namespace BacktestRun

variable {S : Type}

def setReplay (replay : Replay InMemoryEventStore S) (run : BacktestRun S) :
    BacktestRun S :=
  { run with replay }

def setLedger (ledger : BacktestLedger) (run : BacktestRun S) : BacktestRun S :=
  { run with ledger }

def setMark (instrumentId : String) (mark : Decimal) (run : BacktestRun S) :
    BacktestRun S :=
  { run with marks := run.marks.insert instrumentId mark }

def push (event : EventEnvelope) (run : BacktestRun S) : BacktestRun S :=
  { run with
    canonicalEvents := run.canonicalEvents ++ [event.canonicalJson]
    returned := run.returned ++ [event] }

def check (run : BacktestRun S) : BacktestRun S :=
  { run with checkpoints := run.checkpoints ++ [⟨run.returned, run.ledger⟩] }

def noteApplied (actionId : String) (run : BacktestRun S) : BacktestRun S :=
  { run with
    appliedCorporateActionIds := run.appliedCorporateActionIds ++ [actionId] }

def addPoint (point : EquityPoint) (run : BacktestRun S) : BacktestRun S :=
  { run with equityCurve := run.equityCurve ++ [point] }

def onReplay {α : Type} (x : ReplayM InMemoryEventStore S α) : RunM S α :=
  x.zoom replay setReplay

def onLedger {α : Type} (x : LedgerM α) : RunM S α := x.zoom ledger setLedger

/-! ## Corporate actions -/

def positionFor (accountId : String) (events : List EventEnvelope) :
    Option PositionSnapshot :=
  (events.filterMap fun event =>
    match event.payload with
    | .position position =>
      if position.accountId = accountId then some position else none
    | _ => none).getLast?

def splitMark (instrumentId : String) (ratio : Decimal) : RunM S Unit := do
  let run ← Fallible.read
  match run.marks[instrumentId]? with
  | none => pure ()
  | some mark => do
    let mark ← lift (mark.checkedDiv ratio)
    update (setMark instrumentId mark)

def pushAll (events : List EventEnvelope) : RunM S Unit :=
  update fun run => events.foldl (fun run event => run.push event) run

def splitEffect (accountId eventTime actionId instrumentId : String)
    (ratio : Decimal) : RunM S (Option CorporateActionEffect) := do
  splitMark instrumentId ratio
  let events ← onReplay
    (Replay.applySplit actionId instrumentId ratio eventTime)
  pushAll events
  pure ((positionFor accountId events).map fun position =>
    .split actionId ratio position)

def dividendEffect (accountId actionId instrumentId : String)
    (entriesBefore : Nat) : RunM S (Option CorporateActionEffect) := do
  let run ← Fallible.read
  let credited := run.ledger.entries[entriesBefore]?.filter fun entry =>
    Decimal.zero < entry.cashDelta
  pure (credited.map fun entry =>
    .cashDividend actionId accountId instrumentId entry.cashDelta)

def actionEffect (accountId eventTime : String) (entriesBefore : Nat) :
    CorporateAction → RunM S (Option CorporateActionEffect)
  | .split actionId instrumentId _ ratio =>
    splitEffect accountId eventTime actionId instrumentId ratio
  | .cashDividend actionId instrumentId _ _ =>
    dividendEffect accountId actionId instrumentId entriesBefore

variable [Strategy S]

def tell : Option CorporateActionEffect → RunM S Unit
  | none => pure ()
  | some effect =>
    onReplay (Replay.consult fun strategy =>
      Strategy.onCorporateAction strategy effect)

def applyAction (accountId eventTime : String) (action : CorporateAction) :
    RunM S Unit := do
  let run ← Fallible.read
  onLedger (BacktestLedger.applyCorporateAction action)
  let effect ← actionEffect accountId eventTime run.ledger.entries.length action
  update check
  tell effect
  update (noteApplied action.actionId)

def applyDue (accountId eventTime : String) :
    List CorporateAction → RunM S (List CorporateAction)
  | [] => pure []
  | action :: rest =>
    if action.effectiveAt ≤ eventTime then do
      applyAction accountId eventTime action
      applyDue accountId eventTime rest
    else
      pure (action :: rest)

/-! ## Bars -/

omit [Strategy S] in
def bookEvent (event : EventEnvelope) : RunM S Unit :=
  match event.payload with
  | .fill fill => onLedger (BacktestLedger.applyFill fill)
  | _ => pure ()

omit [Strategy S] in
def bookEvents : List EventEnvelope → RunM S Unit
  | [] => pure ()
  | event :: rest => do
    bookEvent event
    update fun run => (run.push event).check
    bookEvents rest

omit [Strategy S] in
def markEquity (historical : HistoricalBar) : RunM S Unit := do
  update (setMark historical.bar.instrumentId historical.bar.close)
  let run ← Fallible.read
  let report ← lift (run.ledger.report run.marks)
  update (addPoint ⟨historical.eventTime, report.totalEquity⟩)

def replayHistorical (accountId : String) (market : MarketPreconditions)
    (historical : HistoricalBar) : RunM S Unit := do
  let result ← onReplay (Replay.processBarWithMarketPreconditions accountId
    historical.eventTime historical.bar market)
  bookEvents result.events
  markEquity historical

def replayAll (accountId : String) (market : MarketPreconditions) :
    List HistoricalBar → List CorporateAction → RunM S Unit
  | [], _ => pure ()
  | historical :: rest, actions => do
    let actions ← applyDue accountId historical.eventTime actions
    replayHistorical accountId market historical
    replayAll accountId market rest actions

end BacktestRun

/-! ## The runner -/

structure BacktestRunner where
  spec : BacktestSpec
  engine : ReplayEngine
  completed : Bool

structure CompletedBacktest where
  artifact : BacktestArtifact
  (canonicalEvents appliedCorporateActionIds : List String)

abbrev RunnerM (S α : Type) : Type :=
  Fallible (BacktestRunner × S) PaperError α

namespace BacktestRunner

variable {S : Type}

def new (spec : BacktestSpec) (engine : ReplayEngine) : Result BacktestRunner := do
  spec.validate
  refuseIf (engine.softwareVersion ≠ spec.engineVersion ∨
      engine.configurationVersion ≠ spec.configurationVersion)
    "replay engine does not match backtest specification"
  pure { spec, engine, completed := false }

def selectedBars (spec : BacktestSpec) (input : BacktestInput) : List HistoricalBar :=
  input.bars.filter fun historical =>
    spec.startsAt ≤ historical.eventTime ∧ historical.eventTime ≤ spec.endsAt

def opening (engine : ReplayEngine) (strategy : S) (ledger : BacktestLedger) :
    BacktestRun S where
  replay :=
    { engine, sink := ⟨[], []⟩, strategy, stream := [], created := [] }
  ledger := ledger
  marks := ∅
  canonicalEvents := []
  appliedCorporateActionIds := []
  equityCurve := []
  returned := []
  checkpoints := []

def setCompleted (state : BacktestRunner × S) : BacktestRunner × S :=
  ({ state.1 with completed := true }, state.2)

def giveBack (run : BacktestRun S) (state : BacktestRunner × S) : BacktestRunner × S :=
  ({ state.1 with engine := run.replay.engine }, run.replay.strategy)

def execute [Strategy S] [ContentHash] (input : BacktestInput)
    (market : MarketPreconditions) : RunnerM S (BacktestRun S) := do
  let (runner, strategy) ← Fallible.read
  lift (refuseIf (runner.completed = true)
    "a backtest runner may execute its immutable specification only once")
  lift (input.validateAgainst runner.spec)
  let bars := selectedBars runner.spec input
  lift (refuseIf (bars = []) "backtest time range selects no normalized bars")
  update setCompleted
  let ledger ← lift
    (BacktestLedger.new input.currency input.initialCash)
  let played := (BacktestRun.replayAll input.accountId market bars
    (sortActions input.corporateActions)).run
      (opening runner.engine strategy ledger)
  update (giveBack played.2)
  lift played.1
  pure played.2

/-- The returned events are checked against the stored ones before anything
is reported. -/
def complete [ContentHash] (spec : BacktestSpec) (input : BacktestInput)
    (run : BacktestRun S) : Result CompletedBacktest := do
  refuseIf (run.replay.sink.events.map EventEnvelope.canonicalJson ≠ run.canonicalEvents)
    "replay result and persisted event stream diverged"
  let report ← run.ledger.report run.marks
  let tradeCount := run.ledger.entries.countP fun entry =>
    entry.entryType == "FILL"
  let performance ← PerformanceReport.fromEquityCurve input.initialCash
    run.equityCurve run.canonicalEvents.length tradeCount
    run.appliedCorporateActionIds.length
  let artifact ← BacktestArtifact.withRunDetails spec run.canonicalEvents
    report run.ledger.entries performance
  pure
    { artifact
      canonicalEvents := run.canonicalEvents
      appliedCorporateActionIds := run.appliedCorporateActionIds }

def run [Strategy S] [ContentHash] (input : BacktestInput)
    (market : MarketPreconditions) : RunnerM S CompletedBacktest := do
  let final ← execute input market
  let (runner, _) ← Fallible.read
  lift (complete runner.spec input final)

end BacktestRunner

end Follon.Backtest
