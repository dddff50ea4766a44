import Follon.Foundation.Transition
import Follon.Paper.Reconcile

/-!
# Runs of the service

Every public operation of the service as one type, and the runs they make
while the broker moves on its own in between.
-/

namespace Follon.Paper

open Foundation Domain ControlPlane

inductive Operation where
  | submitIntent (intent : OrderIntent) (market : PaperMarketData)
      (decidedAt : String) (submittedBy : Option String)
  | submitComboIntent (intent : ComboIntent) (market : PaperComboMarketData)
      (decidedAt : String) (submittedBy : Option String)
  | evaluateComboRisk (intent : ComboIntent) (market : PaperComboMarketData)
      (decidedAt : String)
  | cancelOrder (orderId : String)
  | cancelOrderAs (orderId operator operatedAt : String)
  | replaceOrder (orderId : String) (replacementLimitPrice : Decimal)
  | synchronize
  | reconnectAndReconcile (reconciledAt : String)
  | reconcile (reconciledAt : String)
  | explainIncident (incidentId explanation : String)
  | recordPaperSession (paperSession : PaperTradingSession)
      (report : ReconciliationReport)
      (calendar : TradingCalendar)
  | activateKillSwitch (scope : KillSwitchScope)
  | deactivateKillSwitch (scope : KillSwitchScope)
  | operateKillSwitchAs (scope : KillSwitchScope) (action : KillSwitchAction)
      (operator operatedAt : String)
  | applyCorporateAction (request : PaperCorporateAction)

namespace PaperTradingService

variable {B : Type} [PaperBrokerAdapter B] [ContentHash]

def execute : Operation → PaperM B Unit
  | .submitIntent intent market decidedAt submittedBy =>
    (submitIntentAs intent market decidedAt submittedBy).discard
  | .submitComboIntent intent market decidedAt submittedBy =>
    (submitComboIntentAs intent market decidedAt submittedBy).discard
  | .evaluateComboRisk intent market decidedAt =>
    (evaluateComboRisk intent market decidedAt).discard
  | .cancelOrder orderId => PaperTradingService.cancelOrder orderId
  | .cancelOrderAs orderId operator operatedAt =>
    PaperTradingService.cancelOrderAs orderId operator operatedAt
  | .replaceOrder orderId price =>
    PaperTradingService.replaceOrder orderId price
  | .synchronize => PaperTradingService.synchronize.discard
  | .reconnectAndReconcile reconciledAt =>
    (PaperTradingService.reconnectAndReconcile reconciledAt).discard
  | .reconcile reconciledAt =>
    (PaperTradingService.reconcile reconciledAt).discard
  | .explainIncident incidentId explanation =>
    PaperTradingService.explainIncident incidentId explanation
  | .recordPaperSession paperSession report calendar =>
    PaperTradingService.recordPaperSession paperSession report calendar
  | .activateKillSwitch scope =>
    (PaperTradingService.activateKillSwitch scope).discard
  | .deactivateKillSwitch scope =>
    (PaperTradingService.deactivateKillSwitch scope).discard
  | .operateKillSwitchAs scope action operator operatedAt =>
    (PaperTradingService.operateKillSwitchAs scope action operator operatedAt).discard
  | .applyCorporateAction request =>
    (PaperTradingService.applyCorporateAction request).discard

def setBroker (broker : B) (s : PaperTradingService B) : PaperTradingService B :=
  { s with broker }

inductive Step : PaperTradingService B → PaperTradingService B → Prop
  | operate (s : PaperTradingService B) (operation : Operation) :
      Step s ((execute operation).final s)
  | brokerMoved (s : PaperTradingService B) (broker : B) :
      Step s (s.setBroker broker)

inductive Switches : KillSwitchRegistry → Prop
  | new {version : String} {registry : KillSwitchRegistry}
      (h : KillSwitchRegistry.new version = .ok registry) : Switches registry
  | activate {registry registry' : KillSwitchRegistry}
      {scope : KillSwitchScope} {changed : Bool} (hr : Switches registry)
      (h : registry.activate scope = .ok (changed, registry')) :
      Switches registry'
  | deactivate {registry : KillSwitchRegistry} (hr : Switches registry)
      (scope : KillSwitchScope) : Switches (registry.deactivate scope).2

def Constructed (s : PaperTradingService B) : Prop :=
  ∃ account riskPolicy killSwitches broker, Switches killSwitches ∧
    new account riskPolicy killSwitches broker = .ok s

end PaperTradingService

end Follon.Paper
