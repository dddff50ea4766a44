import Follon.Foundation.Transition
import Follon.Live.ControlledAdapter

/-!
# The canary envelope

What a command of the transport has to meet is read off what happened before
it.  A session keeps it as long as no connection attempt fails on top of a
connected session, and no replacement changes an order into one that would not
have been submitted: the adapter checks neither.
-/

namespace Follon.Live

open Foundation Domain

/-! ## What happened before a command -/

def connectedAfter (connected : Bool) : LiveEvent → Bool
  | .call (.connectLive _ answer) => answer.isOk
  | .call .disconnectLive => false
  | _ => connected

def isConnected (trace : List LiveEvent) : Bool := trace.foldl connectedAfter false

def reconciledAfter (reconciled : Bool) : LiveEvent → Bool
  | .attempt => false
  | .call (.liveAccountSnapshot _ answered) => answered || reconciled
  | _ => reconciled

def isReconciled (trace : List LiveEvent) : Bool := trace.foldl reconciledAfter false

def stoppedAfter (stopped : Bool) : LiveEvent → Bool
  | .stop => true
  | _ => stopped

def isStopped (trace : List LiveEvent) : Bool := trace.foldl stoppedAfter false

def submission : LiveEvent → Option LiveBrokerOrderRequest
  | .call (.submitLive request) => some request
  | _ => none

def submissions (trace : List LiveEvent) (clientOrderId : String) :
    List LiveBrokerOrderRequest :=
  (trace.filterMap submission).filter (·.clientOrderId == clientOrderId)

/-! ## The envelope -/

def NotionalWithin (configuration : IbkrLiveGatewayConfiguration)
    (quantity price : Decimal) : Prop :=
  quantity.scaled * price.scaled ≤ configuration.maximumNotional.scaled * Decimal.scale

structure OrderWithin (configuration : IbkrLiveGatewayConfiguration)
    (order : LiveBrokerOrderRequest) : Prop where
  account : order.accountId = configuration.accountId
  instrument : order.instrumentId ∈ configuration.allowedInstruments
  quantity : order.quantity ≤ configuration.maximumQuantity

structure Ready (trace : List LiveEvent) : Prop where
  connected : isConnected trace = true
  reconciled : isReconciled trace = true
  running : isStopped trace = false

def CommandWithin (configuration : IbkrLiveGatewayConfiguration)
    (before : List LiveEvent) : TransportCall → Prop
  | .submitLive request => Ready before ∧ OrderWithin configuration request ∧
      ∃ price, request.limitPrice = some price ∧
        NotionalWithin configuration request.quantity price
  | .replaceLive request => Ready before ∧
      submissions before request.clientOrderId ≠ [] ∧
        ∀ order ∈ submissions before request.clientOrderId,
          OrderWithin configuration order ∧
            NotionalWithin configuration order.quantity request.limitPrice
  | _ => True

def Enveloped (configuration : IbkrLiveGatewayConfiguration)
    (trace : List LiveEvent) : Prop :=
  ∀ before call after, trace = before ++ .call call :: after →
    CommandWithin configuration before call

section
variable {configuration : IbkrLiveGatewayConfiguration}
  {trace : List LiveEvent}

theorem enveloped_append_one {event : LiveEvent} (h : Enveloped configuration trace)
    (hevent : ∀ call, event = .call call → CommandWithin configuration trace call) :
    Enveloped configuration (trace ++ [event]) := by
  intro before call after hsplit
  induction after using List.reverseRecOn with
  | nil =>
    obtain ⟨rfl, hlast⟩ := List.append_inj' hsplit rfl
    exact hevent call (List.cons.inj hlast).1
  | append_singleton after last _ =>
    rw [← cons_append, ← append_assoc] at hsplit
    obtain ⟨rfl, _⟩ := List.append_inj' hsplit rfl
    exact h before call after rfl

def IsQuiet : LiveEvent → Prop
  | .call (.submitLive _) => False
  | .call (.replaceLive _) => False
  | _ => True

variable {events : List LiveEvent}

theorem enveloped_append (h : Enveloped configuration trace)
    (hquiet : ∀ event ∈ events, IsQuiet event) :
    Enveloped configuration (trace ++ events) := by
  induction events generalizing trace with
  | nil => simpa using h
  | cons event rest ih =>
    obtain ⟨hevent, hrest⟩ := forall_mem_cons.mp hquiet
    rw [List.append_cons]
    apply ih _ hrest
    apply enveloped_append_one h
    rintro call rfl
    cases call with
    | submitLive request => exact absurd hevent id
    | replaceLive request => exact absurd hevent id
    | _ => exact trivial

theorem submissions_append_quiet (hquiet : ∀ event ∈ events, IsQuiet event)
    (clientOrderId : String) : submissions (trace ++ events) clientOrderId
      = submissions trace clientOrderId := by
  have hnone : events.filterMap submission = [] := by
    rw [List.filterMap_eq_nil_iff]
    intro event hevent
    have hone := hquiet event hevent
    unfold submission
    split
    · exact absurd hone id
    · rfl
  rw [submissions, submissions, filterMap_append, hnone, append_nil]

end

/-! ## The invariant of a session -/

/-- The flags of the adapter say what happened, and what was submitted is
within the limits of an order. -/
structure LiveSession.Kept (configuration : IbkrLiveGatewayConfiguration)
    (session : LiveSession) : Prop where
  bound : session.adapter.configuration = configuration
  connected : session.adapter.connected = true → isConnected session.trace = true ∧
      session.adapter.initialSnapshotObserved = true
  reconciled : session.adapter.connected = true →
    session.adapter.emergencyStop = false → isReconciled session.trace = true
  stopped : isStopped session.trace = true → session.adapter.emergencyStop = true
  submitted : ∀ clientOrderId, ∀ order ∈ submissions session.trace clientOrderId,
      OrderWithin configuration order
  enveloped : Enveloped configuration session.trace

/-! ## What a step must not do -/

def ExceedsByFraction (configuration : IbkrLiveGatewayConfiguration)
    (quantity price : Decimal) : Prop :=
  ¬NotionalWithin configuration quantity price ∧
    (quantity.scaled * price.scaled).tdiv Decimal.scale
      ≤ configuration.maximumNotional.scaled

/-- An attempt on a connected session does not fail before its snapshot, a
submission does not exceed the notional by a fraction of a unit, and a
replacement is of an order this session submitted, at a price that keeps its
notional. -/
def LiveSession.Careful {Snapshot Events : Type} (session : LiveSession)
    (operation : LiveOperation) (answers : TransportAnswers Snapshot Events) : Prop :=
  match operation with
  | .connect accountId _ => session.adapter.connected = true →
      session.adapter.emergencyStop = false →
        accountId = session.adapter.configuration.accountId ∧ answers.connectLive = .ok ()
  | .submit request => ∀ price, request.limitPrice = some price →
      ¬ExceedsByFraction session.adapter.configuration request.quantity price
  | .replace request => session.adapter.connected = true →
      session.adapter.emergencyStop = false →
        submissions session.trace request.clientOrderId ≠ [] ∧
          ∀ order ∈ submissions session.trace request.clientOrderId,
            NotionalWithin session.adapter.configuration order.quantity
              request.limitPrice
  | _ => True

/-! ## Every step keeps the invariant -/

section
variable {Snapshot Events : Type} {configuration : IbkrLiveGatewayConfiguration}
  {session : LiveSession}

variable {α : Type} {marks : List LiveEvent}

variable {outcome : Outcome α}

theorem LiveSession.Kept.after_quiet (h : session.Kept configuration)
    (hquiet : ∀ event ∈ marks ++ outcome.calls.map LiveEvent.call,
      IsQuiet event) (hbound : outcome.adapter.configuration = configuration)
    (hconnected : outcome.adapter.connected = true →
      (marks ++ outcome.calls.map LiveEvent.call).foldl connectedAfter
          (isConnected session.trace) = true ∧
        outcome.adapter.initialSnapshotObserved = true)
    (hreconciled : outcome.adapter.connected = true →
      outcome.adapter.emergencyStop = false →
        (marks ++ outcome.calls.map LiveEvent.call).foldl reconciledAfter
          (isReconciled session.trace) = true)
    (hstopped : (marks ++ outcome.calls.map LiveEvent.call).foldl stoppedAfter
        (isStopped session.trace) = true →
      outcome.adapter.emergencyStop = true) :
    (session.after marks outcome).Kept configuration where
  bound := hbound
  connected := by
    simpa only [LiveSession.after, isConnected, List.foldl_append] using
      hconnected
  reconciled := by
    simpa only [LiveSession.after, isReconciled, List.foldl_append] using
      hreconciled
  stopped := by
    simpa only [LiveSession.after, isStopped, List.foldl_append] using hstopped
  submitted := by
    intro clientOrderId
    rw [LiveSession.after, submissions_append_quiet hquiet]
    exact h.submitted clientOrderId
  enveloped := enveloped_append h.enveloped hquiet

theorem attempts_silent (hmarks : ∀ mark ∈ marks, mark = .attempt) (flag : Bool) :
    marks.foldl connectedAfter flag = flag ∧
      marks.foldl stoppedAfter flag = flag ∧ ∀ mark ∈ marks, IsQuiet mark := by
  induction marks generalizing flag with
  | nil => simp
  | cons mark rest ih =>
    obtain ⟨rfl, hrest⟩ := forall_mem_cons.mp hmarks
    obtain ⟨hconnected, hstopped, hquiet⟩ := ih hrest flag
    exact ⟨hconnected, hstopped, forall_mem_cons.mpr ⟨trivial, hquiet⟩⟩

/-- A connection keeps the invariant, whether or not it is an attempt of its
own. -/
theorem LiveSession.Kept.connect (h : session.Kept configuration)
    {accountId : String} {credential : List UInt8}
    {answers : TransportAnswers Snapshot Events}
    (hcareful : session.Careful (.connect accountId credential) answers)
    (hmarks : ∀ mark ∈ marks, mark = .attempt) :
    (session.after marks (session.adapter.connect accountId credential
      answers)).Kept configuration := by
  have hconnected : marks.foldl connectedAfter (isConnected session.trace)
      = isConnected session.trace := (attempts_silent hmarks _).1
  have hstopped : marks.foldl stoppedAfter (isStopped session.trace)
      = isStopped session.trace := (attempts_silent hmarks _).2.1
  have hquiet := (attempts_silent hmarks true).2.2
  have hstop : (marks.foldl stoppedAfter (isStopped session.trace)) = true →
      session.adapter.emergencyStop = true := by
    rw [hstopped]
    exact h.stopped
  unfold IbkrControlledLiveAdapter.connect
  split
  · next hrefused =>
      apply h.after_quiet
      case hquiet => simpa using hquiet
      case hbound => exact h.bound
      case hconnected =>
        simpa only [map_nil, append_nil, hconnected] using
          h.connected
      case hreconciled =>
        intro hwas hrunning
        obtain ⟨hsame, _⟩ := hcareful hwas hrunning
        obtain hother | hstopped := hrefused
        · exact absurd hsame hother
        · rw [hrunning] at hstopped
          contradiction
      case hstopped => simpa using hstop
  · next haccepted =>
      rw [not_or, not_eq_true] at haccepted
      have hrunning := haccepted.2
      split
      · next e hanswer =>
          have hnone : session.adapter.connected ≠ true := by
            intro hwas
            rw [(hcareful hwas hrunning).2] at hanswer
            contradiction
          apply h.after_quiet
          case hquiet => simpa [or_imp, forall_and, IsQuiet] using hquiet
          case hbound => exact h.bound
          case hconnected => exact fun hwas => absurd hwas hnone
          case hreconciled => exact fun hwas => absurd hwas hnone
          case hstopped => simpa [stoppedAfter] using hstop
      · split
        · apply h.after_quiet
          case hquiet => simpa [or_imp, forall_and, IsQuiet] using hquiet
          case hbound => exact h.bound
          case hconnected => simp
          case hreconciled => simp
          case hstopped => simpa [stoppedAfter] using hstop
        · apply h.after_quiet
          case hquiet => simpa [or_imp, forall_and, IsQuiet] using hquiet
          case hbound => exact h.bound
          case hconnected => simp [connectedAfter, Except.isOk, Except.toBool]
          case hreconciled => simp [reconciledAfter]
          case hstopped => simpa [stoppedAfter] using hstop

theorem LiveSession.Kept.reconnect (h : session.Kept configuration)
    (accountId : String) (credential : List UInt8)
    (answers : TransportAnswers Snapshot Events) :
    (session.after [.attempt] (session.adapter.reconnect accountId credential
      answers)).Kept configuration := by
  let closed : Outcome Unit :=
    { result := .ok ()
      adapter := { session.adapter with
        connected := false, initialSnapshotObserved := false }
      calls := [.disconnectLive] }
  have hclosed : (session.after [.attempt] closed).Kept configuration := by
    apply h.after_quiet
    case hquiet => simp [closed, IsQuiet]
    case hbound => exact h.bound
    case hconnected => simp [closed]
    case hreconciled => simp [closed]
    case hstopped => exact h.stopped
  unfold IbkrControlledLiveAdapter.reconnect
  split
  · exact hclosed
  · have hcareful : (session.after [.attempt] closed).Careful
        (.connect accountId credential) answers := by
      intro hwas
      contradiction
    have hnone : ∀ mark ∈ ([] : List LiveEvent), mark = .attempt := by
      simp
    have hconnect := hclosed.connect hcareful hnone
    simpa only [LiveSession.after, closed, map_cons, map_nil,
      nil_append, append_assoc, cons_append] using hconnect

theorem LiveSession.Kept.after_call (h : session.Kept configuration)
    (hadapter : outcome.adapter = session.adapter)
    (hcalls : outcome.calls = [] ∨ (∃ clientOrderId,
      outcome.calls = [.cancelLive clientOrderId]) ∨
        outcome.calls = [.pollLive] ∨ ∃ accountId,
          outcome.calls = [.liveAccountSnapshot accountId false]) :
    (session.after [] outcome).Kept configuration := by
  obtain ⟨result, adapter, calls⟩ := outcome
  subst hadapter
  obtain rfl | ⟨_, rfl⟩ | rfl | ⟨_, rfl⟩ := hcalls
  all_goals
    apply h.after_quiet
    case hquiet => simp [IsQuiet]
    case hbound => exact h.bound
    case hconnected => exact h.connected
    case hreconciled => exact h.reconciled
    case hstopped => exact h.stopped

theorem LiveSession.Kept.snapshot (h : session.Kept configuration)
    (accountId : String) (answers : TransportAnswers Snapshot Events) :
    (session.after [] (session.adapter.snapshot accountId answers)).Kept
      configuration := by
  unfold IbkrControlledLiveAdapter.snapshot
  split
  · exact h.after_call rfl (.inl rfl)
  · split
    · exact h.after_call rfl (.inr (.inr (.inr ⟨_, rfl⟩)))
    · apply h.after_quiet
      case hquiet => simp [IsQuiet]
      case hbound => exact h.bound
      case hconnected => exact fun hwas => ⟨(h.connected hwas).1, rfl⟩
      case hreconciled => exact fun _ _ => rfl
      case hstopped => exact h.stopped

theorem LiveSession.Kept.after_command (h : session.Kept configuration)
    {call : TransportCall} (hadapter : outcome.adapter = session.adapter)
    (hcalls : outcome.calls = [call])
    (hcommand : (∃ request, call = .submitLive request) ∨
      ∃ request, call = .replaceLive request)
    (hwithin : CommandWithin configuration session.trace call) :
    (session.after [] outcome).Kept configuration := by
  obtain ⟨result, adapter, calls⟩ := outcome
  dsimp only at hadapter hcalls
  subst hadapter hcalls
  have htrace : (session.after [] (Outcome.mk result session.adapter
      [call])).trace = session.trace ++ [.call call] := rfl
  have hflags : isConnected (session.trace ++ [.call call])
        = isConnected session.trace ∧
      isReconciled (session.trace ++ [.call call]) = isReconciled session.trace ∧
      isStopped (session.trace ++ [.call call])
        = isStopped session.trace := by
    simp only [isConnected, isReconciled, isStopped, List.foldl_append]
    obtain ⟨request, rfl⟩ | ⟨request, rfl⟩ := hcommand
    · exact ⟨rfl, rfl, rfl⟩
    · exact ⟨rfl, rfl, rfl⟩
  obtain ⟨hconnected, hreconciled, hstopped⟩ := hflags
  refine ⟨h.bound, ?_, ?_, ?_, ?_, ?_⟩
  · rw [htrace, hconnected]
    exact h.connected
  · rw [htrace, hreconciled]
    exact h.reconciled
  · rw [htrace, hstopped]
    exact h.stopped
  · intro clientOrderId order horder
    rw [htrace, submissions, filterMap_append, filter_append,
      mem_append] at horder
    obtain horder | horder := horder
    · exact h.submitted clientOrderId order horder
    · obtain ⟨request, rfl⟩ | ⟨request, rfl⟩ := hcommand
      · obtain rfl := mem_singleton.mp (mem_filter.mp horder).1
        exact hwithin.2.1
      · exact absurd (mem_filter.mp horder).1 not_mem_nil
  · rw [htrace]
    apply enveloped_append_one h.enveloped
    intro sent hsent
    obtain rfl := LiveEvent.call.inj hsent
    exact hwithin

theorem LiveSession.Kept.submit (h : session.Kept configuration)
    {request : LiveBrokerOrderRequest} {answers : TransportAnswers Snapshot Events}
    (hcareful : session.Careful (.submit request) answers) :
    (session.after [] (session.adapter.submit request answers)).Kept
      configuration := by
  cases hready : session.adapter.requireSubmissionReady request with
  | error e =>
    rw [IbkrControlledLiveAdapter.submit, hready]
    exact h.after_call rfl (.inl rfl)
  | ok _ =>
    rw [IbkrControlledLiveAdapter.submit, hready]
    apply h.after_command rfl rfl (.inl ⟨request, rfl⟩)
    rw [IbkrControlledLiveAdapter.requireSubmissionReady] at hready
    simp only [bind_eq_ok, refuseIf_eq_ok, exists_const, not_or,
      not_eq_false, not_eq_true, not_not] at hready
    obtain ⟨⟨hconnected, _, hrunning⟩,
      ⟨haccount, hinstrument, _, hquantity⟩, hprice⟩ := hready
    have hready : Ready session.trace :=
      { connected := (h.connected hconnected).1
        reconciled := h.reconciled hconnected hrunning
        running := by
          by_contra hstopped
          rw [h.stopped (not_eq_false _ ▸ hstopped)] at hrunning
          contradiction }
    rw [h.bound] at haccount hinstrument hquantity
    refine ⟨hready, ⟨haccount, hinstrument, Int.not_lt.mp hquantity⟩, ?_⟩
    split at hprice
    · contradiction
    · next price hlimit =>
        refine ⟨price, hlimit, ?_⟩
        simp only [bind_eq_ok, refuseIf_eq_ok] at hprice
        obtain ⟨notional, hnotional, hmaximum⟩ := hprice
        have hwhole := hcareful price hlimit
        rw [h.bound] at hwhole hmaximum
        by_contra hexceeds
        apply hwhole
        refine ⟨hexceeds, ?_⟩
        rw [← scaled_of_checkedMul hnotional]
        exact Int.not_lt.mp hmaximum

theorem LiveSession.Kept.replace (h : session.Kept configuration)
    {request : LiveBrokerReplaceRequest} {answers : TransportAnswers Snapshot Events}
    (hcareful : session.Careful (.replace request) answers) :
    (session.after [] (session.adapter.replace request answers)).Kept
      configuration := by
  unfold IbkrControlledLiveAdapter.replace
  split
  · exact h.after_call rfl (.inl rfl)
  · next henabled =>
      rw [not_or, not_eq_false, not_eq_true] at henabled
      obtain ⟨hconnected, hrunning⟩ := henabled
      obtain ⟨hknown, hnotional⟩ := hcareful hconnected hrunning
      rw [h.bound] at hnotional
      apply h.after_command rfl rfl (.inr ⟨request, rfl⟩)
      refine ⟨?_, hknown, fun order horder =>
        ⟨h.submitted _ order horder, hnotional order horder⟩⟩
      refine ⟨(h.connected hconnected).1, h.reconciled hconnected hrunning, ?_⟩
      by_contra hstopped
      rw [h.stopped (not_eq_false _ ▸ hstopped)] at hrunning
      contradiction

theorem LiveSession.Kept.perform (h : session.Kept configuration)
    {operation : LiveOperation} {answers : TransportAnswers Snapshot Events}
    (hcareful : session.Careful operation answers) :
    (session.perform operation answers).Kept configuration := by
  cases operation with
  | connect accountId credential => exact h.connect hcareful (by simp)
  | reconnect accountId credential => exact h.reconnect _ _ _
  | submit request => exact h.submit hcareful
  | replace request => exact h.replace hcareful
  | cancel clientOrderId =>
    change (session.after [] _).Kept configuration
    unfold IbkrControlledLiveAdapter.cancel
    split
    · exact h.after_call rfl (.inl rfl)
    · split
      · exact h.after_call rfl (.inl rfl)
      · exact h.after_call rfl (.inr (.inl ⟨_, rfl⟩))
  | poll =>
    change (session.after [] _).Kept configuration
    unfold IbkrControlledLiveAdapter.poll
    split
    · exact h.after_call rfl (.inl rfl)
    · exact h.after_call rfl (.inr (.inr (.inl rfl)))
  | snapshot accountId => exact h.snapshot _ _
  | activateEmergencyStop =>
    apply h.after_quiet
    case hquiet =>
      simp [IbkrControlledLiveAdapter.activateEmergencyStop, IsQuiet]
    case hbound => exact h.bound
    case hconnected => exact h.connected
    case hreconciled => exact fun _ hrunning => by contradiction
    case hstopped => exact fun _ => rfl

end

/-! ## Every run -/

def LiveSession.Opened (configuration : IbkrLiveGatewayConfiguration)
    (session : LiveSession) : Prop :=
  IbkrControlledLiveAdapter.new configuration = .ok session.adapter ∧ session.trace = []

def LiveSession.CarefulStep (Snapshot Events : Type)
    (session next : LiveSession) : Prop :=
  ∃ (operation : LiveOperation) (answers : TransportAnswers Snapshot Events),
    session.Careful operation answers ∧
      next = session.perform operation answers

theorem LiveSession.kept_of_opened {configuration : IbkrLiveGatewayConfiguration}
    {session : LiveSession} (h : session.Opened configuration) :
    session.Kept configuration := by
  obtain ⟨hnew, htrace⟩ := h
  obtain ⟨adapter, trace⟩ := session
  dsimp only at hnew htrace
  subst htrace
  simp only [IbkrControlledLiveAdapter.new, bind_eq_ok] at hnew
  obtain ⟨_, _, hnew⟩ := hnew
  obtain rfl := Except.ok.inj hnew
  refine ⟨rfl, by simp, by simp, ?_, ?_, ?_⟩
  · intro hstopped
    contradiction
  · intro clientOrderId order horder
    exact absurd horder not_mem_nil
  · intro before call after hsplit
    exact absurd hsplit.symm (by simp)

/-- In every run of careful calls every submission and every replacement that
reaches the transport is within the canary envelope. -/
theorem live_envelope_of_careful_run {Snapshot Events : Type}
    {configuration : IbkrLiveGatewayConfiguration} {session : LiveSession}
    (h : Reachable (LiveSession.Opened configuration)
      (LiveSession.CarefulStep Snapshot Events) session) :
    Enveloped configuration session.trace := by
  have hkept : session.Kept configuration :=
    h.invariant (fun _ hopened => LiveSession.kept_of_opened hopened)
      (by
        rintro session _ _ hkept ⟨operation, answers, hcareful, rfl⟩
        exact hkept.perform hcareful)
  exact hkept.enveloped

namespace CanaryRun

def units (n : Int) : Decimal := (Decimal.ofScaled? (n * Decimal.scale)).getD Decimal.zero

def configuration : IbkrLiveGatewayConfiguration where
  accountId := "ibkr-live"
  host := "127.0.0.1"
  port := 7496
  environment := "LIVE"
  maximumQuantity := units 10
  maximumNotional := units 1000
  allowedInstruments := ["equity.aapl"]

def order : LiveBrokerOrderRequest where
  clientOrderId := "order-1"
  accountId := "ibkr-live"
  instrumentId := "equity.aapl"
  side := .buy
  quantity := units 10
  limitPrice := some (units 100)

def replacement (limitPrice : Decimal) : LiveBrokerReplaceRequest where
  clientOrderId := "order-1"
  previousBrokerOrderId := "ib-1"
  limitPrice

def answers : TransportAnswers Unit Unit where
  connectLive := .ok ()
  submitLive := .ok (.acknowledged "ib-1")
  cancelLive := .ok ()
  replaceLive := .ok ()
  pollLive := .ok ()
  liveAccountSnapshot := .ok ()
  cancelAllLive := .ok ()

def opened : LiveSession where
  adapter :=
    { configuration
      connected := false
      initialSnapshotObserved := false
      emergencyStop := false }
  trace := []

def submitted : LiveSession :=
  (opened.perform (.connect "ibkr-live" []) answers).perform (.submit order)
    answers

theorem opened_opened : opened.Opened configuration := ⟨by decide, rfl⟩

theorem submitted_reachable : Reachable (LiveSession.Opened configuration)
      (LiveSession.CarefulStep Unit Unit) submitted := by
  have hconnect : opened.Careful (.connect "ibkr-live" []) answers := by
    intro hconnected
    contradiction
  have hsubmit : (opened.perform (.connect "ibkr-live" []) answers).Careful
      (.submit order) answers := by
    rintro price hprice ⟨hexceeds, _⟩
    obtain rfl := Option.some.inj hprice
    apply hexceeds
    unfold NotionalWithin
    decide
  exact .step (.step (.init opened_opened) ⟨_, answers, hconnect, rfl⟩)
    ⟨_, answers, hsubmit, rfl⟩

/-- A replacement by a lower price stays within the envelope. -/
theorem cheaper_replacement_within : Enveloped configuration
      (submitted.perform (.replace (replacement (units 90))) answers).trace := by
  have hcareful : submitted.Careful (.replace (replacement (units 90)))
      answers := by
    intro _ _
    have hone : submissions submitted.trace "order-1" = [order] := rfl
    change submissions submitted.trace "order-1" ≠ [] ∧
      ∀ order ∈ submissions submitted.trace "order-1", _
    rw [hone]
    refine ⟨by simp, ?_⟩
    rw [List.forall_mem_singleton]
    change (_ : Int) ≤ _
    decide
  have hreachable := submitted_reachable.step ⟨_, answers, hcareful, rfl⟩
  exact live_envelope_of_careful_run hreachable

/-- A replacement by a higher price leaves it. -/
theorem dearer_replacement_sent : opened.Opened configuration ∧
      (submitted.perform (.replace (replacement (units 1000000)))
        answers).trace = submitted.trace ++
          [.call (.replaceLive (replacement (units 1000000)))] ∧
      ¬Enveloped configuration
        (submitted.perform (.replace (replacement (units 1000000)))
          answers).trace := by
  refine ⟨opened_opened, rfl, ?_⟩
  intro h
  obtain ⟨_, _, hall⟩ := h submitted.trace
    (.replaceLive (replacement (units 1000000))) [] rfl
  have hnotional := (hall order mem_cons_self).2
  exact absurd hnotional (by unfold NotionalWithin; decide)

end CanaryRun

end Follon.Live
