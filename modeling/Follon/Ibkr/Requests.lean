import Follon.Ibkr.Transport

/-!
# Requests and answers of a bridge process

The requests a transport writes to its bridge process, the answers that queue
up behind a reader thread, and the restarts in between.
-/

namespace Follon.Ibkr

open Foundation Domain

structure BridgeRequest where
  requestId : Nat
  operation : String
  payload : Json

/-! ## The reader thread -/

abbrev ReaderMessage : Type :=
  Except String String

inductive Output where
  | line (text : String)
  | unterminated
  | notUtf8
  | unreadable
  | closed

def stripReturn (text : String) : String :=
  if text.toList.getLast? = some '\r' then
    String.ofList text.toList.dropLast
  else text

def Output.message (maxResponseBytes : Nat) : Output → ReaderMessage
  | .line text =>
    if maxResponseBytes < text.utf8ByteSize + 1 then
      .error "IBKR paper bridge emitted an oversized response"
    else .ok (stripReturn text)
  | .unterminated => .error "IBKR paper bridge emitted an oversized response"
  | .notUtf8 => .error "IBKR paper bridge emitted non-UTF-8 output"
  | .unreadable => .error "IBKR paper bridge output could not be read"
  | .closed => .error "IBKR paper bridge closed its output"

/-- A process: the requests on its input, the lines it has answered them with,
and what its reader has sent. -/
structure ProcessSession where
  written : List BridgeRequest
  answered : List (BridgeRequest × String)
  reading : Bool
  responses : List ReaderMessage

namespace ProcessSession

def fresh : ProcessSession where
  written := []
  answered := []
  reading := true
  responses := []

def hear (maxResponseBytes : Nat) (output : Output)
    (session : ProcessSession) : ProcessSession :=
  if session.reading = true then
    { session with
      reading := (output.message maxResponseBytes).isOk
      responses := session.responses ++ [output.message maxResponseBytes] }
  else session

end ProcessSession

/-! ## The transport -/

inductive TransportEvent where
  | wrote (process : Nat) (request : BridgeRequest)
  | writeFailed (process : Nat) (request : BridgeRequest)
  | timedOut (process : Nat) (request : BridgeRequest)
  | received (process : Nat) (request : BridgeRequest)
      (message : ReaderMessage)
  | returned (process : Nat) (request : BridgeRequest) (value : Json)

/-- The transport and the processes it has started, the last of which is its
session. -/
structure BridgeTransport where
  sessions : Nat → ProcessSession
  (current nextRequestId : Nat)
  healthy : Bool
  waiting : Option BridgeRequest
  trace : List TransportEvent

/-- How the writing of a request ends; one that fails may have been read. -/
inductive WriteOutcome where
  | written
  | failed (delivered : Bool)

def settle (requestId : Nat) : ReaderMessage → Result Json × Bool
  | .error text => (.error ⟨text⟩, false)
  | .ok line =>
    match (Json.read line).bind readResponse with
    | none => (.error ⟨"IBKR paper bridge response is malformed"⟩, false)
    | some response =>
      if response.protocolVersion ≠ 1 ∨
          response.requestId ≠ requestId ∨
          response.ok = response.error.isSome ∨
          response.ok ≠ response.result.isSome then
        (.error ⟨"IBKR paper bridge response does not match the request"⟩, false)
      else
        match response.error, response.result with
        | some error, _ =>
          match validateBridgeText "IBKR paper bridge error" error with
          | .ok () => (.error ⟨error⟩, true)
          | .error _ =>
            (.error ⟨"IBKR paper bridge error response is malformed"⟩, false)
        | none, some result => (.ok result, true)
        | none, none =>
          (.error ⟨"IBKR paper bridge response has no result"⟩, true)

namespace BridgeTransport

def start : BridgeTransport where
  sessions := fun _ => .fresh
  current := 0
  nextRequestId := 1
  healthy := true
  waiting := none
  trace := []

def onSession (process : Nat) (change : ProcessSession → ProcessSession)
    (transport : BridgeTransport) : BridgeTransport :=
  { transport with
    sessions := Function.update transport.sessions process
      (change (transport.sessions process)) }

def log (event : TransportEvent) (transport : BridgeTransport) : BridgeTransport :=
  { transport with trace := transport.trace ++ [event] }

def deliver (request : BridgeRequest) (transport : BridgeTransport) : BridgeTransport :=
  transport.onSession transport.current fun session =>
    { session with written := session.written ++ [request] }

def beginRequest (operation : String) (payload : Json) (outcome : WriteOutcome)
    (transport : BridgeTransport) : Result Unit × BridgeTransport :=
  if transport.healthy = false then
    (.error ⟨"IBKR paper bridge is unhealthy; reconnect is required"⟩, transport)
  else if 2 ^ 64 ≤ transport.nextRequestId + 1 then
    (.error ⟨"IBKR bridge request counter overflowed"⟩, transport)
  else
    let request : BridgeRequest :=
      { requestId := transport.nextRequestId, operation, payload }
    let transport := { transport with nextRequestId := transport.nextRequestId + 1 }
    match outcome with
    | .written =>
      (.ok (),
        { transport.deliver request with
          waiting := some request
          trace := transport.trace ++ [.wrote transport.current request] })
    | .failed delivered =>
      let reached :=
        if delivered = true then transport.deliver request else transport
      (.error ⟨"IBKR paper bridge request outcome is unknown"⟩,
        { reached with
          healthy := false
          trace := transport.trace ++ [.writeFailed transport.current request] })

/-- `request` once a message is there, and `accept_bridge_contract` on its
value. -/
def endRequest (request : BridgeRequest) (message : ReaderMessage)
    (contract : Json → Bool) (transport : BridgeTransport) :
    Result Json × BridgeTransport :=
  let settled := settle request.requestId message
  let transport :=
    (transport.onSession transport.current fun session =>
      { session with responses := session.responses.tail }).log
        (.received transport.current request message)
  match settled.1 with
  | .ok value =>
    (.ok value,
      { transport with
        waiting := none, healthy := transport.healthy && contract value
        trace := transport.trace ++ [.returned transport.current request value] })
  | .error e =>
    (.error e,
      { transport with
        waiting := none, healthy := transport.healthy && settled.2 })

def timeOut (request : BridgeRequest) (transport : BridgeTransport) :
    Result Json × BridgeTransport :=
  (.error ⟨"IBKR paper bridge response timed out; outcome is unknown"⟩,
    { transport with
      waiting := none, healthy := false
      trace := transport.trace ++ [.timedOut transport.current request] })

def restart (started : Bool) (transport : BridgeTransport) :
    Result Unit × BridgeTransport :=
  if started = true then
    (.ok (),
      { transport with
        current := transport.current + 1, nextRequestId := 1, healthy := true })
  else
    (.error ⟨"IBKR paper bridge process could not start"⟩, transport)

end BridgeTransport

/-! ## Answers -/

def BridgeResponse.Matches (requestId : Nat) (response : BridgeResponse) : Prop :=
  response.protocolVersion = 1 ∧ response.requestId = requestId ∧
    response.ok ≠ response.error.isSome ∧ response.ok = response.result.isSome

def BridgeRequest.IsAnswer (request : BridgeRequest) (text : String)
    (response : BridgeResponse) : Prop :=
  (Json.read (stripReturn text)).bind readResponse = some response ∧
    response.Matches request.requestId

def IsBad (requestId : Nat) (message : ReaderMessage) : Prop :=
  ∀ line response, message = .ok line →
    (Json.read line).bind readResponse = some response → ¬response.Matches requestId

def Output.IsNoise (maxResponseBytes : Nat) (output : Output) : Prop :=
  ∀ requestId, IsBad requestId (output.message maxResponseBytes)

/-- A step of the transport or of one of its processes.  A process answers a
request at most once; its reader and it may go on after it was replaced. -/
inductive TransportStep (maxResponseBytes : Nat) :
    BridgeTransport → BridgeTransport → Prop
  | request {transport : BridgeTransport} (operation : String) (payload : Json)
      (outcome : WriteOutcome) (hidle : transport.waiting = none) :
      TransportStep maxResponseBytes transport
        (transport.beginRequest operation payload outcome).2
  | receive {transport : BridgeTransport} (request : BridgeRequest)
      (message : ReaderMessage) (contract : Json → Bool)
      (hwaiting : transport.waiting = some request)
      (hmessage : (transport.sessions transport.current).responses.head? = some message) :
      TransportStep maxResponseBytes transport
        (transport.endRequest request message contract).2
  | timeOut {transport : BridgeTransport} (request : BridgeRequest)
      (hwaiting : transport.waiting = some request) :
      TransportStep maxResponseBytes transport (transport.timeOut request).2
  | restart {transport : BridgeTransport} (started : Bool)
      (hidle : transport.waiting = none)
      (hunhealthy : transport.healthy = false) :
      TransportStep maxResponseBytes transport (transport.restart started).2
  | answer {transport : BridgeTransport} (process : Nat)
      (request : BridgeRequest) (text : String) (response : BridgeResponse)
      (hwritten : request ∈ (transport.sessions process).written)
      (honce : request ∉ (transport.sessions process).answered.map (·.1))
      (hanswer : request.IsAnswer text response) :
      TransportStep maxResponseBytes transport
        (transport.onSession process fun session =>
          { session with
            answered := session.answered ++ [(request, text)] }.hear
              maxResponseBytes (.line text))
  | noise {transport : BridgeTransport} (process : Nat) (output : Output)
      (hstarted : process ≤ transport.current)
      (hnoise : output.IsNoise maxResponseBytes) :
      TransportStep maxResponseBytes transport
        (transport.onSession process (·.hear maxResponseBytes output))

/-! ## What the trace tells -/

namespace TransportEvent

def Writes (process : Nat) : TransportEvent → Prop
  | .wrote written _ => written = process
  | .writeFailed written _ => written = process
  | _ => False

def Breaks (process : Nat) : TransportEvent → Prop
  | .writeFailed broken _ => broken = process
  | .timedOut broken _ => broken = process
  | .received broken request message =>
    broken = process ∧ IsBad request.requestId message
  | _ => False

end TransportEvent

variable {requestId : Nat}

theorem settle_of_isBad {message : ReaderMessage} (h : IsBad requestId message) :
    (settle requestId message).2 = false ∧
      ∃ e, (settle requestId message).1 = .error e := by
  cases message with
  | error text => exact ⟨rfl, _, rfl⟩
  | ok line =>
    unfold settle
    dsimp only
    cases hread : (Json.read line).bind readResponse with
    | none => exact ⟨rfl, _, rfl⟩
    | some response =>
      have hbad := h line response rfl hread
      dsimp only
      rw [if_pos]
      · exact ⟨rfl, _, rfl⟩
      · unfold BridgeResponse.Matches at hbad
        by_contra hno
        simp only [not_or, not_not, ne_eq] at hno
        exact hbad hno

theorem settle_eq_ok {message : ReaderMessage} {value : Json}
    (h : (settle requestId message).1 = .ok value) : ∃ line response, message = .ok line ∧
      (Json.read line).bind readResponse = some response ∧
      response.Matches requestId ∧ response.result = some value := by
  cases message with
  | error text => cases h
  | ok line =>
    unfold settle at h
    dsimp only at h
    cases hread : (Json.read line).bind readResponse with
    | none =>
      rw [hread] at h
      cases h
    | some response =>
      rw [hread] at h
      dsimp only at h
      split at h
      · cases h
      · next hmatches =>
          simp only [not_or, not_not, ne_eq] at hmatches
          cases herror : response.error with
          | some error =>
            rw [herror] at h
            dsimp only at h
            split at h <;> cases h
          | none =>
            cases hresult : response.result with
            | none =>
              rw [herror, hresult] at h
              cases h
            | some result =>
              rw [herror, hresult] at h
              obtain rfl := Except.ok.inj h
              exact ⟨line, response, rfl, hread, hmatches, hresult⟩

/-! ## The invariant -/

namespace BridgeTransport

def IsAnswered (transport : BridgeTransport) (process : Nat)
    (request : BridgeRequest) (value : Json) : Prop :=
  ∃ text response, (request, text) ∈ (transport.sessions process).answered ∧
      request.IsAnswer text response ∧ response.result = some value

def IsHeard (session : ProcessSession) (message : ReaderMessage) : Prop :=
  (∀ requestId, IsBad requestId message) ∨
    ∃ request text, (request, text) ∈ session.answered ∧ message = .ok (stripReturn text)

structure SessionSound (session : ProcessSession) : Prop where
  ids : session.written.Pairwise fun request later =>
    request.requestId < later.requestId
  answers : ∀ request text, (request, text) ∈ session.answered →
    request ∈ session.written ∧ ∃ response, request.IsAnswer text response
  once : (session.answered.map (·.1)).Nodup
  hears : ∀ message ∈ session.responses, IsHeard session message

theorem sessionSound_fresh : SessionSound .fresh where
  ids := List.Pairwise.nil
  answers := by simp [ProcessSession.fresh]
  once := by simp [ProcessSession.fresh]
  hears := by simp [ProcessSession.fresh]

variable {session : ProcessSession} {request : BridgeRequest}
  {maxResponseBytes process : Nat} {transport : BridgeTransport}

theorem SessionSound.deliver (h : SessionSound session)
    (hnew : ∀ earlier ∈ session.written, earlier.requestId < request.requestId) :
    SessionSound { session with written := session.written ++ [request] } where
  ids := by
    rw [pairwise_append]
    refine ⟨h.ids, List.pairwise_singleton _ _, ?_⟩
    intro earlier hearlier later hlater
    rw [mem_singleton] at hlater
    exact hlater ▸ hnew earlier hearlier
  answers := fun earlier text hmem =>
    ⟨mem_append_left _ (h.answers earlier text hmem).1, (h.answers earlier text hmem).2⟩
  once := h.once
  hears := h.hears

theorem SessionSound.hear (h : SessionSound session) {output : Output}
    (hheard : IsHeard session (output.message maxResponseBytes)) :
    SessionSound (session.hear maxResponseBytes output) := by
  unfold ProcessSession.hear
  split
  · refine ⟨h.ids, h.answers, h.once, ?_⟩
    intro message hmessage
    rw [mem_append, mem_singleton] at hmessage
    cases hmessage with
    | inl hold => exact h.hears message hold
    | inr hnew => exact hnew ▸ hheard
  · exact h

theorem SessionSound.answer (h : SessionSound session) {text : String}
    {response : BridgeResponse} (hwritten : request ∈ session.written)
    (honce : request ∉ session.answered.map (·.1))
    (hanswer : request.IsAnswer text response) : SessionSound ({ session with
      answered := session.answered ++ [(request, text)] }.hear
        maxResponseBytes (.line text)) := by
  have hsound : SessionSound
      { session with answered := session.answered ++ [(request, text)] } := by
    refine ⟨h.ids, ?_, ?_, ?_⟩
    · intro other text' hmem
      rw [mem_append, mem_singleton, Prod.mk.injEq] at hmem
      cases hmem with
      | inl hold => exact h.answers other text' hold
      | inr hnew =>
        rw [hnew.1, hnew.2]
        exact ⟨hwritten, response, hanswer⟩
    · rw [map_append, List.nodup_append]
      refine ⟨h.once, List.nodup_singleton _, ?_⟩
      rintro other hother _ hnew rfl
      rw [List.map_singleton, mem_singleton] at hnew
      change other = request at hnew
      rw [hnew] at hother
      exact honce hother
    · intro message hmessage
      cases h.hears message hmessage with
      | inl hnoise => exact .inl hnoise
      | inr hold =>
        obtain ⟨other, text', hmem, hline⟩ := hold
        exact .inr ⟨other, text', mem_append_left _ hmem, hline⟩
  apply hsound.hear
  by_cases hlong : maxResponseBytes < text.utf8ByteSize + 1
  · left
    intro requestId line response' hsame
    simp [Output.message, hlong] at hsame
  · right
    exact ⟨request, text, by simp, by simp [Output.message, hlong]⟩

theorem SessionSound.take (h : SessionSound session) :
    SessionSound { session with responses := session.responses.tail } where
  ids := h.ids
  answers := h.answers
  once := h.once
  hears := fun message hmessage =>
    h.hears message (List.mem_of_mem_tail hmessage)

theorem SessionSound.eq_of_answered (h : SessionSound session)
    {text text' : String} (hmem : (request, text) ∈ session.answered)
    (hmem' : (request, text') ∈ session.answered) : text = text' := by
  have hsame := List.inj_on_of_nodup_map h.once hmem hmem' rfl
  exact (Prod.mk.inj hsame).2

theorem SessionSound.eq_of_requestId (h : SessionSound session)
    {request' : BridgeRequest} (hmem : request ∈ session.written)
    (hmem' : request' ∈ session.written)
    (hsame : request.requestId = request'.requestId) : request = request' := by
  have hnodup : (session.written.map (·.requestId)).Nodup :=
    pairwise_map.mpr (h.ids.imp Nat.ne_of_lt)
  exact List.inj_on_of_nodup_map hnodup hmem hmem' hsame

theorem SessionSound.settled (h : SessionSound session)
    {message : ReaderMessage} {value : Json} (hwritten : request ∈ session.written)
    (hmessage : message ∈ session.responses)
    (hvalue : (settle request.requestId message).1 = .ok value) :
    ∃ text response, (request, text) ∈ session.answered ∧
      request.IsAnswer text response ∧ response.result = some value := by
  obtain ⟨line, response, rfl, hread, hmatches, hresult⟩ :=
    settle_eq_ok hvalue
  cases h.hears _ hmessage with
  | inl hnoise => exact absurd hmatches (hnoise _ line response rfl hread)
  | inr hheard =>
    obtain ⟨other, text, hmem, hline⟩ := hheard
    obtain ⟨hother, response', hread', hmatches'⟩ :=
      h.answers other text hmem
    rw [← Except.ok.inj hline, hread] at hread'
    obtain rfl := Option.some.inj hread'
    have hids : other.requestId = request.requestId := by
      have hfirst := hmatches'.2.1
      rw [hmatches.2.1] at hfirst
      exact (Int.ofNat.inj hfirst).symm
    have hsame := h.eq_of_requestId hother hwritten hids
    subst hsame
    refine ⟨text, response, hmem, ⟨?_, hmatches⟩, hresult⟩
    rw [← Except.ok.inj hline]
    exact hread

structure Sound (transport : BridgeTransport) : Prop where
  sessions : ∀ process, SessionSound (transport.sessions process)
  below : ∀ request ∈ (transport.sessions transport.current).written,
    request.requestId < transport.nextRequestId
  unstarted : ∀ process, transport.current < process → transport.sessions process = .fresh
  waits : ∀ request, transport.waiting = some request →
    request ∈ (transport.sessions transport.current).written ∧
      .wrote transport.current request ∈ transport.trace
  ready : ∀ request, transport.waiting = some request → transport.healthy = true
  writes : ∀ process request, .wrote process request ∈ transport.trace →
    request ∈ (transport.sessions process).written
  returns : ∀ process request value,
    .returned process request value ∈ transport.trace →
      .wrote process request ∈ transport.trace ∧
        transport.IsAnswered process request value
  broken : ∀ process, ∀ event ∈ transport.trace, event.Breaks process →
    process ≤ transport.current ∧
      (process = transport.current → transport.healthy = false)
  silent : transport.trace.Pairwise fun event later =>
    ∀ process, event.Breaks process → ¬later.Writes process

theorem sound_start : Sound .start where
  sessions := fun _ => sessionSound_fresh
  below := by simp [start, ProcessSession.fresh]
  unstarted := fun _ _ => rfl
  waits := by simp [start]
  ready := by simp [start]
  writes := by simp [start]
  returns := by simp [start]
  broken := by simp [start]
  silent := List.Pairwise.nil

theorem onSession_self (transport : BridgeTransport) (process : Nat)
    (change : ProcessSession → ProcessSession) :
    (transport.onSession process change).sessions process
      = change (transport.sessions process) := by
  simp [onSession]

theorem onSession_of_ne (transport : BridgeTransport) {other : Nat}
    (hne : other ≠ process) (change : ProcessSession → ProcessSession) :
    (transport.onSession process change).sessions other
      = transport.sessions other := by
  simp [onSession, Function.update_of_ne hne]

theorem Sound.onSession (h : Sound transport) {change : ProcessSession → ProcessSession}
    (hstarted : process ≤ transport.current)
    (hsound : SessionSound (change (transport.sessions process)))
    (hwritten : (change (transport.sessions process)).written
      = (transport.sessions process).written)
    (hanswered : (transport.sessions process).answered
      ⊆ (change (transport.sessions process)).answered) :
    Sound (transport.onSession process change) := by
  have hsame : ∀ other,
      ((transport.onSession process change).sessions other).written
        = (transport.sessions other).written := by
    intro other
    by_cases heq : other = process
    · rw [heq, onSession_self, hwritten]
    · rw [onSession_of_ne _ heq]
  have hmore : ∀ other, (transport.sessions other).answered
      ⊆ ((transport.onSession process change).sessions other).answered := by
    intro other
    by_cases heq : other = process
    · rw [heq, onSession_self]
      exact hanswered
    · rw [onSession_of_ne _ heq]
      exact fun _ hmem => hmem
  refine
    { sessions := ?_
      below := by
        intro request hmem
        exact h.below request (hsame _ ▸ hmem)
      unstarted := ?_
      waits := fun request hwaiting =>
        ⟨(hsame _).symm ▸ (h.waits request hwaiting).1, (h.waits request hwaiting).2⟩
      ready := h.ready
      writes := fun other request hmem =>
        (hsame other).symm ▸ h.writes other request hmem
      returns := ?_
      broken := h.broken
      silent := h.silent }
  · intro other
    by_cases heq : other = process
    · rw [heq, onSession_self]
      exact hsound
    · rw [onSession_of_ne _ heq]
      exact h.sessions other
  · intro other hother
    have hne : other ≠ process := Nat.ne_of_gt (Nat.lt_of_le_of_lt hstarted hother)
    rw [onSession_of_ne _ hne]
    exact h.unstarted other hother
  · intro other request value hmem
    obtain ⟨hwrote, text, response, hin, hanswer⟩ :=
      h.returns other request value hmem
    exact ⟨hwrote, text, response, hmore other hin, hanswer⟩

theorem Sound.append (h : Sound transport)
    (hhealthy : transport.healthy = true) {events : List TransportEvent}
    {healthy : Bool} {waiting : Option BridgeRequest}
    (hwaits : ∀ request, waiting = some request →
      (request ∈ (transport.sessions transport.current).written ∧
        .wrote transport.current request ∈ transport.trace ++ events) ∧
      healthy = true) (hwrites : ∀ process request, .wrote process request ∈ events →
      request ∈ (transport.sessions process).written) (hreturns : ∀ process request value,
      .returned process request value ∈ events →
        .wrote process request ∈ transport.trace ∧
          transport.IsAnswered process request value)
    (hhere : ∀ event ∈ events, ∀ process, event.Writes process →
      process = transport.current)
    (hbroken : ∀ event ∈ events, ∀ process, event.Breaks process →
      process = transport.current ∧ healthy = false)
    (hsilent : events.Pairwise fun event later =>
      ∀ process, event.Breaks process → ¬later.Writes process) : Sound
      { transport with
        waiting := waiting, healthy := healthy
        trace := transport.trace ++ events } := by
  have hlive : ∀ event ∈ transport.trace,
      ¬event.Breaks transport.current := by
    intro event hmem hbreaks
    have hsick := (h.broken _ event hmem hbreaks).2 rfl
    simp [hhealthy] at hsick
  refine
    { sessions := h.sessions, below := h.below, unstarted := h.unstarted
      waits := fun request hwaiting => (hwaits request hwaiting).1
      ready := fun request hwaiting => (hwaits request hwaiting).2
      writes := ?_
      returns := ?_
      broken := ?_
      silent := ?_ }
  · intro process request hmem
    cases mem_append.mp hmem with
    | inl hold => exact h.writes process request hold
    | inr hnew => exact hwrites process request hnew
  · intro process request value hmem
    have hreturned : .wrote process request ∈ transport.trace ∧
        transport.IsAnswered process request value := by
      cases mem_append.mp hmem with
      | inl hold => exact h.returns process request value hold
      | inr hnew => exact hreturns process request value hnew
    exact ⟨mem_append_left _ hreturned.1, hreturned.2⟩
  · intro process event hmem hbreaks
    cases mem_append.mp hmem with
    | inl hold =>
      refine ⟨(h.broken process event hold hbreaks).1, ?_⟩
      intro hsame
      subst hsame
      exact absurd hbreaks (hlive event hold)
    | inr hnew =>
      have hnow := hbroken event hnew process hbreaks
      exact ⟨Nat.le_of_eq hnow.1, fun _ => hnow.2⟩
  · rw [pairwise_append]
    refine ⟨h.silent, hsilent, ?_⟩
    intro event hmem later hlater process hbreaks hwritten
    rw [hhere later hlater process hwritten] at hbreaks
    exact hlive event hmem hbreaks

theorem Sound.count (h : Sound transport) : Sound
      { transport with nextRequestId := transport.nextRequestId + 1 } :=
  { h with
    below := fun request hmem => Nat.lt_succ_of_lt (h.below request hmem)
    returns := h.returns }

theorem Sound.deliver (h : Sound transport) (hidle : transport.waiting = none)
    (hid : request.requestId = transport.nextRequestId) : Sound
      { transport.deliver request with
        nextRequestId := transport.nextRequestId + 1 } := by
  have hcurrent : (transport.deliver request).sessions transport.current
      = { transport.sessions transport.current with
          written := (transport.sessions transport.current).written ++ [request] } :=
    onSession_self transport transport.current _
  have hother : ∀ process, process ≠ transport.current →
      (transport.deliver request).sessions process = transport.sessions process :=
    fun process hne => onSession_of_ne transport hne _
  have hmore : ∀ process, (transport.sessions process).written
      ⊆ ((transport.deliver request).sessions process).written := by
    intro process
    by_cases heq : process = transport.current
    · rw [heq, hcurrent]
      exact List.subset_append_left _ _
    · rw [hother process heq]
      exact fun _ hmem => hmem
  have hsame : ∀ process,
      ((transport.deliver request).sessions process).answered
        = (transport.sessions process).answered := by
    intro process
    by_cases heq : process = transport.current
    · rw [heq, hcurrent]
    · rw [hother process heq]
  have hnone : ∀ {waiting : BridgeRequest},
      transport.waiting ≠ some waiting := by
    simp [hidle]
  refine
    { sessions := ?_, below := ?_, unstarted := ?_
      waits := fun _ hwaiting => absurd hwaiting hnone
      ready := fun _ hwaiting => absurd hwaiting hnone
      writes := fun process earlier hmem =>
        hmore process (h.writes process earlier hmem)
      returns := ?_
      broken := h.broken
      silent := h.silent }
  · intro process
    by_cases heq : process = transport.current
    · rw [heq]
      change SessionSound
        ((transport.deliver request).sessions transport.current)
      rw [hcurrent]
      apply (h.sessions _).deliver
      intro earlier hmem
      rw [hid]
      exact h.below earlier hmem
    · change SessionSound ((transport.deliver request).sessions process)
      rw [hother process heq]
      exact h.sessions process
  · intro later hmem
    change later ∈
      ((transport.deliver request).sessions transport.current).written at hmem
    rw [hcurrent, mem_append, mem_singleton] at hmem
    change later.requestId < transport.nextRequestId + 1
    cases hmem with
    | inl hold => exact Nat.lt_succ_of_lt (h.below later hold)
    | inr hnew => simp [hnew, hid]
  · intro process hlater
    change (transport.deliver request).sessions process = _
    rw [hother process (Nat.ne_of_gt hlater)]
    exact h.unstarted process hlater
  · intro process earlier value hmem
    obtain ⟨hwrote, text, response, hin, hanswer⟩ :=
      h.returns process earlier value hmem
    exact ⟨hwrote, text, response, (hsame process).symm ▸ hin, hanswer⟩

theorem Sound.fail (h : Sound transport) (hidle : transport.waiting = none)
    (hhealthy : transport.healthy = true) (request : BridgeRequest) : Sound
      { transport with
        healthy := false
        trace := transport.trace ++
          [.writeFailed transport.current request] } := by
  have hnone : transport = { transport with waiting := none } := by
    rw [← hidle]
  rw [hnone]
  apply h.append hhealthy
  · simp
  · simp
  · simp
  · simp [TransportEvent.Writes]
  · simp [TransportEvent.Breaks]
  · simp

theorem Sound.beginRequest (h : Sound transport)
    (hidle : transport.waiting = none) (operation : String) (payload : Json)
    (outcome : WriteOutcome) :
    Sound (transport.beginRequest operation payload outcome).2 := by
  unfold BridgeTransport.beginRequest
  split
  · exact h
  · next hsick =>
      have hhealthy : transport.healthy = true := by
        simpa using hsick
      split
      · exact h
      · cases outcome with
        | written =>
          apply (h.deliver hidle rfl).append hhealthy
          · intro request hrequest
            obtain rfl := Option.some.inj hrequest
            refine ⟨⟨?_, ?_⟩, hhealthy⟩
            · simp [BridgeTransport.deliver, BridgeTransport.onSession]
            · simp [BridgeTransport.deliver, BridgeTransport.onSession]
          · intro process request hmem
            simp only [mem_singleton, TransportEvent.wrote.injEq] at hmem
            obtain ⟨rfl, rfl⟩ := hmem
            simp [BridgeTransport.deliver, BridgeTransport.onSession]
          · simp
          · simp [TransportEvent.Writes, BridgeTransport.deliver,
              BridgeTransport.onSession]
          · simp [TransportEvent.Breaks]
          · simp
        | failed delivered =>
          cases delivered with
          | true => exact (h.deliver hidle rfl).fail hidle hhealthy _
          | false => exact h.count.fail hidle hhealthy _

theorem Sound.receive (h : Sound transport)
    (hhealthy : transport.healthy = true) {message : ReaderMessage}
    (hgood : ¬IsBad request.requestId message) :
    Sound (transport.log (.received transport.current request message)) := by
  apply h.append hhealthy
  · intro waiting hwaiting
    have hwaits := h.waits waiting hwaiting
    exact ⟨⟨hwaits.1, mem_append_left _ hwaits.2⟩, hhealthy⟩
  · simp
  · simp
  · simp [TransportEvent.Writes]
  · intro event hevent process hbreaks
    rw [mem_singleton] at hevent
    subst hevent
    exact absurd hbreaks.2 hgood
  · simp

theorem Sound.endRequest (h : Sound transport) {message : ReaderMessage}
    (hwaiting : transport.waiting = some request)
    (hmessage : (transport.sessions transport.current).responses.head?
      = some message) (contract : Json → Bool) :
    Sound (transport.endRequest request message contract).2 := by
  have hhealthy := h.ready request hwaiting
  have hmem : message ∈ (transport.sessions transport.current).responses :=
    List.mem_of_mem_head? hmessage
  have htaken : Sound (transport.onSession transport.current fun session =>
      { session with responses := session.responses.tail }) :=
    h.onSession (Nat.le_refl _) (h.sessions transport.current).take rfl
      fun _ hin => hin
  unfold BridgeTransport.endRequest
  dsimp only
  split
  · next value hvalue =>
      have hgood : ¬IsBad request.requestId message := by
        intro hbad
        obtain ⟨-, e, herror⟩ := settle_of_isBad hbad
        rw [hvalue] at herror
        cases herror
      have hreceived := htaken.receive hhealthy hgood
      have hwaits := hreceived.waits request hwaiting
      apply hreceived.append hhealthy
      · simp
      · simp
      · intro process request' value' hevent
        simp only [mem_singleton, TransportEvent.returned.injEq] at hevent
        obtain ⟨rfl, rfl, rfl⟩ := hevent
        refine ⟨hwaits.2, ?_⟩
        obtain ⟨text, response, hin, hanswer⟩ :=
          (h.sessions transport.current).settled (h.waits request' hwaiting).1
            hmem hvalue
        refine ⟨text, response, ?_, hanswer⟩
        simpa [log, BridgeTransport.onSession] using hin
      · simp [TransportEvent.Writes]
      · simp [TransportEvent.Breaks]
      · simp
  · apply htaken.append hhealthy
    · simp
    · simp
    · simp
    · simp [TransportEvent.Writes]
    · intro event hevent process hbreaks
      rw [mem_singleton] at hevent
      subst hevent
      refine ⟨hbreaks.1.symm, ?_⟩
      rw [(settle_of_isBad hbreaks.2).1, Bool.and_false]
    · simp

theorem Sound.timeOut (h : Sound transport)
    (hwaiting : transport.waiting = some request) :
    Sound (transport.timeOut request).2 := by
  apply h.append (h.ready request hwaiting)
  · simp
  · simp
  · simp
  · simp [TransportEvent.Writes]
  · simp [TransportEvent.Breaks]
  · simp

theorem Sound.restart (h : Sound transport) (hidle : transport.waiting = none)
    (started : Bool) : Sound (transport.restart started).2 := by
  unfold BridgeTransport.restart
  split
  · have hfresh : transport.sessions (transport.current + 1) = .fresh :=
      h.unstarted _ (Nat.lt_succ_self _)
    exact
      { sessions := h.sessions
        below := by simp [hfresh, ProcessSession.fresh]
        unstarted := fun process hlater =>
          h.unstarted process (Nat.lt_of_succ_lt hlater)
        waits := by simp [hidle]
        ready := by simp
        writes := h.writes
        returns := h.returns
        broken := by
          intro process event hmem hbreaks
          have hbefore := (h.broken process event hmem hbreaks).1
          refine ⟨Nat.le_succ_of_le hbefore, ?_⟩
          intro hsame
          exact absurd hsame (Nat.ne_of_lt (Nat.lt_succ_of_le hbefore))
        silent := h.silent }
  · exact h

theorem Sound.started (h : Sound transport)
    (hwritten : request ∈ (transport.sessions process).written) :
    process ≤ transport.current := by
  by_contra hlater
  rw [h.unstarted process (Nat.lt_of_not_le hlater)] at hwritten
  simp [ProcessSession.fresh] at hwritten

theorem Sound.step {next : BridgeTransport} (h : Sound transport)
    (hstep : TransportStep maxResponseBytes transport next) : Sound next := by
  cases hstep with
  | request operation payload outcome hidle =>
    exact h.beginRequest hidle operation payload outcome
  | receive request message contract hwaiting hmessage =>
    exact h.endRequest hwaiting hmessage contract
  | timeOut request hwaiting => exact h.timeOut hwaiting
  | restart started hidle hunhealthy => exact h.restart hidle started
  | answer process request text response hwritten honce hanswer =>
    apply h.onSession (h.started hwritten)
    · exact (h.sessions process).answer hwritten honce hanswer
    · unfold ProcessSession.hear
      split <;> rfl
    · unfold ProcessSession.hear
      split <;> simp
  | noise process output hstarted hnoise =>
    apply h.onSession hstarted
    · exact (h.sessions process).hear (.inl hnoise)
    · unfold ProcessSession.hear
      split <;> rfl
    · unfold ProcessSession.hear
      split <;> simp

abbrev IsReached (maxResponseBytes : Nat) (transport : BridgeTransport) : Prop :=
  Reachable (· = start) (TransportStep maxResponseBytes) transport

theorem IsReached.sound (h : IsReached maxResponseBytes transport) : Sound transport := by
  refine Reachable.invariant ?_ ?_ h
  · rintro _ rfl
    exact sound_start
  · intro _ _ _ hsound hstep
    exact hsound.step hstep

/-- In every run, a value the transport returns for a request is the one
answer its process gave to that request, and a process is written to no more
once a write failed, the time was over, its output ended or a line was bad. -/
theorem answers_attributed {maxResponseBytes : Nat}
    {transport : BridgeTransport} (h : IsReached maxResponseBytes transport) :
    (∀ process request value,
      .returned process request value ∈ transport.trace →
        .wrote process request ∈ transport.trace ∧ ∃ text response,
            (∀ text', (request, text')
              ∈ (transport.sessions process).answered ↔ text' = text) ∧
            request.IsAnswer text response ∧
            response.result = some value) ∧
      transport.trace.Pairwise fun event later =>
        ∀ process, event.Breaks process → ¬later.Writes process := by
  have hsound := h.sound
  refine ⟨?_, hsound.silent⟩
  intro process request value hmem
  obtain ⟨hwrote, text, response, hin, hanswer, hvalue⟩ :=
    hsound.returns process request value hmem
  refine ⟨hwrote, text, response, ?_, hanswer, hvalue⟩
  intro text'
  constructor
  · intro hin'
    exact (hsound.sessions process).eq_of_answered hin' hin
  · rintro rfl
    exact hin

namespace RequestRun

def reconnect : BridgeRequest where
  requestId := 1
  operation := "reconnect"
  payload := .obj []

def written : BridgeTransport := (start.beginRequest "reconnect" (.obj []) .written).2

def line : String := responseLine 1 (.obj [])

def answered : BridgeTransport :=
  written.onSession 0 fun session =>
    { session with answered := session.answered ++ [(reconnect, line)] }.hear
      1024 (.line line)

def returned : BridgeTransport :=
  (answered.endRequest reconnect (.ok line) fun _ => true).2

theorem returned_reached : IsReached 1024 returned := by
  have hwritten : IsReached 1024 written := .step (.init rfl) (.request _ _ _ rfl)
  have hanswered : IsReached 1024 answered := by
    refine hwritten.step (.answer 0 reconnect line
      ⟨1, 1, true, some (.obj []), none⟩ ?_ ?_ ?_)
    · exact List.mem_singleton_self _
    · exact not_mem_nil
    · exact ⟨rfl, rfl, rfl, nofun, rfl⟩
  exact hanswered.step (.receive reconnect (.ok line) _ rfl rfl)

theorem attributed : IsReached 1024 returned ∧
      .returned 0 reconnect (.obj []) ∈ returned.trace ∧
      (∀ process request value,
        .returned process request value ∈ returned.trace →
          .wrote process request ∈ returned.trace ∧ ∃ text response,
              (∀ text', (request, text')
                ∈ (returned.sessions process).answered ↔ text' = text) ∧
              request.IsAnswer text response ∧
              response.result = some value) ∧
      returned.trace.Pairwise fun event later =>
        ∀ process, event.Breaks process → ¬later.Writes process :=
  ⟨returned_reached, by
    exact mem_cons_of_mem _ (mem_cons_of_mem _
      (List.mem_singleton_self _)), answers_attributed returned_reached⟩

end RequestRun

end BridgeTransport

end Follon.Ibkr
