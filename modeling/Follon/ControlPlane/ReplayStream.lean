import Follon.ControlPlane.ReplaySteps

/-!
# The order of a replay stream

Event identities are numbered, times never go back, and every cause precedes
its effect: facts about each emission, carried to every run.
-/

namespace Follon.ControlPlane

open Foundation Domain

namespace ReplayEngine

def eventNumber (eventId : String) : Nat := digitsValue (eventId.toList.drop 4)

@[simp] theorem eventNumber_eventIdFor (sequence : Nat) :
    eventNumber (eventIdFor sequence) = sequence := by
  have hlist : (eventIdFor sequence).toList
      = ['e', 'v', 't', '-'] ++ zeroPadded 12 sequence := by
    simp only [eventIdFor, padded, toList_append, toList_ofList]
    rfl
  rw [eventNumber, hlist, digitsValue]
  exact ofDigitChars_zeroPadded 12 sequence

end ReplayEngine

open ReplayEngine

def Causal (stream : List EventEnvelope) : Prop :=
  ∀ before event after, stream = before ++ event :: after →
    ∀ cause ∈ event.causationId, cause ∈ before.map EventEnvelope.eventId

theorem Causal.append {stream : List EventEnvelope} {event : EventEnvelope}
    (h : Causal stream) (hcause : ∀ cause ∈ event.causationId,
      cause ∈ stream.map EventEnvelope.eventId) : Causal (stream ++ [event]) := by
  intro before event' after heq
  rcases List.eq_nil_or_concat after with rfl | ⟨after', last, rfl⟩
  · obtain ⟨rfl, hlast⟩ := List.append_inj' heq rfl
    obtain rfl := (List.cons.inj hlast).1
    exact hcause
  · rw [List.concat_eq_append, ← cons_append, ← append_assoc] at heq
    exact h before event' after' (List.append_inj' heq rfl).1

structure InOrder (stream : List EventEnvelope) : Prop where
  causal : Causal stream
  numbered : stream.Pairwise fun earlier later =>
    eventNumber earlier.eventId < eventNumber later.eventId
  received : stream.Pairwise fun earlier later =>
    earlier.receiveTime ≤ later.receiveTime
  timed : ∀ event ∈ stream, event.payload.isNews = false →
    event.eventTime = event.receiveTime

namespace Replay

variable {K S : Type}

structure UpToDate (s : Replay K S) : Prop where
  inOrder : InOrder s.stream
  counted : ∀ event ∈ s.stream, eventNumber event.eventId ≤ s.engine.sequence
  clocked : ∀ event ∈ s.stream, event.receiveTime ≤ s.engine.clock

theorem UpToDate.accept {s : Replay K S} {event : EventEnvelope} {sink : K}
    (h : UpToDate s) (hissues : Issues s event) :
    UpToDate (s.counted.accept event sink) where
  inOrder :=
    { causal := h.inOrder.causal.append hissues.cause
      numbered := by
        refine pairwise_append.mpr ?_
        refine ⟨h.inOrder.numbered, List.pairwise_singleton _ _, ?_⟩
        intro earlier hearlier later hlater
        rw [mem_singleton.mp hlater, hissues.id, eventNumber_eventIdFor]
        exact Nat.lt_succ_of_le (h.counted earlier hearlier)
      received := by
        refine pairwise_append.mpr ?_
        refine ⟨h.inOrder.received, List.pairwise_singleton _ _, ?_⟩
        intro earlier hearlier later hlater
        rw [mem_singleton.mp hlater, hissues.received]
        exact h.clocked earlier hearlier
      timed := by
        intro event' hmem hnews
        rcases mem_append.mp hmem with hmem | hmem
        · exact h.inOrder.timed event' hmem hnews
        · rw [mem_singleton.mp hmem] at hnews ⊢
          rw [hissues.time hnews, hissues.received] }
  counted := by
    intro event' hmem
    rcases mem_append.mp hmem with hmem | hmem
    · exact Nat.le_succ_of_le (h.counted event' hmem)
    · rw [mem_singleton.mp hmem, hissues.id, eventNumber_eventIdFor]
      exact Nat.le_refl _
  clocked := by
    intro event' hmem
    rcases mem_append.mp hmem with hmem | hmem
    · exact h.clocked event' hmem
    · rw [mem_singleton.mp hmem, hissues.received]
      exact String.le_refl _

theorem UpToDate.later {s t : Replay K S} (h : UpToDate s)
    (hstream : t.stream = s.stream) (hsequence : s.engine.sequence ≤ t.engine.sequence)
    (hclock : s.engine.clock ≤ t.engine.clock) : UpToDate t where
  inOrder := hstream ▸ h.inOrder
  counted := by
    rw [hstream]
    exact fun event hmem => (h.counted event hmem).trans hsequence
  clocked := by
    rw [hstream]
    exact fun event hmem => String.le_trans (h.clocked event hmem) hclock

variable [EventSink K]

theorem UpToDate.move {phase : Phase} {b c : Bench K S}
    (hmove : Move phase b c) (h : UpToDate b.2) : UpToDate c.2 := by
  cases hmove with
  | quiet hsame =>
    exact h.later rfl (Nat.le_of_eq hsame.sequence.symm)
      (hsame.clock ▸ String.le_refl _)
  | advanced htime => exact h.later rfl (Nat.le_refl _) htime
  | refused => exact h.later rfl (Nat.le_succ _) (String.le_refl _)
  | emitted hissues => exact h.accept hissues
  | moved hissues => exact h.accept hissues
  | filled _ hissues => exact h.accept hissues
  | @created s intent reason event sink _ hissues =>
    have haccepted : UpToDate (s.counted.accept event sink) := h.accept hissues
    exact haccepted.later rfl (Nat.le_refl _) (String.le_refl _)
  | _ => exact h.later rfl (Nat.le_refl _) (String.le_refl _)

variable [Strategy S]

theorem Replayed.upToDate {s : Replay K S} (hs : Replayed s) : UpToDate s := by
  refine Replayed.keeps (I := fun b => UpToDate b.2) ?_ (fun _ _ h => h)
    (fun _ _ h hmove => h.move hmove) hs
  intro s hs
  obtain ⟨-, hstream, -⟩ := hs
  have hnil : ∀ event, event ∉ s.stream := by simp [hstream]
  refine ⟨⟨?_, ?_, ?_, fun event hmem => absurd hmem (hnil event)⟩,
    fun event hmem => absurd hmem (hnil event),
    fun event hmem => absurd hmem (hnil event)⟩
  · intro before event after heq
    rw [hstream] at heq
    exact absurd heq (by simp)
  · rw [hstream]
    exact .nil
  · rw [hstream]
    exact .nil

end Replay

end Follon.ControlPlane
