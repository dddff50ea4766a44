import Mathlib.Data.List.Induction
import Mathlib.Logic.Relation

/-!
# Runs of a transition system

The states a system reaches from its initial states, and the rule that carries
a property from one step to a whole run.
-/

namespace Follon.Foundation

variable {σ : Type}

/-- The states reached from `init` by `step`. -/
inductive Reachable (init : σ → Prop) (step : σ → σ → Prop) : σ → Prop
  | init {s : σ} (h : init s) : Reachable init step s
  | step {s t : σ} (h : Reachable init step s) (hstep : step s t) :
      Reachable init step t

namespace Reachable

variable {init : σ → Prop} {step : σ → σ → Prop} {P : σ → Prop}

variable {s : σ}

/-- A property of the initial states that every step from a reachable state
keeps holds of every reachable state. -/
theorem invariant (hinit : ∀ s, init s → P s)
    (hstep : ∀ s t, Reachable init step s → P s → step s t → P t)
    (hs : Reachable init step s) : P s := by
  induction hs with
  | init h => exact hinit _ h
  | step h hst ih => exact hstep _ _ h ih hst

theorem mono {step' : σ → σ → Prop} (h : ∀ s t, step s t → step' s t)
    (hs : Reachable init step s) : Reachable init step' s := by
  induction hs with
  | init h => exact .init h
  | step _ hst ih => exact .step ih (h _ _ hst)

end Reachable

abbrev Runs (step : σ → σ → Prop) : σ → σ → Prop :=
  Relation.ReflTransGen step

theorem Runs.keeps {step : σ → σ → Prop} {P : σ → Prop}
    (hstep : ∀ s t, P s → step s t → P t) {s t : σ} (hrun : Runs step s t)
    (hs : P s) : P t := by
  induction hrun with
  | refl => exact hs
  | tail _ hst ih => exact hstep _ _ ih hst

end Follon.Foundation

/-!
## What has happened in a run and still stands

A run feeds a list of inputs to a deterministic step.  `Since step start P Q`
says that one of them met `P` in the state it was fed to, and that none after
it met `Q`.
-/

namespace Follon.Foundation

variable {σ α : Type} {step : σ → α → σ} {start : σ} {P Q : σ → α → Prop}

def Since (step : σ → α → σ) (start : σ) (P Q : σ → α → Prop) (inputs : List α) : Prop :=
  ∃ before input after, inputs = before ++ input :: after ∧
    P (before.foldl step start) input ∧
    ∀ earlier later input', after = earlier ++ input' :: later →
      ¬Q ((before ++ input :: earlier).foldl step start) input'

theorem not_since_nil : ¬Since step start P Q [] := by
  rintro ⟨before, input, after, h, -⟩
  simp at h

variable {inputs : List α}

/-- One more input: it meets `P` itself, or it leaves standing what did. -/
theorem since_snoc {input : α} :
    Since step start P Q (inputs ++ [input]) ↔ P (inputs.foldl step start) input ∨
        (Since step start P Q inputs ∧
          ¬Q (inputs.foldl step start) input) := by
  constructor
  · rintro ⟨before, first, after, hsplit, hP, hQ⟩
    cases after using List.reverseRec with
    | nil =>
      obtain ⟨rfl, hlast⟩ := List.append_inj' hsplit rfl
      obtain rfl := List.head_eq_of_cons_eq hlast
      exact .inl hP
    | append_singleton after last =>
      have hinit : inputs ++ [input] = (before ++ first :: after) ++ [last] := by
        simpa using hsplit
      obtain ⟨rfl, hlast⟩ := List.append_inj' hinit rfl
      obtain rfl := List.head_eq_of_cons_eq hlast
      refine .inr ⟨⟨before, first, after, rfl, hP, ?_⟩, hQ after [] input rfl⟩
      rintro earlier later input' rfl
      exact hQ earlier (later ++ [input]) input' (by simp)
  · rintro (hP | ⟨⟨before, first, after, rfl, hP, hQ⟩, hlast⟩)
    · exact ⟨inputs, input, [], rfl, hP, by simp⟩
    · refine ⟨before, first, after ++ [input], by simp, hP, ?_⟩
      intro earlier later input' hsplit
      cases later using List.reverseRec with
      | nil =>
        obtain ⟨rfl, hsame⟩ := List.append_inj' hsplit rfl
        obtain rfl := List.head_eq_of_cons_eq hsame
        exact hlast
      | append_singleton later last =>
        have hinit : after ++ [input]
            = (earlier ++ input' :: later) ++ [last] := by
          simpa using hsplit
        exact hQ earlier later input' (List.append_inj' hinit rfl).1

theorem Since.imp {P' : σ → α → Prop} (h : Since step start P Q inputs)
    (himp : ∀ s a, P s a → P' s a) : Since step start P' Q inputs := by
  obtain ⟨before, input, after, hsplit, hP, hQ⟩ := h
  exact ⟨before, input, after, hsplit, himp _ _ hP, hQ⟩

theorem Since.exists (h : Since step start P Q inputs) :
    ∃ before input after, inputs = before ++ input :: after ∧
      P (before.foldl step start) input := by
  obtain ⟨before, input, after, hsplit, hP, -⟩ := h
  exact ⟨before, input, after, hsplit, hP⟩

end Follon.Foundation
