import Follon.Foundation.Fallible

/-!
# What a refused computation leaves

When a failing run leaves the state it started from, worked out step by step:
as long as nothing is written every failure does, and once a part is written
that the rest keeps, none does.
-/

namespace Follon.Foundation.Fallible

variable {σ τ ε α β : Type}

def Fits (result : Except ε α) : Prop := ∃ a, result = .ok a

def Restores (s : σ) (x : Fallible σ ε α) (t : σ) : Prop :=
  ∀ e s', x.run t = (.error e, s') → s' = s

def Returns (x : Fallible σ ε α) (s : σ) : Prop := ∃ a s', x.run s = (.ok a, s')

theorem not_fits_error (e : ε) : ¬Fits (.error e : Except ε α) := by
  rintro ⟨a, h⟩
  cases h

theorem bind_bind {γ : Type} (x : Fallible σ ε α) (f : α → Fallible σ ε β)
    (g : β → Fallible σ ε γ) : (x >>= f) >>= g = x >>= fun a => f a >>= g := by
  funext s
  change Fallible.run ((x >>= f) >>= g) s = Fallible.run (x >>= _) s
  rw [run_bind, run_bind, run_bind]
  cases x.run s with
  | mk result s' =>
    cases result with
    | ok a => rfl
    | error e => rfl

/-! ## Failures that leave a state -/

@[simp] theorem restores_pure (s t : σ) (a : α) :
    Restores s (pure a : Fallible σ ε α) t := by
  simp [Restores]

@[simp] theorem restores_update (s t : σ) (g : σ → σ) :
    Restores s (update g : Fallible σ ε Unit) t := by
  simp [Restores]

@[simp] theorem restores_read_bind (s t : σ) (f : σ → Fallible σ ε β) :
    Restores s (read >>= f) t ↔ Restores s (f t) t :=
  Iff.rfl

@[simp] theorem restores_update_bind (s t : σ) (g : σ → σ) (f : Unit → Fallible σ ε β) :
    Restores s (update g >>= f) t ↔ Restores s (f ()) (g t) :=
  Iff.rfl

variable {s t : σ} {x : Fallible σ ε α} {f : α → Fallible σ ε β}
  {result : Except ε α}

theorem restores_bind : Restores s (x >>= f) t ↔ Restores s x t ∧
        ∀ a t', x.run t = (.ok a, t') → Restores s (f a) t' := by
  unfold Restores
  simp only [run_bind_eq_error]
  constructor
  · intro h
    exact ⟨fun e s' hx => h e s' (.inl hx),
      fun a t' hx e s' hf => h e s' (.inr ⟨a, t', hx, hf⟩)⟩
  · rintro ⟨hx, hf⟩ e s' (hrun | ⟨a, t', hrun, hrest⟩)
    · exact hx e s' hrun
    · exact hf a t' hrun e s' hrest

theorem restores_lift_bind : Restores s (lift result >>= f) t ↔ (Fits result ∨ t = s) ∧
        ∀ a, result = .ok a → Restores s (f a) t := by
  cases result with
  | ok a => simp [Restores, Fits]
  | error e => simp [Restores, Fits]

theorem restores_self_lift_bind : Restores s (lift result >>= f) s ↔
      ∀ a, result = .ok a → Restores s (f a) s := by
  simp [restores_lift_bind]

theorem restores_discard : Restores s x.discard t ↔ Restores s x t := by
  unfold Restores
  simp only [run_discard_eq_error]

theorem Returns.restores (h : Returns x t) (s : σ) : Restores s x t := by
  obtain ⟨a, t', hrun⟩ := h
  intro e s' herror
  rw [hrun] at herror
  cases herror

theorem Keeps.restores_iff {part : σ → τ} (hkeeps : Keeps part x)
    (hne : part t ≠ part s) : Restores s x t ↔ Returns x t := by
  refine ⟨fun h => ?_, fun h => h.restores s⟩
  cases hrun : x.run t with
  | mk result t' =>
    cases result with
    | ok a => exact ⟨a, t', hrun⟩
    | error e =>
      have hfinal := hkeeps t
      rw [final_eq hrun, h e t' hrun] at hfinal
      exact absurd hfinal.symm hne

/-! ## Runs that return -/

@[simp] theorem returns_pure (s : σ) (a : α) : Returns (pure a : Fallible σ ε α) s :=
  ⟨a, s, rfl⟩

@[simp] theorem returns_update (s : σ) (g : σ → σ) :
    Returns (update g : Fallible σ ε Unit) s :=
  ⟨(), g s, rfl⟩

@[simp] theorem returns_read_bind (s : σ) (f : σ → Fallible σ ε β) :
    Returns (read >>= f) s ↔ Returns (f s) s :=
  Iff.rfl

@[simp] theorem returns_update_bind (s : σ) (g : σ → σ) (f : Unit → Fallible σ ε β) :
    Returns (update g >>= f) s ↔ Returns (f ()) (g s) :=
  Iff.rfl

theorem returns_bind : Returns (x >>= f) s ↔
      ∃ a s', x.run s = (.ok a, s') ∧ Returns (f a) s' := by
  unfold Returns
  simp only [run_bind_eq_ok]
  constructor
  · rintro ⟨b, s'', a, s', hx, hf⟩
    exact ⟨a, s', hx, b, s'', hf⟩
  · rintro ⟨a, s', hx, b, s'', hf⟩
    exact ⟨b, s'', a, s', hx, hf⟩

@[simp] theorem returns_lift_bind :
    Returns (lift result >>= f) s ↔ ∃ a, result = .ok a ∧ Returns (f a) s := by
  cases result with
  | ok a => simp [Returns]
  | error e => simp [Returns]

end Follon.Foundation.Fallible

namespace Follon.Foundation

export Fallible (restores_self_lift_bind restores_update_bind restores_read_bind
  restores_lift_bind restores_bind bind_bind)

end Follon.Foundation
