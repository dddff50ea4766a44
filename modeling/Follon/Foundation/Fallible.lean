import Mathlib.Tactic.Common

/-!
# Fallible computations that keep their writes

A method that borrows its receiver mutably and returns a `Result` may fail
half-way: what it wrote before the failing step stays written.  `Fallible`
models such a method as a function to a result and a final state, so that
the state after a failure is as visible as the state after a success.
-/

namespace Follon.Foundation

/-- A computation over the state `σ` that may fail with `ε` and keeps what it
wrote before it failed. -/
def Fallible (σ ε α : Type) : Type := σ → Except ε α × σ

namespace Fallible

variable {σ τ ε α β : Type}

def run (x : Fallible σ ε α) (s : σ) : Except ε α × σ := x s

instance : Monad (Fallible σ ε) where
  pure a := fun s => (.ok a, s)
  bind x f := fun s =>
    match x s with
    | (.ok a, s') => f a s'
    | (.error e, s') => (.error e, s')

def read : Fallible σ ε σ :=
  fun s => (.ok s, s)

def update (f : σ → σ) : Fallible σ ε Unit :=
  fun s => (.ok (), f s)

def fail (e : ε) : Fallible σ ε α :=
  fun s => (.error e, s)

/-- A step that only reads: the `?` of the modelled programs. -/
def lift (result : Except ε α) : Fallible σ ε α :=
  fun s => (result, s)

def zoom (get : τ → σ) (put : σ → τ → τ) (x : Fallible σ ε α) : Fallible τ ε α :=
  fun t => ((x (get t)).1, put (x (get t)).2 t)

/-! ## Running -/

@[simp] theorem run_pure (a : α) (s : σ) : (pure a : Fallible σ ε α).run s = (.ok a, s) :=
  rfl

@[simp] theorem run_read (s : σ) : (read : Fallible σ ε σ).run s = (.ok s, s) := rfl

@[simp] theorem run_update (f : σ → σ) (s : σ) :
    (update f : Fallible σ ε Unit).run s = (.ok (), f s) :=
  rfl

@[simp] theorem run_fail (e : ε) (s : σ) :
    (fail e : Fallible σ ε α).run s = (.error e, s) :=
  rfl

@[simp] theorem run_lift (result : Except ε α) (s : σ) :
    (lift result : Fallible σ ε α).run s = (result, s) :=
  rfl

@[simp] theorem run_zoom (get : τ → σ) (put : σ → τ → τ)
    (x : Fallible σ ε α) (t : τ) : (x.zoom get put).run t
      = ((x.run (get t)).1, put (x.run (get t)).2 t) :=
  rfl

theorem run_bind (x : Fallible σ ε α) (f : α → Fallible σ ε β) (s : σ) : (x >>= f).run s
      = match x.run s with
        | (.ok a, s') => (f a).run s'
        | (.error e, s') => (.error e, s') :=
  rfl

variable {x : Fallible σ ε α} {s s' : σ} {e : ε} {result : Except ε α}
  {f : α → Fallible σ ε β}

theorem run_bind_ok {a : α} (hx : x.run s = (.ok a, s')) (f : α → Fallible σ ε β) :
    (x >>= f).run s = (f a).run s' := by
  rw [run_bind, hx]

theorem run_bind_error (hx : x.run s = (.error e, s')) (f : α → Fallible σ ε β) :
    (x >>= f).run s = (.error e, s') := by
  rw [run_bind, hx]

@[simp] theorem run_read_bind (f : σ → Fallible σ ε β) (s : σ) :
    ((read : Fallible σ ε σ) >>= f).run s = (f s).run s :=
  rfl

@[simp] theorem run_update_bind (g : σ → σ) (f : Unit → Fallible σ ε β) (s : σ) :
    ((update g : Fallible σ ε Unit) >>= f).run s = (f ()).run (g s) :=
  rfl

@[simp] theorem run_lift_bind_ok (a : α) (f : α → Fallible σ ε β) (s : σ) :
    ((lift (.ok a) : Fallible σ ε α) >>= f).run s = (f a).run s :=
  rfl

@[simp] theorem run_lift_bind_error (e : ε) (f : α → Fallible σ ε β) (s : σ) :
    ((lift (.error e) : Fallible σ ε α) >>= f).run s = (.error e, s) :=
  rfl

/-! ## Final states -/

def final (x : Fallible σ ε α) (s : σ) : σ := (x.run s).2

def discard (x : Fallible σ ε α) : Fallible σ ε Unit :=
  fun s => ((x s).1.map fun _ => (), (x s).2)

theorem final_eq (h : x.run s = (result, s')) : x.final s = s' := by
  rw [final, h]

@[simp] theorem final_pure (a : α) (s : σ) : (pure a : Fallible σ ε α).final s = s := rfl

@[simp] theorem final_read (s : σ) : (read : Fallible σ ε σ).final s = s := rfl

@[simp] theorem final_update (f : σ → σ) (s : σ) :
    (update f : Fallible σ ε Unit).final s = f s :=
  rfl

@[simp] theorem final_fail (e : ε) (s : σ) : (fail e : Fallible σ ε α).final s = s := rfl

@[simp] theorem final_lift (result : Except ε α) (s : σ) :
    (lift result : Fallible σ ε α).final s = s :=
  rfl

@[simp] theorem final_discard (x : Fallible σ ε α) (s : σ) :
    x.discard.final s = x.final s :=
  rfl

theorem run_discard_eq_ok {u : Unit} :
    x.discard.run s = (.ok u, s') ↔ ∃ a, x.run s = (.ok a, s') := by
  have hrun : x.discard.run s = ((x.run s).1.map fun _ => (), (x.run s).2) := rfl
  rw [hrun]
  rcases x.run s with ⟨_ | a, t⟩
  · simp [Except.map]
  · simp [Except.map]

@[simp] theorem final_read_bind (f : σ → Fallible σ ε β) (s : σ) :
    ((read : Fallible σ ε σ) >>= f).final s = (f s).final s :=
  rfl

@[simp] theorem final_update_bind (g : σ → σ) (f : Unit → Fallible σ ε β) (s : σ) :
    ((update g : Fallible σ ε Unit) >>= f).final s = (f ()).final (g s) :=
  rfl

@[simp] theorem final_lift_ok_bind (a : α) (f : α → Fallible σ ε β) (s : σ) :
    ((lift (.ok a) : Fallible σ ε α) >>= f).final s = (f a).final s :=
  rfl

variable {P : σ → Prop} {s'' : σ} {b : β}

theorem final_bind (hok : ∀ a s', x.run s = (.ok a, s') → P ((f a).final s'))
    (herr : ∀ e s', x.run s = (.error e, s') → P s') : P ((x >>= f).final s) := by
  unfold final
  rw [run_bind]
  rcases hrun : x.run s with ⟨result, s'⟩
  cases result with
  | ok a => exact hok a s' hrun
  | error e => exact herr e s' hrun

theorem final_lift_bind (hok : ∀ a, result = .ok a → P ((f a).final s)) (herr : P s) :
    P (((lift result : Fallible σ ε α) >>= f).final s) := by
  cases result with
  | ok a => exact hok a rfl
  | error e => exact herr

theorem final_bind_fail (x : Fallible σ ε α) (e : ε) (s : σ) :
    (x >>= fun _ => (fail e : Fallible σ ε β)).final s = x.final s := by
  unfold final
  rw [run_bind]
  rcases hrun : x.run s with ⟨result, s'⟩
  cases result with
  | ok a => rfl
  | error e' => rfl

theorem run_bind_eq_ok : (x >>= f).run s = (.ok b, s'') ↔
      ∃ a s', x.run s = (.ok a, s') ∧ (f a).run s' = (.ok b, s'') := by
  rw [run_bind]
  rcases hrun : x.run s with ⟨result, s'⟩
  cases result with
  | ok a => simp
  | error e => simp

theorem run_lift_bind_eq_ok : (lift result >>= f).run s = (.ok b, s') ↔
      ∃ a, result = .ok a ∧ (f a).run s = (.ok b, s') := by
  cases result with
  | ok a => simp
  | error e => simp

theorem run_bind_eq_error : (x >>= f).run s = (.error e, s'') ↔
      x.run s = (.error e, s'') ∨
        ∃ a s', x.run s = (.ok a, s') ∧ (f a).run s' = (.error e, s'') := by
  rw [run_bind]
  rcases hrun : x.run s with ⟨result, s'⟩
  cases result with
  | ok a => simp
  | error e' => simp

theorem run_lift_bind_eq_error : (lift result >>= f).run s = (.error e, s') ↔
      (result = .error e ∧ s' = s) ∨
        ∃ a, result = .ok a ∧ (f a).run s = (.error e, s') := by
  cases result with
  | ok a => simp
  | error e' => simp [eq_comm]

theorem run_discard_eq_error :
    x.discard.run s = (.error e, s') ↔ x.run s = (.error e, s') := by
  have hrun : x.discard.run s = ((x.run s).1.map fun _ => (), (x.run s).2) := rfl
  rw [hrun]
  rcases x.run s with ⟨_ | a, t⟩
  · simp [Except.map]
  · simp [Except.map]

/-! ## Untouched parts -/

def Keeps (part : σ → τ) (x : Fallible σ ε α) : Prop := ∀ s, part (x.final s) = part s

namespace Keeps

variable {part : σ → τ}

theorem pure (a : α) : Keeps part (Pure.pure a : Fallible σ ε α) :=
  fun _ => rfl

variable {g : σ → σ}

theorem update (h : ∀ s, part (g s) = part s) :
    Keeps part (Fallible.update g : Fallible σ ε Unit) :=
  h

theorem read_bind {f : σ → Fallible σ ε β} (h : ∀ s, Keeps part (f s)) :
    Keeps part (Fallible.read >>= f) :=
  fun s => h s s

theorem lift_bind {result : Except ε α} {f : α → Fallible σ ε β}
    (h : ∀ a, Keeps part (f a)) : Keeps part (Fallible.lift result >>= f) := by
  intro s
  cases result with
  | ok a => exact h a s
  | error e => rfl

theorem update_bind {f : Unit → Fallible σ ε β} (hg : ∀ s, part (g s) = part s)
    (h : Keeps part (f ())) : Keeps part (Fallible.update g >>= f) :=
  fun s => (h (g s)).trans (hg s)

theorem bind {x : Fallible σ ε α} {f : α → Fallible σ ε β}
    (hx : Keeps part x) (hf : ∀ a, Keeps part (f a)) : Keeps part (x >>= f) := by
  intro s
  refine final_bind (P := fun t => part t = part s) ?_ ?_
  · intro a t hrun
    rw [hf a t, ← final_eq hrun]
    exact hx s
  · intro e t hrun
    rw [← final_eq hrun]
    exact hx s

end Keeps

end Fallible

export Fallible (run_read_bind run_lift_bind_eq_ok run_bind_eq_ok final_lift_bind
  run_update_bind run_pure run_lift_bind_ok run_bind_ok final_eq final_read_bind
  run_lift_bind_error run_lift_bind_eq_error run_bind_error run_update run_lift
  run_bind_eq_error final_discard final_bind run_discard_eq_error run_zoom
  final_update_bind lift update)

end Follon.Foundation
