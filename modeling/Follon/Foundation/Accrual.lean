import Follon.Foundation.Fallible

/-!
# What a program adds to a measure

A program that may fail midway adds a known amount to a measure of its state
when it returns, and no more than that when it fails.  Amounts add up along a
sequence of programs.
-/

namespace Follon.Foundation.Fallible

variable {σ ε α β : Type}

/-- From `s`, a program adds `amount` to `measure`, or fails with less. -/
structure Adds (measure : σ → Int) (s : σ) (x : Fallible σ ε α)
    (amount : Int) : Prop where
  returns : ∀ a t, x.run s = (.ok a, t) → measure t = measure s + amount
  fails : ∀ e t, x.run s = (.error e, t) → measure t ≤ measure s + amount

namespace Adds

variable {measure : σ → Int} {s : σ} {amount amount' : Int}
  {x : Fallible σ ε α} {f : α → Fallible σ ε β}

theorem pure {a : α} : Adds measure s (Pure.pure a : Fallible σ ε α) 0 where
  returns := by
    intro a' t hrun
    obtain ⟨-, rfl⟩ := Prod.mk.inj hrun
    exact (Int.add_zero _).symm
  fails := fun _ _ hrun => nomatch hrun

theorem fail {e : ε} (hamount : 0 ≤ amount) :
    Adds measure s (Fallible.fail e : Fallible σ ε α) amount where
  returns := fun _ _ hrun => nomatch hrun
  fails := by
    intro e' t hrun
    obtain ⟨-, rfl⟩ := Prod.mk.inj hrun
    omega

theorem silent (h : measure (x.final s) = measure s) : Adds measure s x 0 where
  returns := by
    intro a t hrun
    rw [final_eq hrun] at h
    omega
  fails := by
    intro e t hrun
    rw [final_eq hrun] at h
    omega

theorem read {f : σ → Fallible σ ε β} (h : Adds measure s (f s) amount) :
    Adds measure s (Fallible.read >>= f) amount :=
  ⟨h.returns, h.fails⟩

theorem update {g : σ → σ} {f : Unit → Fallible σ ε β}
    (hsame : measure (g s) = measure s) (h : Adds measure (g s) (f ()) amount) :
    Adds measure s (Fallible.update g >>= f) amount where
  returns := by
    intro b t hrun
    rw [← hsame]
    exact h.returns b t hrun
  fails := by
    intro e t hrun
    rw [← hsame]
    exact h.fails e t hrun

theorem lift {result : Except ε α} (hamount : 0 ≤ amount)
    (h : ∀ a, result = .ok a → Adds measure s (f a) amount) :
    Adds measure s (Fallible.lift result >>= f) amount := by
  cases result with
  | ok a => exact h a rfl
  | error e =>
    have hfail : Adds measure s (Fallible.fail e : Fallible σ ε β) amount := fail hamount
    exact ⟨hfail.returns, hfail.fails⟩

theorem bind (hx : Adds measure s x amount) (hamount : 0 ≤ amount')
    (hf : ∀ a t, x.run s = (.ok a, t) → Adds measure t (f a) amount') :
    Adds measure s (x >>= f) (amount + amount') where
  returns := by
    intro b u hrun
    obtain ⟨a, t, hfirst, hsecond⟩ := run_bind_eq_ok.mp hrun
    rw [(hf a t hfirst).returns b u hsecond, hx.returns a t hfirst, Int.add_assoc]
  fails := by
    intro e u hrun
    rcases run_bind_eq_error.mp hrun with hfirst |
      ⟨a, t, hfirst, hsecond⟩
    · have hless := hx.fails e u hfirst
      omega
    · have hless := (hf a t hfirst).fails e u hsecond
      rw [hx.returns a t hfirst] at hless
      omega

theorem after (hx : Adds measure s x 0) (hamount : 0 ≤ amount)
    (hf : ∀ a t, x.run s = (.ok a, t) → Adds measure t (f a) amount) :
    Adds measure s (x >>= f) amount := by
  have hboth := hx.bind hamount hf
  rwa [Int.zero_add] at hboth

theorem before (hx : Adds measure s x amount)
    (hf : ∀ a t, x.run s = (.ok a, t) → Adds measure t (f a) 0) :
    Adds measure s (x >>= f) amount := by
  have hboth := hx.bind (Int.le_refl 0) hf
  rwa [Int.add_zero] at hboth

theorem discard (hx : Adds measure s x amount) : Adds measure s x.discard amount := by
  have hrun : x.discard.run s = ((x.run s).1.map fun _ => (), (x.run s).2) := rfl
  rcases hx' : x.run s with ⟨_ | a, t⟩
  · rw [hx'] at hrun
    refine ⟨fun _ _ h => by simp [hrun, Except.map] at h, ?_⟩
    intro e' t' h
    obtain ⟨-, rfl⟩ := Prod.mk.inj (hrun.symm.trans h)
    exact hx.fails _ _ hx'
  · rw [hx'] at hrun
    refine ⟨?_, fun _ _ h => by simp [hrun, Except.map] at h⟩
    intro _ t' h
    obtain ⟨-, rfl⟩ := Prod.mk.inj (hrun.symm.trans h)
    exact hx.returns _ _ hx'

end Adds

end Follon.Foundation.Fallible
