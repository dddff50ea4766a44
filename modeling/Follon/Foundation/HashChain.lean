import Mathlib.Data.List.Induction

/-!
# Chained logs

A log read item by item, each item checked against what the items before it
left.  Where a check binds what it was made against, two logs that end alike
are the same log.
-/

namespace Follon.Foundation.HashChain

variable {σ α ε κ : Type} {step : σ → α → Except ε σ}

def visits (step : σ → α → Except ε σ) : σ → List α → List (σ × α)
  | _, [] => []
  | s, a :: rest =>
    (s, a) :: match step s a with
      | .ok t => visits step t rest
      | .error _ => []

variable {s t u : σ} {items more : List α} {a : α}

theorem visits_append (h : items.foldlM step s = .ok t) (more : List α) :
    visits step s (items ++ more)
      = visits step s items ++ visits step t more := by
  induction items generalizing s with
  | nil =>
    obtain rfl := Except.ok.inj h
    rfl
  | cons b rest ih =>
    rw [List.foldlM_cons] at h
    cases hstep : step s b with
    | ok u =>
      rw [hstep] at h
      simp [visits, hstep, ih h]
    | error _ =>
      rw [hstep] at h
      contradiction

theorem visits_single (s : σ) (a : α) : visits step s [a] = [(s, a)] := by
  cases hstep : step s a with
  | ok _ => simp [visits, hstep]
  | error _ => simp [visits, hstep]

theorem mem_of_visit {visit : σ × α} (h : visit ∈ visits step s items)
    : visit.2 ∈ items := by
  induction items generalizing s with
  | nil => simp [visits] at h
  | cons a rest ih =>
    rw [visits] at h
    rcases List.mem_cons.mp h with rfl | h
    · exact List.mem_cons_self
    · cases hstep : step s a with
      | ok t =>
        rw [hstep] at h
        exact List.mem_cons_of_mem _ (ih h)
      | error e =>
        rw [hstep] at h
        contradiction

theorem foldlM_append_eq_ok : (items ++ more).foldlM step s = .ok u ↔
      ∃ t, items.foldlM step s = .ok t ∧ more.foldlM step t = .ok u := by
  rw [List.foldlM_append]
  cases hitems : items.foldlM step s with
  | ok t =>
    change more.foldlM step t = .ok u ↔ _
    simp
  | error e =>
    change (.error e : Except ε σ) = .ok u ↔ _
    simp

theorem foldlM_cons_eq_ok : (a :: more).foldlM step s = .ok u ↔
      ∃ t, step s a = .ok t ∧ more.foldlM step t = .ok u := by
  rw [List.foldlM_cons]
  cases hstep : step s a with
  | ok t =>
    change more.foldlM step t = .ok u ↔ _
    simp
  | error e =>
    change (.error e : Except ε σ) = .ok u ↔ _
    simp

theorem foldlM_concat : (items ++ [a]).foldlM step s = .ok u ↔
      ∃ t, items.foldlM step s = .ok t ∧ step t a = .ok u := by
  rw [foldlM_append_eq_ok]
  refine exists_congr fun t => and_congr_right fun _ => ?_
  rw [foldlM_cons_eq_ok]
  constructor
  · rintro ⟨v, hstep, hrest⟩
    obtain rfl := Except.ok.inj hrest
    exact hstep
  · intro hstep
    exact ⟨u, hstep, rfl⟩

theorem zipIdx_cons_append (before after : List α) (a : α) :
    (before ++ a :: after).zipIdx = (before.zipIdx ++ [(a, before.length)])
        ++ after.zipIdx (before.length + 1) := by
  rw [List.zipIdx_append, List.zipIdx_cons]
  simp

theorem items_eq {start : σ} {key : σ → κ} {bound : σ → α → Prop}
    (hback : ∀ s a s' a' t t', bound s a → bound s' a' → step s a = .ok t →
      step s' a' = .ok t' → key t = key t' → key s = key s' ∧ a = a')
    (hstart : ∀ s a t, bound s a → step s a = .ok t → key t ≠ key start)
    {items' : List α} {t' : σ}
    (hbound : ∀ visit ∈ visits step start items, bound visit.1 visit.2)
    (hbound' : ∀ visit ∈ visits step start items', bound visit.1 visit.2)
    (h : items.foldlM step start = .ok t)
    (h' : items'.foldlM step start = .ok t') (hkey : key t = key t') :
    items = items' := by
  induction items using List.reverseRec generalizing items' t t' with
  | nil =>
    obtain rfl := Except.ok.inj h
    rcases List.eq_nil_or_concat items' with rfl | ⟨before, a, rfl⟩
    · rfl
    · rw [List.concat_eq_append] at h' hbound'
      obtain ⟨s, hbefore, hstep⟩ := foldlM_concat.mp h'
      rw [visits_append hbefore, visits_single] at hbound'
      exact absurd hkey.symm (hstart s a t' (hbound' (s, a) (by simp)) hstep)
  | append_singleton before a ih =>
    obtain ⟨s, hbefore, hstep⟩ := foldlM_concat.mp h
    rw [visits_append hbefore, visits_single] at hbound
    have ha : bound s a := hbound (s, a) (by simp)
    rcases List.eq_nil_or_concat items' with rfl | ⟨before', a', rfl⟩
    · obtain rfl := Except.ok.inj h'
      exact absurd hkey (hstart s a t ha hstep)
    · rw [List.concat_eq_append] at h' hbound' ⊢
      obtain ⟨s', hbefore', hstep'⟩ := foldlM_concat.mp h'
      rw [visits_append hbefore', visits_single] at hbound'
      obtain ⟨hsame, rfl⟩ := hback s a s' a' t t' ha
        (hbound' (s', a') (by simp)) hstep hstep' hkey
      rw [ih (fun visit hvisit => hbound visit (by simp [hvisit]))
        (fun visit hvisit => hbound' visit (by simp [hvisit])) hbefore
        hbefore' hsame]

end Follon.Foundation.HashChain
