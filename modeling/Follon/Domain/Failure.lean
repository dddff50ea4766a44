import Mathlib.Tactic.Common

/-!
# Failures

Every crate of the platform has an error type that carries one text, and each
converts to the next by keeping it, so one error type stands for all of them.
-/

namespace Follon.Domain

/-- The one text-carrying error type: every crate's error converts to the next
by keeping its text. -/
structure PaperError where
  message : String
  deriving DecidableEq, Repr

abbrev Result (α : Type) : Type :=
  Except PaperError α

def refuseIf (bad : Prop) [Decidable bad] (message : String) : Result Unit :=
  if bad then .error ⟨message⟩ else .ok ()

variable {bad : Prop} {message : String} {α β : Type}

variable {u : Unit} {x : Result α} {f convert : α → Result β} {e : PaperError}
  {items : List α} {results : List β}

@[simp] theorem refuseIf_eq_ok [Decidable bad] : refuseIf bad message = .ok u ↔ ¬bad := by
  unfold refuseIf
  split <;> simp_all

theorem refuseIf_of_not [Decidable bad] (h : ¬bad) : refuseIf bad message = .ok () :=
  refuseIf_eq_ok.mpr h

@[simp] theorem bind_eq_ok {b : β}
    : (x >>= f) = .ok b ↔ ∃ a, x = .ok a ∧ f a = .ok b := by
  cases x with
  | ok a => simp [bind, Except.bind]
  | error e => simp [bind, Except.bind]

theorem pure_eq_ok {a b : α} : (pure a : Result α) = .ok b ↔ a = b := by
  simp [pure, Except.pure]

theorem refuseIf_eq_error [Decidable bad] :
    refuseIf bad message = .error e ↔ bad ∧ e = ⟨message⟩ := by
  unfold refuseIf
  split <;> simp_all [eq_comm]

theorem bind_eq_error : (x >>= f) = .error e ↔
      x = .error e ∨ ∃ a, x = .ok a ∧ f a = .error e := by
  cases x with
  | ok a => simp [bind, Except.bind]
  | error e' => simp [bind, Except.bind]

/-- Two results with the same successes differ in the text of an error at
most. -/
theorem toOption_congr {y : Result α} (h : ∀ a, x = .ok a ↔ y = .ok a)
    : x.toOption = y.toOption := by
  cases x with
  | ok a =>
    rw [(h a).mp rfl]
  | error e =>
    cases y with
    | ok b => exact absurd ((h b).mpr rfl) nofun
    | error e' => rfl

/-! ## Deciding what a result says -/

instance decidableForallOk {α : Type} (x : Result α) (P : α → Prop)
    [DecidablePred P] : Decidable (∀ a, x = .ok a → P a) :=
  match x with
  | .ok a => decidable_of_iff (P a)
      ⟨fun h _ hsame => Except.ok.inj hsame ▸ h, fun h => h a rfl⟩
  | .error _ => .isTrue fun _ h => nomatch h

instance decidableExistsOk {α : Type} (x : Result α) (P : α → Prop)
    [DecidablePred P] : Decidable (∃ a, x = .ok a ∧ P a) :=
  match x with
  | .ok a => decidable_of_iff (P a)
      ⟨fun h => ⟨a, rfl, h⟩, fun ⟨_, hsame, h⟩ => Except.ok.inj hsame ▸ h⟩
  | .error _ => .isFalse fun ⟨_, h, _⟩ => nomatch h

instance decidableIsOk {α : Type} (x : Result α) : Decidable (∃ a, x = .ok a) :=
  match x with
  | .ok a => .isTrue ⟨a, rfl⟩
  | .error _ => .isFalse fun ⟨_, h⟩ => nomatch h

theorem exists_unit_eq_ok {result : Result Unit} :
    (∃ u, result = .ok u) ↔ result = .ok () :=
  ⟨fun ⟨(), h⟩ => h, fun h => ⟨(), h⟩⟩

/-! ## Loops -/

def checkAll {α : Type} (check : α → Result Unit) : List α → Result Unit
  | [] => .ok ()
  | a :: rest => do
    check a
    checkAll check rest

@[simp] theorem checkAll_eq_ok {check : α → Result Unit}
    : checkAll check items = .ok u ↔ ∀ a ∈ items, check a = .ok () := by
  induction items with
  | nil => simp [checkAll]
  | cons a rest ih =>
    have hunit : (∃ x, check a = .ok x) ↔ check a = .ok () :=
      ⟨fun ⟨(), hx⟩ => hx, fun hx => ⟨(), hx⟩⟩
    simp [checkAll, ih, hunit]

def collect {α β : Type} (convert : α → Result β) : List α → Result (List β)
  | [] => .ok []
  | a :: rest => do
    let b ← convert a
    let bs ← collect convert rest
    pure (b :: bs)

/-- What every step of a fallible loop keeps, a loop that returns keeps. -/
theorem foldlM_keeps {step : β → α → Result β} {P : β → Prop} {acc acc' : β}
    (hstep : ∀ b, P b → ∀ a ∈ items, ∀ b', step b a = .ok b' → P b')
    (h : items.foldlM step acc = .ok acc') (hacc : P acc) : P acc' := by
  induction items generalizing acc with
  | nil =>
    simp only [List.foldlM_nil, pure, Except.pure, Except.ok.injEq] at h
    rw [← h]
    exact hacc
  | cons a rest ih =>
    simp only [List.foldlM_cons, bind_eq_ok] at h
    obtain ⟨b, hb, hrest⟩ := h
    refine ih (fun b hb a ha => hstep b hb a (List.mem_cons_of_mem _ ha))
      hrest ?_
    exact hstep acc hacc a List.mem_cons_self b hb

theorem foldlM_over {α β : Type} {step : β → α → Result β} {R : List α → β → Prop}
    (hstep : ∀ seen a b b', R seen b → step b a = .ok b' →
      R (seen ++ [a]) b') {seen items : List α} {acc acc' : β}
    (hacc : R seen acc) (h : items.foldlM step acc = .ok acc') :
    R (seen ++ items) acc' := by
  induction items generalizing seen acc with
  | nil =>
    obtain rfl := Except.ok.inj h
    rw [List.append_nil]
    exact hacc
  | cons a rest ih =>
    simp only [List.foldlM_cons, bind_eq_ok] at h
    obtain ⟨b, hb, hrest⟩ := h
    have hall := ih (hstep seen a acc b hacc hb) hrest
    rwa [List.append_assoc, List.singleton_append] at hall

theorem collect_mem (h : collect convert items = .ok results) :
    (∀ a ∈ items, ∃ b, convert a = .ok b) ∧
      ∀ b ∈ results, ∃ a ∈ items, convert a = .ok b := by
  induction items generalizing results with
  | nil =>
    obtain rfl := Except.ok.inj h
    simp
  | cons a rest ih =>
    simp only [collect, bind_eq_ok] at h
    obtain ⟨b, hb, bs, hbs, h⟩ := h
    obtain rfl := Except.ok.inj h
    obtain ⟨hconverts, hresults⟩ := ih hbs
    constructor
    · exact List.forall_mem_cons.mpr ⟨⟨b, hb⟩, hconverts⟩
    · intro c hc
      rcases List.mem_cons.mp hc with rfl | hc
      · exact ⟨a, List.mem_cons_self, hb⟩
      · obtain ⟨d, hd, hconvert⟩ := hresults c hc
        exact ⟨d, List.mem_cons_of_mem _ hd, hconvert⟩

theorem exists_collect {α β : Type} {convert : α → Result β}
    {items : List α} (h : ∀ a ∈ items, ∃ b, convert a = .ok b) :
    ∃ results, collect convert items = .ok results := by
  induction items with
  | nil => exact ⟨[], rfl⟩
  | cons a rest ih =>
    obtain ⟨b, hb⟩ := h a List.mem_cons_self
    obtain ⟨bs, hbs⟩ := ih fun c hc => h c (List.mem_cons_of_mem _ hc)
    exact ⟨b :: bs, by simp only [collect, hb, hbs]; rfl⟩

theorem collect_eq_map {image : α → β} (h : ∀ a ∈ items, convert a = .ok (image a)) :
    collect convert items = .ok (items.map image) := by
  induction items with
  | nil => rfl
  | cons a rest ih =>
    rw [List.forall_mem_cons] at h
    simp only [collect, h.1, ih h.2, List.map_cons]
    rfl

theorem forall₂_of_collect (h : collect convert items = .ok results) :
    List.Forall₂ (fun item result => convert item = .ok result) items
      results := by
  induction items generalizing results with
  | nil =>
    obtain rfl := Except.ok.inj h
    exact .nil
  | cons item items ih =>
    simp only [collect, bind_eq_ok] at h
    obtain ⟨result, hresult, rest, hrest, h⟩ := h
    obtain rfl := Except.ok.inj h
    exact .cons hresult (ih hrest)

theorem exists_mem_collect (h : collect convert items = .ok results) {a : α}
    (ha : a ∈ items) : ∃ b ∈ results, convert a = .ok b := by
  induction items generalizing results with
  | nil => contradiction
  | cons head rest ih =>
    simp only [collect, bind_eq_ok] at h
    obtain ⟨b, hb, bs, hbs, h⟩ := h
    obtain rfl := Except.ok.inj h
    rcases List.mem_cons.mp ha with rfl | ha
    · exact ⟨b, List.mem_cons_self, hb⟩
    · obtain ⟨c, hc, hconvert⟩ := ih hbs ha
      exact ⟨c, List.mem_cons_of_mem _ hc, hconvert⟩

theorem collect_map {α β : Type} {convert : β → Result α} {image : α → β}
    {items : List α} (h : ∀ a ∈ items, convert (image a) = .ok a) :
    collect convert (items.map image) = .ok items := by
  induction items with
  | nil => rfl
  | cons a rest ih =>
    simp only [List.map_cons, collect]
    rw [h a List.mem_cons_self,
      ih fun b hb => h b (List.mem_cons_of_mem _ hb)]
    rfl

end Follon.Domain
