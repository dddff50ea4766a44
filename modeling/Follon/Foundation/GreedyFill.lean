import Mathlib.Data.List.Sort
import Mathlib.Algebra.Order.BigOperators.Group.List
import Mathlib.Tactic.Linarith
import Mathlib.Tactic.Ring

/-!
# Filling from offers

An order is filled from offers in turn, each giving some of what is left.  With
the most valuable offers first no other way to take from them fills more, or the
same for more value.
-/

namespace Follon.Foundation

variable {α : Type}

def fill (amount : α → Int → Int) : (left : Int) → List α → List (α × Int)
  | _, [] => []
  | left, offer :: rest =>
    (offer, amount offer left) :: fill amount (left - amount offer left) rest

def filled (rows : List (α × Int)) : Int := (rows.map Prod.snd).sum

def worth (value : α → Int) (rows : List (α × Int)) : Int :=
  (rows.map fun row => row.2 * value row.1).sum

@[simp] theorem filled_nil : filled ([] : List (α × Int)) = 0 := rfl

@[simp] theorem filled_cons (row : α × Int) (rows : List (α × Int)) :
    filled (row :: rows) = row.2 + filled rows := by
  simp [filled]

theorem filled_nonneg {rows : List (α × Int)} (h : ∀ row ∈ rows, 0 ≤ row.2) :
    0 ≤ filled rows := by
  induction rows with
  | nil => simp
  | cons row rest ih =>
    obtain ⟨hrow, hrest⟩ := List.forall_mem_cons.mp h
    have := ih hrest
    rw [filled_cons]
    omega

@[simp] theorem worth_nil (value : α → Int) : worth value ([] : List (α × Int)) = 0 := rfl

@[simp] theorem worth_cons (value : α → Int) (row : α × Int) (rows : List (α × Int)) :
    worth value (row :: rows) = row.2 * value row.1 + worth value rows := by
  simp [worth]

theorem fill_map_fst (amount : α → Int → Int) (left : Int) (offers : List α) :
    (fill amount left offers).map Prod.fst = offers := by
  induction offers generalizing left with
  | nil => rfl
  | cons offer rest ih => simp [fill, ih]

/-! ## Filling up to a capacity -/

section Capacity

variable {value capacity : α → Int} {left : Int} {offers : List α}

def capped (capacity : α → Int) (offer : α) (left : Int) : Int :=
  min (capacity offer) left

def Within (capacity : α → Int) (rows : List (α × Int)) : Prop :=
  ∀ row ∈ rows, 0 ≤ row.2 ∧ row.2 ≤ capacity row.1

theorem fill_within (hcapacity : ∀ offer ∈ offers, 0 ≤ capacity offer)
    (hleft : 0 ≤ left) : Within capacity (fill (capped capacity) left offers) := by
  induction offers generalizing left with
  | nil => simp [fill, Within]
  | cons offer rest ih =>
    obtain ⟨hoffer, hrest⟩ := List.forall_mem_cons.mp hcapacity
    have hle := min_le_left (capacity offer) left
    have hle' := min_le_right (capacity offer) left
    refine List.forall_mem_cons.mpr ⟨⟨le_min hoffer hleft, hle⟩, ?_⟩
    apply ih hrest
    simp only [capped]
    omega

theorem filled_fill (hcapacity : ∀ offer ∈ offers, 0 ≤ capacity offer)
    (hleft : 0 ≤ left) : filled (fill (capped capacity) left offers)
      = min left (offers.map capacity).sum := by
  induction offers generalizing left with
  | nil => simp [fill, hleft]
  | cons offer rest ih =>
    obtain ⟨hoffer, hrest⟩ := List.forall_mem_cons.mp hcapacity
    have hnonneg : 0 ≤ (rest.map capacity).sum := List.sum_nonneg (by simpa using hrest)
    rw [fill, filled_cons, ih hrest (by simp only [capped]; omega),
      List.map_cons, List.sum_cons]
    simp only [capped]
    omega

variable {rows : List (α × Int)} {level : Int}

theorem filled_le_capacity (h : Within capacity rows) :
    filled rows ≤ ((rows.map Prod.fst).map capacity).sum := by
  induction rows with
  | nil => simp
  | cons row rest ih =>
    obtain ⟨hrow, hrest⟩ := List.forall_mem_cons.mp h
    have := ih hrest
    simp only [filled_cons, List.map_cons, List.sum_cons]
    omega

def surplus (value capacity : α → Int) (level : Int) (offers : List α) : Int :=
  (offers.map fun offer => capacity offer * max (value offer - level) 0).sum

@[simp] theorem surplus_cons (level : Int) (offer : α) (rest : List α) :
    surplus value capacity level (offer :: rest)
      = capacity offer * max (value offer - level) 0
        + surplus value capacity level rest := by
  simp [surplus]

theorem surplus_perm {offers' : List α} (h : offers.Perm offers') :
    surplus value capacity level offers = surplus value capacity level offers' :=
  (h.map _).sum_eq

theorem surplus_eq_zero (h : ∀ offer ∈ offers, value offer ≤ level) :
    surplus value capacity level offers = 0 := by
  induction offers with
  | nil => rfl
  | cons offer rest ih =>
    obtain ⟨hoffer, hrest⟩ := List.forall_mem_cons.mp h
    rw [surplus_cons, ih hrest, max_eq_right (by omega)]
    simp

theorem worth_le_surplus {rows : List (α × Int)} (level : Int)
    (h : Within capacity rows) : worth value rows - level * filled rows
      ≤ surplus value capacity level (rows.map Prod.fst) := by
  induction rows with
  | nil => simp [surplus]
  | cons row rest ih =>
    obtain ⟨⟨hnonneg, hle⟩, hrest⟩ := List.forall_mem_cons.mp h
    have hmax := le_max_left (value row.1 - level) 0
    have hmax' := le_max_right (value row.1 - level) 0
    have hrow : row.2 * (value row.1 - level)
        ≤ capacity row.1 * max (value row.1 - level) 0 :=
      calc row.2 * (value row.1 - level)
          ≤ row.2 * max (value row.1 - level) 0 :=
            Int.mul_le_mul_of_nonneg_left hmax hnonneg
        _ ≤ capacity row.1 * max (value row.1 - level) 0 :=
            Int.mul_le_mul_of_nonneg_right hle hmax'
    have := ih hrest
    simp only [worth_cons, filled_cons, List.map_cons, surplus_cons]
    linarith

theorem fill_zero (hcapacity : ∀ offer ∈ offers, 0 ≤ capacity offer) :
    worth value (fill (capped capacity) 0 offers) = 0
      ∧ filled (fill (capped capacity) 0 offers) = 0 := by
  induction offers with
  | nil => simp [fill]
  | cons offer rest ih =>
    obtain ⟨hoffer, hrest⟩ := List.forall_mem_cons.mp hcapacity
    simp [fill, capped, min_eq_right hoffer, ih hrest]

/-- The value of the last offer touched is a level above which the offers are
worth exactly what is taken. -/
theorem exists_level (hcapacity : ∀ offer ∈ offers, 0 ≤ capacity offer)
    (hsorted : offers.Pairwise fun a b => value b ≤ value a)
    (hleft : 0 ≤ left) {bound : Int}
    (hbound : ∀ offer ∈ offers, value offer ≤ bound) : ∃ level ≤ bound,
      worth value (fill (capped capacity) left offers)
          - level * filled (fill (capped capacity) left offers)
        = surplus value capacity level offers := by
  induction offers generalizing left bound with
  | nil => exact ⟨bound, le_refl _, by simp [fill, surplus]⟩
  | cons offer rest ih =>
    obtain ⟨hoffer, hrest⟩ := List.forall_mem_cons.mp hcapacity
    obtain ⟨hhead, htail⟩ := List.pairwise_cons.mp hsorted
    have hvalue := hbound offer List.mem_cons_self
    rcases lt_or_ge left (capacity offer) with hpart | hwhole
    · -- the offer has more than is left: nothing after it is touched
      have hamount : capped capacity offer left = left := min_eq_right hpart.le
      obtain ⟨hworth, hfilled⟩ := @fill_zero α value capacity rest hrest
      refine ⟨value offer, hvalue, ?_⟩
      rw [surplus_cons, surplus_eq_zero hhead, fill, hamount]
      simp [hworth, hfilled]
      ring
    · have hamount : capped capacity offer left = capacity offer :=
        min_eq_left hwhole
      obtain ⟨level, hlevel, hsame⟩ := ih hrest htail
        (show 0 ≤ left - capacity offer by omega) hhead
      refine ⟨level, hlevel.trans hvalue, ?_⟩
      rw [surplus_cons, max_eq_left (by omega), ← hsame, fill, hamount]
      simp only [worth_cons, filled_cons]
      ring

theorem fill_optimal (hcapacity : ∀ offer ∈ offers, 0 ≤ capacity offer)
    (hsorted : offers.Pairwise fun a b => value b ≤ value a) (hleft : 0 ≤ left)
    (hrows : (rows.map Prod.fst).Perm offers) (hwithin : Within capacity rows)
    (hquantity : filled rows ≤ left) :
    filled rows ≤ filled (fill (capped capacity) left offers)
      ∧ (filled rows = filled (fill (capped capacity) left offers) →
        worth value rows ≤ worth value (fill (capped capacity) left offers)) := by
  constructor
  · have htotal := filled_le_capacity hwithin
    rw [(hrows.map capacity).sum_eq] at htotal
    rw [filled_fill hcapacity hleft]
    exact le_min hquantity htotal
  · intro hsame
    obtain ⟨bound, hbound⟩ : ∃ bound, ∀ offer ∈ offers, value offer ≤ bound := by
      cases offers with
      | nil => exact ⟨0, by simp⟩
      | cons offer rest =>
        refine ⟨value offer, List.forall_mem_cons.mpr ⟨le_refl _, ?_⟩⟩
        exact (List.pairwise_cons.mp hsorted).1
    obtain ⟨level, -, hlevel⟩ := exists_level hcapacity hsorted hleft hbound
    have hle := @worth_le_surplus α value capacity rows level hwithin
    rw [surplus_perm hrows, ← hlevel, hsame] at hle
    linarith

end Capacity

end Follon.Foundation
