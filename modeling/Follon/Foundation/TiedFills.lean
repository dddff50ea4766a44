import Follon.Foundation.GreedyFill
import Mathlib.Data.List.TakeWhile

/-!
# Ties among offers

Offers are taken in the order of a key.  Offers with one key come in the order
they were listed in, so what is taken depends on the listing exactly when two
different offers tie, both open, where something is still to be taken.
-/

namespace Follon.Foundation

variable {α κ : Type}

/-- What an offer gives: never more than is left, nothing when it is closed,
the same for all open offers of a key, and still something of more. -/
structure Gives (key : α → κ) (isOpen : α → Bool) (amount : α → Int → Int) :
    Prop where
  nonneg : ∀ offer left, 0 ≤ left → 0 ≤ amount offer left
  le : ∀ offer left, 0 ≤ left → amount offer left ≤ left
  closed : ∀ offer left, 0 ≤ left → isOpen offer = false → amount offer left = 0
  tied : ∀ offer other left, isOpen offer = true → isOpen other = true →
    key offer = key other → amount offer left = amount other left
  mono : ∀ offer left more, 0 ≤ left → left ≤ more → 0 < amount offer left →
    0 < amount offer more

section Fill

variable {key : α → κ} {isOpen : α → Bool} {amount : α → Int → Int}
  {left : Int} {offers others : List α}

def taken (amount : α → Int → Int) (left : Int) (offers : List α) : List (α × Int) :=
  (fill amount left offers).filter fun row => 0 < row.2

def leftover (amount : α → Int → Int) (left : Int) (offers : List α) : Int :=
  left - filled (fill amount left offers)

@[simp] theorem taken_nil : taken amount left [] = [] := rfl

@[simp] theorem leftover_nil : leftover amount left [] = left := by
  simp [leftover, fill]

theorem taken_cons (offer : α) (rest : List α) : taken amount left (offer :: rest) =
      if 0 < amount offer left then
        (offer, amount offer left)
          :: taken amount (left - amount offer left) rest
      else
        taken amount (left - amount offer left) rest := by
  simp [taken, fill, List.filter_cons]

theorem leftover_cons (offer : α) (rest : List α) : leftover amount left (offer :: rest)
      = leftover amount (left - amount offer left) rest := by
  simp only [leftover, fill, filled_cons]
  omega

theorem leftover_append (offers others : List α) : leftover amount left (offers ++ others)
      = leftover amount (leftover amount left offers) others := by
  induction offers generalizing left with
  | nil => simp
  | cons offer rest ih =>
    rw [List.cons_append, leftover_cons, leftover_cons, ih]

theorem taken_append (offers others : List α) : taken amount left (offers ++ others)
      = taken amount left offers
        ++ taken amount (leftover amount left offers) others := by
  induction offers generalizing left with
  | nil => simp
  | cons offer rest ih =>
    rw [List.cons_append, taken_cons, taken_cons, leftover_cons, ih]
    split <;> simp

theorem Gives.leftover_bounds (h : Gives key isOpen amount) (hleft : 0 ≤ left)
    (offers : List α) :
    0 ≤ leftover amount left offers ∧ leftover amount left offers ≤ left := by
  induction offers generalizing left with
  | nil => simp [hleft]
  | cons offer rest ih =>
    have := h.nonneg offer left hleft
    have := h.le offer left hleft
    have := @ih (left - amount offer left) (by omega)
    rw [leftover_cons]
    omega

theorem Gives.taken_zero (h : Gives key isOpen amount) (offers : List α) :
    taken amount 0 offers = [] ∧ leftover amount 0 offers = 0 := by
  induction offers with
  | nil => simp
  | cons offer rest ih =>
    have hnonneg := h.nonneg offer 0 (le_refl 0)
    have hle := h.le offer 0 (le_refl 0)
    have hzero : amount offer 0 = 0 := by
      omega
    rw [taken_cons, leftover_cons, hzero, Int.sub_zero, ih.1, ih.2]
    simp

theorem Gives.taken_bounds (h : Gives key isOpen amount) (hleft : 0 ≤ left)
    (offers : List α) : ∀ row ∈ taken amount left offers,
      row.1 ∈ offers ∧ 0 < row.2 ∧ row.2 ≤ left := by
  induction offers generalizing left with
  | nil => simp
  | cons offer rest ih =>
    have hnonneg := h.nonneg offer left hleft
    have hle := h.le offer left hleft
    have hrest : ∀ row ∈ taken amount (left - amount offer left) rest,
        row.1 ∈ offer :: rest ∧ 0 < row.2 ∧ row.2 ≤ left := by
      intro row hrow
      obtain ⟨hmem, hpositive, hbound⟩ := ih (by omega) row hrow
      exact ⟨List.mem_cons_of_mem _ hmem, hpositive, by omega⟩
    rw [taken_cons]
    split
    · next hgives =>
      exact List.forall_mem_cons.mpr
        ⟨⟨List.mem_cons_self, hgives, hle⟩, hrest⟩
    · exact hrest

theorem Gives.filled_taken (h : Gives key isOpen amount) (hleft : 0 ≤ left)
    (offers : List α) :
    filled (taken amount left offers) + leftover amount left offers = left := by
  induction offers generalizing left with
  | nil => simp
  | cons offer rest ih =>
    have hnonneg := h.nonneg offer left hleft
    have hle := h.le offer left hleft
    have hrest := @ih (left - amount offer left) (by omega)
    rw [taken_cons, leftover_cons]
    split
    · rw [filled_cons]
      omega
    · omega

theorem Gives.filter_open (h : Gives key isOpen amount) (hleft : 0 ≤ left)
    (offers : List α) :
    taken amount left (offers.filter isOpen) = taken amount left offers
      ∧ leftover amount left (offers.filter isOpen)
        = leftover amount left offers := by
  induction offers generalizing left with
  | nil => simp
  | cons offer rest ih =>
    cases hopen : isOpen offer with
    | true =>
      have hle := h.le offer left hleft
      obtain ⟨htaken, hleftover⟩ :=
        @ih (left - amount offer left) (by omega)
      rw [List.filter_cons_of_pos hopen, taken_cons, taken_cons,
        leftover_cons, leftover_cons, htaken, hleftover]
      exact ⟨rfl, rfl⟩
    | false =>
      have hzero := h.closed offer left hleft hopen
      obtain ⟨htaken, hleftover⟩ := @ih left hleft
      rw [List.filter_cons_of_neg (by simp [hopen]), taken_cons,
        leftover_cons, hzero, Int.sub_zero, htaken, hleftover]
      simp

theorem taken_congr {amount' : α → Int → Int} {P : α × Int → Prop}
    (hleft : 0 ≤ left) (hle : ∀ offer left, 0 ≤ left → amount offer left ≤ left)
    (hsame : ∀ offer ∈ offers, ∀ left, 0 ≤ left →
      (0 < amount offer left → P (offer, amount offer left)) →
        amount' offer left = amount offer left)
    (hrows : ∀ row ∈ taken amount left offers, P row) :
    taken amount' left offers = taken amount left offers
      ∧ leftover amount' left offers = leftover amount left offers := by
  induction offers generalizing left with
  | nil => exact ⟨rfl, rfl⟩
  | cons offer rest ih =>
    have hrest : ∀ row ∈ taken amount (left - amount offer left) rest,
        P row := by
      intro row hrow
      apply hrows
      rw [taken_cons]
      split
      · exact List.mem_cons_of_mem _ hrow
      · exact hrow
    have hoffer : 0 < amount offer left → P (offer, amount offer left) := by
      intro hgives
      apply hrows
      rw [taken_cons, if_pos hgives]
      exact List.mem_cons_self
    have hequal := hsame offer List.mem_cons_self left hleft hoffer
    have hbound := hle offer left hleft
    obtain ⟨htaken, hleftover⟩ := ih (by omega)
      (fun other hother => hsame other (List.mem_cons_of_mem _ hother))
      hrest
    rw [taken_cons, taken_cons, leftover_cons, leftover_cons, hequal, htaken, hleftover]
    exact ⟨rfl, rfl⟩

theorem taken_amount {row : α × Int} (hrow : row ∈ taken amount left offers) :
    ∃ before, row.2 = amount row.1 before ∧ 0 < row.2 := by
  induction offers generalizing left with
  | nil => exact absurd hrow List.not_mem_nil
  | cons offer rest ih =>
    rw [taken_cons] at hrow
    split at hrow
    · next hgives =>
        rcases List.mem_cons.mp hrow with rfl | hrest
        · exact ⟨left, rfl, hgives⟩
        · exact ih hrest
    · exact ih hrow

theorem taken_sublist (amount : α → Int → Int) (left : Int) (offers : List α) :
    ((taken amount left offers).map Prod.fst).Sublist offers := by
  have hsublist : (taken amount left offers).Sublist (fill amount left offers) :=
    List.filter_sublist
  have hmap := hsublist.map Prod.fst
  rw [fill_map_fst] at hmap
  exact hmap

theorem Gives.taken_eq_nil_iff (h : Gives key isOpen amount) (hleft : 0 ≤ left)
    (offers : List α) :
    taken amount left offers = [] ↔ ∀ offer ∈ offers, amount offer left = 0 := by
  induction offers with
  | nil => simp
  | cons offer rest ih =>
    have hnonneg := h.nonneg offer left hleft
    rw [taken_cons, List.forall_mem_cons]
    split
    · next hgives =>
        constructor
        · intro hnil
          exact absurd hnil (List.cons_ne_nil _ _)
        · rintro ⟨hzero, -⟩
          omega
    · next hnone =>
        have hzero : amount offer left = 0 := by
          omega
        rw [hzero, Int.sub_zero, ih]
        simp

theorem Gives.leftover_tied (h : Gives key isOpen amount)
    (hopen : ∀ offer ∈ offers, isOpen offer = true)
    (hopen' : ∀ offer ∈ others, isOpen offer = true)
    (hkeys : offers.map key = others.map key) :
    leftover amount left offers = leftover amount left others := by
  induction offers generalizing others left with
  | nil =>
    rw [List.map_nil, eq_comm, List.map_eq_nil_iff] at hkeys
    rw [hkeys]
  | cons offer rest ih =>
    cases others with
    | nil => simp at hkeys
    | cons other rest' =>
      obtain ⟨hkey, hrest⟩ := List.cons.inj hkeys
      obtain ⟨hoffer, hall⟩ := List.forall_mem_cons.mp hopen
      obtain ⟨hother, hall'⟩ := List.forall_mem_cons.mp hopen'
      rw [leftover_cons, leftover_cons, h.tied offer other left hoffer hother hkey]
      exact ih hall hall' hrest

theorem Gives.taken_tied (h : Gives key isOpen amount)
    (hopen : ∀ offer ∈ offers, isOpen offer = true)
    (hopen' : ∀ offer ∈ others, isOpen offer = true)
    (hkeys : offers.map key = others.map key) :
    (taken amount left offers).map (fun row => (key row.1, row.2))
      = (taken amount left others).map fun row => (key row.1, row.2) := by
  induction offers generalizing others left with
  | nil =>
    rw [List.map_nil, eq_comm, List.map_eq_nil_iff] at hkeys
    rw [hkeys]
  | cons offer rest ih =>
    cases others with
    | nil => simp at hkeys
    | cons other rest' =>
      obtain ⟨hkey, hrest⟩ := List.cons.inj hkeys
      obtain ⟨hoffer, hall⟩ := List.forall_mem_cons.mp hopen
      obtain ⟨hother, hall'⟩ := List.forall_mem_cons.mp hopen'
      rw [taken_cons, taken_cons, h.tied offer other left hoffer hother hkey]
      split
      · rw [List.map_cons, List.map_cons, hkey, ih hall hall' hrest]
      · exact ih hall hall' hrest

end Fill

/-! ## Offers in the order of their keys -/

theorem eq_filter_append {p : α → Bool} {offers : List α}
    (h : offers.Pairwise fun a b => p b = true → p a = true) :
    offers = offers.filter p ++ offers.filter fun offer => !p offer := by
  induction offers with
  | nil => rfl
  | cons offer rest ih =>
    obtain ⟨hoffer, hrest⟩ := List.pairwise_cons.mp h
    by_cases hp : p offer = true
    · rw [List.filter_cons_of_pos hp, List.filter_cons_of_neg (by simp [hp]),
        List.cons_append, ← ih hrest]
    · have hnone : rest.filter p = [] := by
        rw [List.filter_eq_nil_iff]
        exact fun other hother hlater => hp (hoffer other hother hlater)
      have hall : (rest.filter fun offer => !p offer) = rest := by
        rw [List.filter_eq_self]
        intro other hother
        simpa using fun hlater => hp (hoffer other hother hlater)
      rw [List.filter_cons_of_neg hp, List.filter_cons_of_pos (by simp [hp]),
        hnone, hall, List.nil_append]

section Sorted

variable [LinearOrder κ] {key : α → κ} {isOpen : α → Bool} {amount : α → Int → Int}
  {left : Int} {offers others : List α}

def ByKey (key : α → κ) (a b : α) : Prop := key a ≤ key b

instance : DecidableRel (ByKey key) :=
  fun a b => inferInstanceAs (Decidable (key a ≤ key b))

instance : Std.Total (ByKey key) := ⟨fun a b => le_total (key a) (key b)⟩

instance : IsTrans α (ByKey key) := ⟨fun _ _ _ => le_trans⟩

theorem map_key_eq (h : offers.Pairwise (ByKey key))
    (h' : others.Pairwise (ByKey key)) (hperm : offers.Perm others) :
    offers.map key = others.map key := by
  apply (hperm.map key).eq_of_pairwise
  · exact fun _ _ _ _ => le_antisymm
  · exact List.pairwise_map.mpr h
  · exact List.pairwise_map.mpr h'

def leftBefore (key : α → κ) (amount : α → Int → Int) (left : Int)
    (offers : List α) (bound : κ) : Int :=
  leftover amount left
    ((offers.insertionSort (ByKey key)).filter fun offer => key offer < bound)

theorem Gives.leftBefore_perm (h : Gives key isOpen amount)
    (hleft : 0 ≤ left) (hperm : offers.Perm others) (bound : κ) :
    leftBefore key amount left offers bound
      = leftBefore key amount left others bound := by
  unfold leftBefore
  rw [← (h.filter_open hleft _).2,
    ← (h.filter_open hleft ((others.insertionSort (ByKey key)).filter _)).2]
  apply h.leftover_tied
  · exact fun offer hoffer => (List.mem_filter.mp hoffer).2
  · exact fun offer hoffer => (List.mem_filter.mp hoffer).2
  · apply map_key_eq
    · exact ((List.pairwise_insertionSort _ offers).filter _).filter _
    · exact ((List.pairwise_insertionSort _ others).filter _).filter _
    · apply List.Perm.filter
      apply List.Perm.filter
      exact (List.perm_insertionSort _ _).trans
        (hperm.trans (List.perm_insertionSort _ _).symm)

variable {before after : List α} {offer : α}

theorem filter_lt_eq (h : (before ++ offer :: after).Pairwise (ByKey key)) :
    (before ++ offer :: after).filter (fun other => key other < key offer)
      = before.filter fun other => key other < key offer := by
  obtain ⟨-, hafter, -⟩ := List.pairwise_append.mp h
  have hnone : (offer :: after).filter (fun other => key other < key offer)
      = [] := by
    apply List.filter_eq_nil_iff.mpr
    intro other hother
    rw [decide_eq_true_eq, not_lt]
    rcases List.mem_cons.mp hother with rfl | hother
    · exact le_refl _
    · exact (List.pairwise_cons.mp hafter).1 other hother
  rw [List.filter_append, hnone, List.append_nil]

theorem filter_lt_append (bound : κ) (h : before.Pairwise (ByKey key)) :
    before.filter (fun other => key other < bound)
        ++ before.filter (fun other => bound ≤ key other) = before := by
  have hsplit := eq_filter_append (p := fun other => key other < bound)
    (h.imp fun {a b} hle => by
      simp only [decide_eq_true_eq]
      exact lt_of_le_of_lt hle)
  have hrest : (fun other => !decide (key other < bound))
      = fun other => decide (bound ≤ key other) := by
    funext other
    rw [← decide_not, decide_eq_decide]
    exact not_lt
  rw [hrest] at hsplit
  exact hsplit.symm

theorem Gives.leftover_le (h : Gives key isOpen amount) (hleft : 0 ≤ left)
    (hsorted : (before ++ offer :: after).Pairwise (ByKey key)) :
    leftover amount left before ≤ leftover amount left
      ((before ++ offer :: after).filter
        fun other => key other < key offer) := by
  have hbefore := (List.pairwise_append.mp hsorted).1
  rw [filter_lt_eq hsorted]
  conv_lhs => rw [← filter_lt_append (key offer) hbefore, leftover_append]
  exact (h.leftover_bounds (h.leftover_bounds hleft _).1 _).2

/-! ## Listings -/

/-- Different open offers tie only where nothing more is taken. -/
def TiesIdle (key : α → κ) (isOpen : α → Bool) (amount : α → Int → Int)
    (left : Int) (offers : List α) : Prop :=
  ∀ offer ∈ offers, ∀ other ∈ offers, isOpen offer = true →
    isOpen other = true → key offer = key other → offer ≠ other →
      amount offer (leftBefore key amount left offers (key offer)) = 0

theorem taken_eq_of_tied (h : Gives key isOpen amount) (hleft : 0 ≤ left)
    {sorted sorted' before' after' : List α}
    (hsorted : sorted.Pairwise (ByKey key)) (hperm : sorted.Perm sorted')
    (hopen : ∀ offer ∈ sorted, isOpen offer = true)
    (hidle : ∀ offer ∈ sorted, ∀ other ∈ sorted, key offer = key other →
      offer ≠ other → amount offer (leftover amount left
        (sorted.filter fun other => key other < key offer)) = 0)
    (hsplit : sorted = before ++ after) (hsplit' : sorted' = before' ++ after')
    (hkeys : after.map key = after'.map key)
    (hsame : leftover amount left before = leftover amount left before') :
    taken amount (leftover amount left before) after
      = taken amount (leftover amount left before') after' := by
  induction after generalizing before before' after' with
  | nil =>
    rw [List.map_nil, eq_comm, List.map_eq_nil_iff] at hkeys
    rw [hkeys, taken_nil, taken_nil]
  | cons offer rest ih =>
    cases after' with
    | nil => simp at hkeys
    | cons other rest' =>
      obtain ⟨hkey, hrest⟩ := List.cons.inj hkeys
      have hmem : offer ∈ sorted := by simp [hsplit]
      have hmem' : other ∈ sorted := hperm.mem_iff.mpr (by simp [hsplit'])
      have hamount := h.tied offer other
        (leftover amount left before) (hopen offer hmem)
        (hopen other hmem') hkey
      have hbounds := h.leftover_bounds hleft before
      have hequal : 0 < amount offer (leftover amount left before) →
          offer = other := by
        intro hpositive
        by_contra hne
        have hle := h.leftover_le hleft (hsplit ▸ hsorted)
        rw [← hsplit] at hle
        have := h.mono offer _ _ hbounds.1 hle hpositive
        rw [hidle offer hmem other hmem' hkey hne] at this
        omega
      have hstep : leftover amount left (before ++ [offer])
          = leftover amount left (before' ++ [other]) := by
        simp only [leftover_append, leftover_cons, leftover_nil]
        rw [← hsame, hamount]
      have hnext := @ih (before ++ [offer]) (before' ++ [other]) rest'
        (by simp [hsplit]) (by simp [hsplit']) hrest hstep
      simp only [leftover_append, leftover_cons, leftover_nil] at hnext
      rw [taken_cons, taken_cons, hnext, ← hsame, ← hamount]
      split
      · next hpositive => rw [hequal hpositive]
      · rfl

def takenByKey (key : α → κ) (amount : α → Int → Int) (left : Int)
    (offers : List α) : List (α × Int) :=
  taken amount left (offers.insertionSort (ByKey key))

theorem Gives.takenByKey_eq_of_perm (h : Gives key isOpen amount)
    (hleft : 0 ≤ left) (hidle : TiesIdle key isOpen amount left offers)
    (hperm : offers.Perm others) :
    takenByKey key amount left offers = takenByKey key amount left others := by
  have hsorted := (List.pairwise_insertionSort (ByKey key) offers).filter isOpen
  have hsorted' := (List.pairwise_insertionSort (ByKey key) others).filter isOpen
  have hsame : ((offers.insertionSort (ByKey key)).filter isOpen).Perm
      ((others.insertionSort (ByKey key)).filter isOpen) := by
    apply List.Perm.filter
    exact (List.perm_insertionSort _ _).trans
      (hperm.trans (List.perm_insertionSort _ _).symm)
  have hmem : ∀ offer, offer ∈ (offers.insertionSort (ByKey key)).filter isOpen →
      offer ∈ offers ∧ isOpen offer = true := by
    intro offer hoffer
    obtain ⟨hoffer, hopen⟩ := List.mem_filter.mp hoffer
    exact ⟨(List.mem_insertionSort _).mp hoffer, hopen⟩
  have hties : ∀ offer ∈ (offers.insertionSort (ByKey key)).filter isOpen,
      ∀ other ∈ (offers.insertionSort (ByKey key)).filter isOpen,
        key offer = key other → offer ≠ other → amount offer (leftover amount left
            (((offers.insertionSort (ByKey key)).filter isOpen).filter
              fun other => key other < key offer)) = 0 := by
    intro offer hoffer other hother hkey hne
    obtain ⟨hoffer, hopen⟩ := hmem offer hoffer
    obtain ⟨hother, hopen'⟩ := hmem other hother
    rw [List.filter_comm, (h.filter_open hleft _).2]
    exact hidle offer hoffer other hother hopen hopen' hkey hne
  unfold takenByKey
  rw [← (h.filter_open hleft _).1,
    ← (h.filter_open hleft (others.insertionSort (ByKey key))).1]
  have htaken := taken_eq_of_tied h hleft hsorted hsame
    (fun offer hoffer => (hmem offer hoffer).2) hties
    (List.nil_append _).symm (List.nil_append _).symm
    (map_key_eq hsorted hsorted' hsame) rfl
  rwa [leftover_nil] at htaken

theorem takeWhile_stop {p : α → Bool} {stop : α} (offers after : List α)
    (hstop : p stop = false) :
    (offers.takeWhile p ++ stop :: after).takeWhile p = offers.takeWhile p := by
  rw [List.takeWhile_append_of_pos fun _ => List.mem_takeWhile_imp]
  simp [hstop]

theorem Gives.takenByKey_keys (h : Gives key isOpen amount)
    (hleft : 0 ≤ left) (hperm : offers.Perm others) :
    (takenByKey key amount left offers).map (fun row => (key row.1, row.2))
      = (takenByKey key amount left others).map
        fun row => (key row.1, row.2) := by
  unfold takenByKey
  rw [← (h.filter_open hleft _).1,
    ← (h.filter_open hleft (others.insertionSort (ByKey key))).1]
  apply h.taken_tied
  · exact fun offer hoffer => (List.mem_filter.mp hoffer).2
  · exact fun offer hoffer => (List.mem_filter.mp hoffer).2
  · apply map_key_eq
    · exact (List.pairwise_insertionSort _ offers).filter _
    · exact (List.pairwise_insertionSort _ others).filter _
    · apply List.Perm.filter
      exact (List.perm_insertionSort _ _).trans
        (hperm.trans (List.perm_insertionSort _ _).symm)

theorem insertionSort_tied {other : α} (rest : List α) (hkey : key offer = key other) :
    ∃ after, (offer :: other :: rest).insertionSort (ByKey key)
      = (rest.insertionSort (ByKey key)).takeWhile
          (fun earlier => key earlier < key offer) ++ offer :: after := by
  have hstop : decide (key other < key offer) = false := by
    simp [hkey]
  rw [List.insertionSort_cons_eq_take_drop, List.insertionSort_cons_eq_take_drop]
  simp only [ByKey, not_le, ← hkey]
  rw [takeWhile_stop (p := fun earlier => key earlier < key offer) _ _ hstop]
  exact ⟨_, rfl⟩

/-- Where a listing does not matter, different open offers tie only where
nothing more is taken. -/
theorem Gives.tiesIdle_of_perm (h : Gives key isOpen amount) (hleft : 0 ≤ left)
    (hsame : ∀ others, offers.Perm others →
      takenByKey key amount left offers = takenByKey key amount left others) :
    TiesIdle key isOpen amount left offers := by
  classical
  intro offer hoffer other hother hopen hopen' hkey hne
  have hrest : other ∈ offers.erase offer := (List.mem_erase_of_ne hne.symm).mpr hother
  let rest := (offers.erase offer).erase other
  have hperm : offers.Perm (offer :: other :: rest) :=
    (List.perm_cons_erase hoffer).trans ((List.perm_cons_erase hrest).cons _)
  have hperm' : offers.Perm (other :: offer :: rest) := hperm.trans (.swap _ _ _)
  let before := (rest.insertionSort (ByKey key)).takeWhile
    fun earlier => key earlier < key offer
  obtain ⟨after, hsorted⟩ := insertionSort_tied rest hkey
  obtain ⟨after', hsorted'⟩ := insertionSort_tied rest hkey.symm
  rw [← hkey] at hsorted'
  have htaken := (hsame _ hperm).symm.trans (hsame _ hperm')
  have hbefores : before.filter (fun earlier => key earlier < key offer)
      = before := by
    apply List.filter_eq_self.mpr
    exact fun earlier => List.mem_takeWhile_imp
  have hleftBefore : leftBefore key amount left offers (key offer)
      = leftover amount left before := by
    have hpairwise := List.pairwise_insertionSort (ByKey key)
      (offer :: other :: rest)
    rw [hsorted] at hpairwise
    rw [h.leftBefore_perm hleft hperm, leftBefore, hsorted, filter_lt_eq hpairwise,
      hbefores]
  rw [hleftBefore]
  by_contra hpositive
  have hnonneg := h.nonneg offer _ (h.leftover_bounds hleft before).1
  have hgives : 0 < amount offer (leftover amount left before) := by
    omega
  rw [takenByKey, takenByKey, hsorted, hsorted', taken_append, taken_append,
    List.append_cancel_left_eq, taken_cons, taken_cons, if_pos hgives,
    if_pos (h.tied offer other _ hopen hopen' hkey ▸ hgives)] at htaken
  exact hne (congrArg Prod.fst (List.cons.inj htaken).1)

/-- What is taken does not depend on the listing exactly when different open
offers tie only where nothing more is taken. -/
theorem Gives.takenByKey_perm_iff (h : Gives key isOpen amount) (hleft : 0 ≤ left) :
    (∀ others, offers.Perm others →
        takenByKey key amount left offers = takenByKey key amount left others)
      ↔ TiesIdle key isOpen amount left offers :=
  ⟨h.tiesIdle_of_perm hleft,
    fun hidle _ hperm => h.takenByKey_eq_of_perm hleft hidle hperm⟩

end Sorted

end Follon.Foundation
