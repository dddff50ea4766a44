import Mathlib.Order.CompletePartialOrder
import Follon.MarketData.Quotes

/-!
# Runs and gaps

The runs of a sorted list of sequences and the gaps between them.
-/

namespace Follon.MarketData

open Foundation Domain

structure SequenceRange where
  instrumentId : String
  (from_ to_ : UInt64)
  deriving DecidableEq

namespace SequenceRange

def sequences (range : SequenceRange) : Set QuoteKey :=
  {key | key.1 = range.instrumentId ∧ range.from_ ≤ key.2 ∧
    key.2 ≤ range.to_}

def covered (ranges : List SequenceRange) : Set QuoteKey :=
  {key | ∃ range ∈ ranges, key ∈ range.sequences}

@[simp] theorem covered_nil : covered [] = ∅ := by
  ext key
  simp [covered]

theorem mem_covered_append {ranges ranges' : List SequenceRange} {key : QuoteKey} :
    key ∈ covered (ranges ++ ranges') ↔
      key ∈ covered ranges ∨ key ∈ covered ranges' := by
  simp [covered, or_and_right, exists_or]

theorem mem_covered_singleton {range : SequenceRange} {key : QuoteKey} :
    key ∈ covered [range] ↔ key ∈ range.sequences := by
  simp [covered]

end SequenceRange

open SequenceRange

/-! ## The source's loops -/

def checkedSucc (sequence : UInt64) : Option UInt64 :=
  if sequence.toNat + 1 < 2 ^ 64 then some (sequence + 1) else none

def extendRuns (ranges : List SequenceRange) (key : QuoteKey) : List SequenceRange :=
  match ranges.getLast? with
  | some last =>
    if last.instrumentId = key.1 ∧ checkedSucc last.to_ = some key.2 then
      ranges.dropLast ++ [{ last with to_ := key.2 }]
    else
      ranges ++ [⟨key.1, key.2, key.2⟩]
  | none => ranges ++ [⟨key.1, key.2, key.2⟩]

def runs (keys : List QuoteKey) : List SequenceRange := keys.foldl extendRuns []

def gapBetween (previous key : QuoteKey) : List SequenceRange :=
  if previous.1 = key.1 ∧ previous.2 + 1 < key.2 then
    [⟨previous.1, previous.2 + 1, key.2 - 1⟩]
  else
    []

def gapsOf : List QuoteKey → List SequenceRange
  | previous :: key :: rest => gapBetween previous key ++ gapsOf (key :: rest)
  | _ => []

/-! ## The order of sequences -/

namespace QuoteKey

variable {first second third later : QuoteKey}

theorem Before.trans (h : first.Before second) (h' : second.Before third)
    : first.Before third := by
  unfold Before at *
  rcases h with h | h <;> rcases h' with h' | h'
  · exact .inl (lt_trans h h')
  · exact .inl (h'.1 ▸ h)
  · exact .inl (h.1 ▸ h')
  · exact .inr ⟨h.1.trans h'.1, UInt64.lt_trans h.2 h'.2⟩

variable {key : QuoteKey}

theorem Before.irrefl : ¬key.Before key := by
  intro h
  cases h with
  | inl h => exact lt_irrefl _ h
  | inr h => exact UInt64.lt_irrefl _ h.2

theorem Before.asymm (h : key.Before later) : ¬later.Before key :=
  fun h' => (h.trans h').irrefl

theorem Before.instrument (h : first.Before second) (h' : second.Before third)
    (hsame : first.1 = third.1) : first.1 = second.1 := by
  rcases h with h | h
  · rcases h' with h' | h'
    · exact absurd (lt_trans h h') (hsame ▸ lt_irrefl _)
    · exact absurd h (by rw [hsame, h'.1]; exact lt_irrefl _)
  · exact h.1

theorem Before.sequence (h : key.Before later) (hsame : key.1 = later.1)
    : key.2 < later.2 := by
  rcases h with h | h
  · exact absurd h (hsame ▸ lt_irrefl _)
  · exact h.2

end QuoteKey

def Between (keys : List QuoteKey) (key : QuoteKey) : Prop :=
  ∃ first ∈ keys, ∃ last ∈ keys, first.1 = key.1 ∧ last.1 = key.1 ∧
    first.2 < key.2 ∧ key.2 < last.2

/-! ## Gaps -/

theorem toNat_succ {sequence later : UInt64} (h : sequence < later) :
    (sequence + 1).toNat = sequence.toNat + 1 := by
  have hlt := UInt64.lt_iff_toNat_lt.mp h
  have hlimit := later.toNat_lt
  rw [UInt64.toNat_add, UInt64.toNat_one, Nat.mod_eq_of_lt]
  omega

theorem toNat_pred {sequence earlier : UInt64} (h : earlier < sequence) :
    (sequence - 1).toNat = sequence.toNat - 1 := by
  have hlt := UInt64.lt_iff_toNat_lt.mp h
  rw [UInt64.toNat_sub_of_le]
  · rfl
  · rw [UInt64.le_iff_toNat_le, UInt64.toNat_one]
    omega

variable {next key : QuoteKey} {keys seen : List QuoteKey}
  {ranges : List SequenceRange}

variable {previous : QuoteKey}

theorem mem_gapBetween (h : previous.Before next) :
    key ∈ covered (gapBetween previous next) ↔
      previous.1 = key.1 ∧ next.1 = key.1 ∧ previous.2 < key.2 ∧
        key.2 < next.2 := by
  unfold gapBetween
  by_cases hsame : previous.1 = next.1
  · have hlt := h.sequence hsame
    have hsucc := toNat_succ hlt
    have hpred := toNat_pred hlt
    split
    · next hgap =>
        rw [mem_covered_singleton]
        simp only [sequences, Set.mem_ofPred_eq, UInt64.le_iff_toNat_le,
          UInt64.lt_iff_toNat_lt, hsucc, hpred] at hlt ⊢
        constructor
        · intro hmem
          exact ⟨hmem.1.symm, hsame ▸ hmem.1.symm, by omega, by omega⟩
        · intro hmem
          exact ⟨hmem.1.symm, by omega, by omega⟩
    · next hgap =>
        rw [covered_nil]
        simp only [Set.mem_empty_iff_false, false_iff]
        intro hmem
        have hnear : ¬previous.2 + 1 < next.2 := fun hlt => hgap ⟨hsame, hlt⟩
        simp only [UInt64.lt_iff_toNat_lt, hsucc] at hnear hmem
        omega
  · rw [if_neg fun hgap => hsame hgap.1, covered_nil]
    simp only [Set.mem_empty_iff_false, false_iff]
    intro hmem
    exact hsame (hmem.1.trans hmem.2.1.symm)

theorem between_cons {rest : List QuoteKey}
    (h : (previous :: next :: rest).Pairwise QuoteKey.Before)
    (hkey : key ∉ next :: rest) : Between (previous :: next :: rest) key ↔
      (previous.1 = key.1 ∧ next.1 = key.1 ∧ previous.2 < key.2 ∧
        key.2 < next.2) ∨ Between (next :: rest) key := by
  rw [pairwise_cons] at h
  constructor
  · rintro ⟨first, hfirst, last, hlast, hsame, hsame', hlt, hlt'⟩
    cases mem_cons.mp hlast with
    | inl heq =>
      have hbefore : first.Before last :=
        .inr ⟨hsame.trans hsame'.symm, UInt64.lt_trans hlt hlt'⟩
      cases mem_cons.mp hfirst with
      | inl heq' => exact absurd (heq ▸ heq' ▸ hbefore) QuoteKey.Before.irrefl
      | inr hrest => exact absurd (h.1 first hrest) (heq ▸ hbefore).asymm
    | inr hlater =>
      cases mem_cons.mp hfirst with
      | inr hfirst =>
        exact .inr ⟨first, hfirst, last, hlater, hsame, hsame', hlt, hlt'⟩
      | inl heq =>
        subst heq
        have hnext := h.1 next mem_cons_self
        have hnextKey : next.1 = key.1 := by
          cases mem_cons.mp hlater with
          | inl heq' => rw [← heq', hsame']
          | inr hin =>
            have hnextLast := (pairwise_cons.mp h.2).1 last hin
            rw [← hsame]
            exact (hnext.instrument hnextLast (hsame.trans hsame'.symm)).symm
        by_cases hgap : key.2 < next.2
        · exact .inl ⟨hsame, hnextKey, hlt, hgap⟩
        · have hne : next.2 ≠ key.2 := by
            intro heq
            apply hkey
            have hsameKey : next = key := Prod.ext hnextKey heq
            rw [← hsameKey]
            exact mem_cons_self
          have hbelow : next.2 < key.2 := by
            simp only [UInt64.lt_iff_toNat_lt, ne_eq,
              ← UInt64.toNat_inj] at hgap hne ⊢
            omega
          exact .inr ⟨next, mem_cons_self, last, hlater, hnextKey,
            hsame', hbelow, hlt'⟩
  · intro hcases
    cases hcases with
    | inl hgap =>
      exact ⟨previous, mem_cons_self, next,
        mem_cons_of_mem _ mem_cons_self, hgap⟩
    | inr hrest =>
      obtain ⟨first, hfirst, last, hlast, hkeys⟩ := hrest
      exact ⟨first, mem_cons_of_mem _ hfirst, last, mem_cons_of_mem _ hlast, hkeys⟩

theorem mem_gapsOf (h : keys.Pairwise QuoteKey.Before) :
    key ∈ covered (gapsOf keys) ↔ key ∉ keys ∧ Between keys key := by
  induction keys with
  | nil => simp [gapsOf, Between]
  | cons previous rest ih =>
    cases rest with
    | nil =>
      simp only [gapsOf, covered_nil, Set.mem_empty_iff_false, false_iff, not_and]
      rintro hkey ⟨first, hfirst, last, hlast, hsame, hsame', hlt, hlt'⟩
      rw [mem_singleton] at hfirst hlast
      subst hfirst hlast
      exact UInt64.lt_irrefl _ (UInt64.lt_trans hlt hlt')
    | cons next rest =>
      have hpairs := pairwise_cons.mp h
      rw [gapsOf, mem_covered_append,
        mem_gapBetween (hpairs.1 next mem_cons_self), ih hpairs.2]
      by_cases hin : key ∈ next :: rest
      · have hnot : key ∈ previous :: next :: rest :=
          mem_cons_of_mem _ hin
        simp only [hin, hnot, not_true_eq_false, false_and, or_false, iff_false]
        rintro ⟨hsame, hsame', hlt, hlt'⟩
        have hbefore : key.Before next := .inr ⟨hsame'.symm, hlt'⟩
        cases mem_cons.mp hin with
        | inl heq =>
          rw [heq] at hbefore
          exact QuoteKey.Before.irrefl hbefore
        | inr hrest =>
          exact ((pairwise_cons.mp hpairs.2).1 key hrest).asymm
            hbefore
      · rw [between_cons h hin]
        constructor
        · intro hcases
          refine ⟨?_, hcases.imp_right And.right⟩
          rw [mem_cons, not_or]
          refine ⟨?_, hin⟩
          rintro rfl
          cases hcases with
          | inl hgap => exact UInt64.lt_irrefl _ hgap.2.2.1
          | inr hrest =>
            obtain ⟨-, first, hfirst, last, -, hsame, -, hlt, -⟩ := hrest
            exact (hpairs.1 first hfirst).asymm (.inr ⟨hsame, hlt⟩)
        · intro hboth
          exact hboth.2.imp_right fun hrest => ⟨hin, hrest⟩

def Apart (ranges : List SequenceRange) : Prop :=
  ranges.Pairwise fun range range' => Disjoint range.sequences range'.sequences

theorem gapBetween_length (previous key : QuoteKey) :
    gapBetween previous key = [] ∨ ∃ range, gapBetween previous key = [range] := by
  unfold gapBetween
  split
  · exact .inr ⟨_, rfl⟩
  · exact .inl rfl

theorem apart_gapsOf (h : keys.Pairwise QuoteKey.Before) : Apart (gapsOf keys) := by
  induction keys with
  | nil => exact List.Pairwise.nil
  | cons previous rest ih =>
    cases rest with
    | nil => exact List.Pairwise.nil
    | cons next rest =>
      have hpairs := pairwise_cons.mp h
      rw [gapsOf, Apart, pairwise_append]
      refine ⟨?_, ih hpairs.2, ?_⟩
      · cases gapBetween_length previous next with
        | inl hnil => rw [hnil]; exact List.Pairwise.nil
        | inr hone =>
          rw [hone.choose_spec]
          exact List.pairwise_singleton _ _
      · intro range hrange range' hrange'
        rw [Set.disjoint_left]
        intro key hkey hkey'
        have hbefore : key.Before next := by
          have hgap := (mem_gapBetween (hpairs.1 next
            mem_cons_self)).mp ⟨range, hrange, hkey⟩
          exact .inr ⟨hgap.2.1.symm, hgap.2.2.2⟩
        obtain ⟨hnot, first, hfirst, -, -, hsame, -, hlt, -⟩ :=
          (mem_gapsOf hpairs.2).mp ⟨range', hrange', hkey'⟩
        have hafter : first.Before key := .inr ⟨hsame, hlt⟩
        cases mem_cons.mp hfirst with
        | inl heq =>
          rw [heq] at hafter
          exact hafter.asymm hbefore
        | inr hin =>
          exact (((pairwise_cons.mp hpairs.2).1 first hin).trans
            hafter).asymm hbefore

/-! ## Runs -/

structure RunsOf (seen : List QuoteKey) (ranges : List SequenceRange) :
    Prop where
  covered : ∀ key, key ∈ covered ranges ↔ key ∈ seen
  apart : Apart ranges
  last : ∀ last ∈ ranges.getLast?, last.from_ ≤ last.to_

theorem runsOf_nil : RunsOf [] [] where
  covered := by simp
  apart := List.Pairwise.nil
  last := by simp

theorem toNat_of_checkedSucc {sequence next : UInt64}
    (h : checkedSucc sequence = some next) : next.toNat = sequence.toNat + 1 := by
  unfold checkedSucc at h
  split at h
  · next hlimit =>
      rw [← Option.some.inj h, UInt64.toNat_add, UInt64.toNat_one,
        Nat.mod_eq_of_lt hlimit]
  · contradiction

theorem mem_extended {range : SequenceRange} (hrange : range.from_ ≤ range.to_)
    (hsame : range.instrumentId = next.1) (hnext : checkedSucc range.to_ = some next.2) :
    key ∈ ({ range with to_ := next.2 } : SequenceRange).sequences ↔
      key ∈ range.sequences ∨ key = next := by
  have hsucc := toNat_of_checkedSucc hnext
  simp only [sequences, Set.mem_ofPred_eq, Prod.ext_iff, hsame,
    UInt64.le_iff_toNat_le, ← UInt64.toNat_inj, hsucc] at hrange ⊢
  constructor
  · intro hmem
    by_cases hlast : key.2.toNat ≤ range.to_.toNat
    · exact .inl ⟨hmem.1, hmem.2.1, hlast⟩
    · exact .inr ⟨hmem.1, by omega⟩
  · intro hcases
    cases hcases with
    | inl hmem => exact ⟨hmem.1, hmem.2.1, by omega⟩
    | inr heq => exact ⟨heq.1, by omega, by omega⟩

theorem mem_single : key ∈ (⟨next.1, next.2, next.2⟩ : SequenceRange).sequences ↔
      key = next := by
  simp only [sequences, Set.mem_ofPred_eq, Prod.ext_iff,
    UInt64.le_iff_toNat_le, ← UInt64.toNat_inj]
  apply and_congr_right
  intro
  omega

theorem RunsOf.start (h : RunsOf seen ranges) (hkey : key ∉ seen) :
    RunsOf (seen ++ [key]) (ranges ++ [⟨key.1, key.2, key.2⟩]) where
  covered := by
    intro key'
    rw [mem_covered_append, mem_covered_singleton, h.covered, mem_single,
      mem_append, mem_singleton]
  apart := by
    rw [Apart, pairwise_append]
    refine ⟨h.apart, List.pairwise_singleton _ _, ?_⟩
    intro range hrange range' hrange'
    rw [mem_singleton] at hrange'
    subst hrange'
    rw [Set.disjoint_left]
    intro key' hkey' hsame
    rw [mem_single] at hsame
    rw [hsame] at hkey'
    exact hkey ((h.covered key).mp ⟨range, hrange, hkey'⟩)
  last := by simp

theorem RunsOf.extend {last : SequenceRange}
    (h : RunsOf seen (ranges ++ [last])) (hkey : key ∉ seen)
    (hsame : last.instrumentId = key.1) (hnext : checkedSucc last.to_ = some key.2) :
    RunsOf (seen ++ [key]) (ranges ++ [{ last with to_ := key.2 }]) := by
  have hrange := h.last last (by simp)
  exact
    { covered := by
        intro key'
        rw [mem_covered_append, mem_covered_singleton, mem_extended hrange hsame hnext,
          mem_append, mem_singleton, ← h.covered, mem_covered_append,
          mem_covered_singleton, or_assoc]
      apart := by
        have hapart := pairwise_append.mp h.apart
        rw [Apart, pairwise_append]
        refine ⟨hapart.1, List.pairwise_singleton _ _, ?_⟩
        intro range hmem range' hmem'
        rw [mem_singleton] at hmem'
        subst hmem'
        rw [Set.disjoint_left]
        intro key' hkey' hextended
        rw [mem_extended hrange hsame hnext] at hextended
        cases hextended with
        | inl hlast =>
          exact Set.disjoint_left.mp
            (hapart.2.2 range hmem last mem_cons_self) hkey' hlast
        | inr heq =>
          rw [heq] at hkey'
          exact hkey ((h.covered key).mp ⟨range, mem_append_left _ hmem, hkey'⟩)
      last := by
        have hsucc := toNat_of_checkedSucc hnext
        simp only [List.getLast?_append, List.getLast?_singleton,
          Option.some_or, Option.mem_def, Option.some.injEq, forall_eq',
          UInt64.le_iff_toNat_le, hsucc] at hrange ⊢
        omega }

theorem RunsOf.extendRuns (h : RunsOf seen ranges) (hkey : key ∉ seen) :
    RunsOf (seen ++ [key]) (extendRuns ranges key) := by
  unfold MarketData.extendRuns
  cases hlast : ranges.getLast? with
  | none => exact h.start hkey
  | some last =>
    dsimp only
    split
    · next hnext =>
        rw [← List.dropLast_append_getLast? last hlast] at h
        exact h.extend hkey hnext.1 hnext.2
    · exact h.start hkey

theorem runsOf_runs (h : keys.Nodup) : RunsOf keys (runs keys) := by
  have hall : ∀ (seen : List QuoteKey) (ranges : List SequenceRange),
      RunsOf seen ranges → (seen ++ keys).Nodup →
        RunsOf (seen ++ keys) (keys.foldl MarketData.extendRuns ranges) := by
    clear h
    induction keys with
    | nil =>
      intro seen ranges h hnodup
      rwa [append_nil]
    | cons key keys ih =>
      intro seen ranges h hnodup
      rw [List.append_cons] at hnodup ⊢
      have hkey : key ∉ seen := by
        have := (List.nodup_append.mp (List.nodup_append.mp hnodup).1).2.2
        intro hin
        exact this key hin key mem_cons_self rfl
      exact ih (seen ++ [key]) (MarketData.extendRuns ranges key)
        (h.extendRuns hkey) hnodup
  exact hall [] [] runsOf_nil h

theorem nodup_of_before (h : keys.Pairwise QuoteKey.Before) : keys.Nodup := by
  apply h.imp
  intro key later hbefore heq
  rw [heq] at hbefore
  exact QuoteKey.Before.irrefl hbefore

end Follon.MarketData
