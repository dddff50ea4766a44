import Follon.Foundation.Text

/-!
# Joined texts

Texts joined by one character are determined by their pieces: what is left
when every text is cut at each occurrence of that character.  Texts without
the character are their own pieces.
-/

namespace Follon.Foundation

def pieces (separator : Char) (text : String) : List (List Char) :=
  text.toList.splitOn separator

variable {separator : Char} {between : String}

theorem pieces_injective {left right : String}
    (h : pieces separator left = pieces separator right) : left = right := by
  apply toList_injective
  have hleft : [separator].intercalate (left.toList.splitOn separator)
      = left.toList := List.intercalate_splitOn separator
  have hright : [separator].intercalate (right.toList.splitOn separator)
      = right.toList := List.intercalate_splitOn separator
  rw [← hleft, ← hright]
  exact congrArg _ h

theorem pieces_of_not_mem {text : String} (h : separator ∉ text.toList) :
    pieces separator text = [text.toList] :=
  List.splitOn_eq_singleton h

variable {parts left right : List String}

theorem pieces_joinWith (hbetween : between.toList = [separator])
    (hparts : parts ≠ []) : pieces separator (joinWith between parts)
      = parts.flatMap (pieces separator) := by
  induction parts with
  | nil => contradiction
  | cons part rest ih =>
    cases rest with
    | nil => simp [joinWith]
    | cons next rest =>
      rw [joinWith_cons_cons, flatMap_cons, ← ih (List.cons_ne_nil _ _)]
      simp only [pieces, toList_append, hbetween, append_assoc,
        cons_append, nil_append]
      exact List.splitOn_append_cons_self _ _

theorem joinWith_ne_empty (hparts : parts ≠ [])
    (hfull : ∀ part ∈ parts, part ≠ "") : joinWith between parts ≠ "" := by
  cases parts with
  | nil => contradiction
  | cons part rest =>
    have hpart := hfull part mem_cons_self
    cases rest with
    | nil => exact hpart
    | cons next rest =>
      rw [joinWith_cons_cons]
      intro hempty
      have hchars := congrArg String.toList hempty
      simp only [toList_append, String.toList_empty,
        List.append_eq_nil_iff] at hchars
      exact hpart (toList_injective hchars.1.1)

theorem joinWith_eq_iff (hbetween : between.toList = [separator])
    (hleft : ∀ part ∈ left, part ≠ "") (hright : ∀ part ∈ right, part ≠ "") :
    joinWith between left = joinWith between right ↔
      left.flatMap (pieces separator) = right.flatMap (pieces separator) := by
  have hcut : ∀ {parts : List String}, parts ≠ [] →
      parts.flatMap (pieces separator) ≠ [] := by
    intro parts hparts hnone
    rw [← pieces_joinWith hbetween hparts] at hnone
    exact List.splitOn_ne_nil separator _ hnone
  by_cases hl : left = []
  · by_cases hr : right = []
    · rw [hl, hr]
      exact iff_of_true rfl rfl
    · rw [hl]
      exact iff_of_false (fun h => joinWith_ne_empty hr hright h.symm)
        (fun h => hcut hr h.symm)
  · by_cases hr : right = []
    · rw [hr]
      exact iff_of_false (joinWith_ne_empty hl hleft) (hcut hl)
    · rw [← pieces_joinWith hbetween hl, ← pieces_joinWith hbetween hr]
      exact ⟨congrArg _, pieces_injective⟩

theorem flatMap_pieces (h : ∀ part ∈ parts, separator ∉ part.toList) :
    parts.flatMap (pieces separator) = parts.map fun part => part.toList := by
  induction parts with
  | nil => rfl
  | cons part rest ih =>
    rw [forall_mem_cons] at h
    rw [flatMap_cons, map_cons, pieces_of_not_mem h.1, ih h.2]
    rfl

theorem joinWith_inj (hbetween : between.toList = [separator])
    (hleft : ∀ part ∈ left, part ≠ "" ∧ separator ∉ part.toList)
    (hright : ∀ part ∈ right, part ≠ "" ∧ separator ∉ part.toList)
    (h : joinWith between left = joinWith between right) : left = right := by
  have hpieces := (joinWith_eq_iff hbetween
    (fun part hpart => (hleft part hpart).1)
    (fun part hpart => (hright part hpart).1)).mp h
  rw [flatMap_pieces fun part hpart => (hleft part hpart).2,
    flatMap_pieces fun part hpart => (hright part hpart).2] at hpieces
  exact (List.map_inj_right fun _ _ => toList_inj.mp).mp hpieces

end Follon.Foundation

/-!
## Labelled lines

A text of one `label=value` line a field.  Where no value holds a line feed,
the text determines the values.
-/

namespace Follon.Foundation

def labelledLine (row : String × String) : String := row.1 ++ "=" ++ row.2 ++ "\n"

def labelledLines : List (String × String) → String
  | [] => ""
  | row :: rest => labelledLine row ++ labelledLines rest

def OneLine (value : String) : Prop := '\n' ∉ value.toList

theorem toList_labelledLines_cons (row : String × String)
    (rest : List (String × String)) : (labelledLines (row :: rest)).toList =
      row.1.toList ++ '=' :: (row.2.toList ++
        '\n' :: (labelledLines rest).toList) := by
  simp [labelledLines, labelledLine]

theorem before_first_inj {α : Type} {before before' after after' : List α}
    {separator : α} (hnone : separator ∉ before) (hnone' : separator ∉ before')
    (h : before ++ separator :: after = before' ++ separator :: after') :
    before = before' ∧ after = after' := by
  have hreverse := congrArg List.reverse h
  simp only [List.reverse_append, List.reverse_cons, append_assoc,
    List.singleton_append] at hreverse
  obtain ⟨hafter, hbefore⟩ := append_cons_inj
    (by simpa using hnone) (by simpa using hnone') hreverse
  exact ⟨List.reverse_inj.mp hbefore, List.reverse_inj.mp hafter⟩

variable {rows rows' : List (String × String)}

theorem labelledLines_inj (hlabels : rows.map (·.1) = rows'.map (·.1))
    (hplain : ∀ row ∈ rows, OneLine row.2) (hplain' : ∀ row ∈ rows', OneLine row.2)
    (h : labelledLines rows = labelledLines rows') : rows = rows' := by
  induction rows generalizing rows' with
  | nil =>
    symm
    simpa using hlabels.symm
  | cons row rest ih =>
    cases rows' with
    | nil => simp at hlabels
    | cons row' rest' =>
      simp only [map_cons, List.cons.injEq] at hlabels
      obtain ⟨hlabel, hlabels⟩ := hlabels
      obtain ⟨hrow, hrest⟩ := forall_mem_cons.mp hplain
      obtain ⟨hrow', hrest'⟩ := forall_mem_cons.mp hplain'
      have htext := congrArg String.toList h
      rw [toList_labelledLines_cons, toList_labelledLines_cons, hlabel,
        List.append_cancel_left_eq, List.cons.injEq] at htext
      obtain ⟨hvalue, hbelow⟩ := before_first_inj hrow hrow' htext.2
      rw [ih hlabels hrest hrest' (toList_injective hbelow)]
      exact congrArg (· :: rest')
        (Prod.ext hlabel (toList_injective hvalue))

def PlainRow (row : String × String) : Prop := '=' ∉ row.1.toList ∧ OneLine row.2

theorem labelledLines_injective (hplain : ∀ row ∈ rows, PlainRow row)
    (hplain' : ∀ row ∈ rows', PlainRow row)
    (h : labelledLines rows = labelledLines rows') : rows = rows' := by
  induction rows generalizing rows' with
  | nil =>
    cases rows' with
    | nil => rfl
    | cons row' rest' =>
      have hempty := congrArg String.toList h
      rw [toList_labelledLines_cons] at hempty
      simp [labelledLines] at hempty
  | cons row rest ih =>
    cases rows' with
    | nil =>
      have hempty := congrArg String.toList h
      rw [toList_labelledLines_cons] at hempty
      simp [labelledLines] at hempty
    | cons row' rest' =>
      obtain ⟨hrow, hrest⟩ := forall_mem_cons.mp hplain
      obtain ⟨hrow', hrest'⟩ := forall_mem_cons.mp hplain'
      have htext := congrArg String.toList h
      rw [toList_labelledLines_cons, toList_labelledLines_cons] at htext
      obtain ⟨hlabel, hafter⟩ := before_first_inj hrow.1 hrow'.1 htext
      obtain ⟨hvalue, hbelow⟩ := before_first_inj hrow.2 hrow'.2 hafter
      rw [ih hrest hrest' (toList_injective hbelow)]
      exact congrArg (· :: rest')
        (Prod.ext (toList_injective hlabel) (toList_injective hvalue))

end Follon.Foundation
