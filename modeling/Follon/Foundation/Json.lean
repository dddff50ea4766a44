import Follon.Foundation.Text
import Mathlib.Data.List.Basic

/-!
# JSON values and their text

Values with integer numbers, printed without white space.  How a character of
a string is spelled is a parameter of the printer, so that two encoders can be
compared.
-/

namespace Follon.Foundation

inductive Json where
  | null
  | bool (value : Bool)
  | num (value : Int)
  | str (value : String)
  | arr (items : List Json)
  | obj (members : List (String × Json))

namespace Json

theorem induct {motive : Json → Prop} (null : motive .null)
    (bool : ∀ value, motive (.bool value)) (num : ∀ value, motive (.num value))
    (str : ∀ value, motive (.str value))
    (arr : ∀ items, (∀ item ∈ items, motive item) → motive (.arr items))
    (obj : ∀ members, (∀ member ∈ members, motive member.2) →
      motive (.obj members)) (value : Json) : motive value := by
  refine @Json.rec motive (fun items => ∀ item ∈ items, motive item)
    (fun members => ∀ member ∈ members, motive member.2)
    (fun member => motive member.2)
    null bool num str arr obj ?_ ?_ ?_ ?_ ?_ value
  · exact fun item hitem => absurd hitem (not_mem_nil)
  · exact fun head tail hhead htail => forall_mem_cons.mpr ⟨hhead, htail⟩
  · exact fun member hmember => absurd hmember (not_mem_nil)
  · exact fun head tail hhead htail => forall_mem_cons.mpr ⟨hhead, htail⟩
  · exact fun _ _ hvalue => hvalue

/-! ## Printing -/

def quote (escape : Char → List Char) (text : String) : String :=
  "\"" ++ String.ofList (text.toList.flatMap escape) ++ "\""

mutual

def print (escape : Char → List Char) : Json → String
  | .null => "null"
  | .bool value => toString value
  | .num value => toString value
  | .str value => quote escape value
  | .arr items => "[" ++ joinWith "," (printItems escape items) ++ "]"
  | .obj members =>
    "\x7b" ++ joinWith "," (printMembers escape members) ++ "\x7d"

def printItems (escape : Char → List Char) : List Json → List String
  | [] => []
  | item :: rest => print escape item :: printItems escape rest

def printMembers (escape : Char → List Char) : List (String × Json) → List String
  | [] => []
  | (name, value) :: rest =>
    (quote escape name ++ ":" ++ print escape value) ::
      printMembers escape rest

end

def printMember (escape : Char → List Char) (member : String × Json) : String :=
  quote escape member.1 ++ ":" ++ print escape member.2

variable {escape escape' : Char → List Char}

theorem printItems_eq (items : List Json) :
    printItems escape items = items.map (print escape) := by
  induction items with
  | nil => rfl
  | cons item rest ih => rw [printItems, ih, map_cons]

theorem printMembers_eq (members : List (String × Json)) :
    printMembers escape members = members.map (printMember escape) := by
  induction members with
  | nil => rfl
  | cons member rest ih => rw [printMembers, ih, map_cons, printMember]

theorem print_arr (items : List Json) : print escape (.arr items)
      = "[" ++ joinWith "," (items.map (print escape)) ++ "]" := by
  rw [print, printItems_eq]

theorem print_obj (members : List (String × Json)) : print escape (.obj members)
      = "\x7b" ++ joinWith "," (members.map (printMember escape)) ++ "\x7d" := by
  rw [print, printMembers_eq]

/-! ## The characters of a value -/

mutual

def all (p : Char → Bool) : Json → Bool
  | .str value => value.toList.all p
  | .arr items => allItems p items
  | .obj members => allMembers p members
  | _ => true

def allItems (p : Char → Bool) : List Json → Bool
  | [] => true
  | item :: rest => all p item && allItems p rest

def allMembers (p : Char → Bool) : List (String × Json) → Bool
  | [] => true
  | (name, value) :: rest =>
    name.toList.all p && all p value && allMembers p rest

end

variable {p : Char → Bool}

theorem all_arr (items : List Json) : all p (.arr items) = items.all (all p) := by
  rw [all]
  induction items with
  | nil => rfl
  | cons item rest ih => rw [allItems, ih, List.all_cons]

theorem all_obj (members : List (String × Json)) : all p (.obj members)
      = members.all fun member => member.1.toList.all p && all p member.2 := by
  rw [all]
  induction members with
  | nil => rfl
  | cons member rest ih => rw [allMembers, ih, List.all_cons]

variable {text : String} {c : Char}

theorem quote_congr (h : ∀ c ∈ text.toList, escape c = escape' c) :
    quote escape text = quote escape' text := by
  rw [quote, quote, List.flatMap_congr h]

theorem print_congr {value : Json} (hall : all p value = true)
    (h : ∀ c, p c = true → escape c = escape' c) :
    print escape value = print escape' value := by
  have hquote : ∀ text : String, text.toList.all p = true →
      quote escape text = quote escape' text := fun text htext =>
    quote_congr fun c hc => h c (all_eq_true.mp htext c hc)
  induction value using induct with
  | null => rw [print, print]
  | bool => rw [print, print]
  | num => rw [print, print]
  | str value =>
    rw [print, print, hquote value (by simpa [all] using hall)]
  | arr items ih =>
    rw [all_arr, all_eq_true] at hall
    rw [print_arr, print_arr,
      List.map_congr_left fun item hitem => ih item hitem (hall item hitem)]
  | obj members ih =>
    rw [all_obj, all_eq_true] at hall
    have hmembers : ∀ member ∈ members,
        printMember escape member = printMember escape' member := by
      intro member hmember
      have hboth := Bool.and_eq_true_iff.mp (hall member hmember)
      rw [printMember, printMember, hquote member.1 hboth.1, ih member hmember hboth.2]
    rw [print_obj, print_obj, List.map_congr_left hmembers]

/-! ## What a text holds -/

theorem toList_toString (n : Int) : (toString n).toList
      = (if n < 0 then ['-'] else []) ++ Nat.toDigits 10 n.natAbs := by
  cases n with
  | ofNat m =>
    have hnonneg : ¬Int.ofNat m < 0 := by simp
    rw [if_neg hnonneg]
    exact toList_ofList
  | negSucc m =>
    rw [if_pos (Int.negSucc_lt_zero m)]
    change ("-" ++ Nat.repr (m + 1)).toList = _
    rw [toList_append]
    exact congrArg _ toList_ofList

def isOutside (c : Char) : Bool := c.toNat < 0x20 || 0x7F ≤ c.toNat

theorem not_isOutside_of_isAsciiDigit (h : isAsciiDigit c = true)
    : isOutside c = false := by
  simp only [isAsciiDigit, and_eq_true, decide_eq_true_eq] at h
  have hlow : 48 ≤ c.toNat := h.1
  have hhigh : c.toNat ≤ 57 := h.2
  simp only [isOutside, Bool.or_eq_false_iff, decide_eq_false_iff_not]
  omega

theorem not_mem_of_isOutside {text : List Char} (hc : isOutside c = true)
    (htext : text.all (!isOutside ·) = true) : c ∉ text := by
  intro hmem
  have hnot := all_eq_true.mp htext c hmem
  rw [hc] at hnot
  contradiction

theorem not_mem_quote (hc : isOutside c = true) (hescape : ∀ d, c ∉ escape d)
    : c ∉ (quote escape text).toList := by
  have hmark : c ∉ ("\"" : String).toList := not_mem_of_isOutside hc (by decide)
  simp only [quote, toList_append, toList_ofList,
    mem_append, List.mem_flatMap, not_or, not_exists, not_and]
  exact ⟨⟨hmark, fun d _ => hescape d⟩, hmark⟩

theorem not_mem_print (hc : isOutside c = true) (hescape : ∀ d, c ∉ escape d)
    (value : Json) : c ∉ (print escape value).toList := by
  have hcomma : c ∉ ("," : String).toList := not_mem_of_isOutside hc (by decide)
  induction value using induct with
  | null =>
    rw [print]
    exact not_mem_of_isOutside hc (by decide)
  | bool value =>
    rw [print]
    cases value with
    | false => exact not_mem_of_isOutside hc (by decide)
    | true => exact not_mem_of_isOutside hc (by decide)
  | num value =>
    rw [print, toList_toString]
    refine not_mem_of_isOutside hc (all_eq_true.mpr fun d hd => ?_)
    rcases mem_append.mp hd with hd | hd
    · split at hd
      · rw [mem_singleton.mp hd]
        rfl
      · contradiction
    · rw [not_isOutside_of_isAsciiDigit (isAsciiDigit_of_mem_toDigits hd)]
      rfl
  | str value =>
    rw [print]
    exact not_mem_quote hc hescape
  | arr items ih =>
    have hitems : ∀ part ∈ items.map (print escape), c ∉ part.toList := by
      intro part hpart
      obtain ⟨item, hitem, rfl⟩ := mem_map.mp hpart
      exact ih item hitem
    simp only [print_arr, toList_append, mem_append, not_or]
    exact ⟨⟨not_mem_of_isOutside hc (by decide),
      not_mem_joinWith hcomma hitems⟩, not_mem_of_isOutside hc (by decide)⟩
  | obj members ih =>
    have hmembers : ∀ part ∈ members.map (printMember escape),
        c ∉ part.toList := by
      intro part hpart
      obtain ⟨member, hmember, rfl⟩ := mem_map.mp hpart
      simp only [printMember, toList_append, mem_append, not_or]
      exact ⟨⟨not_mem_quote hc hescape,
        not_mem_of_isOutside hc (by decide)⟩, ih member hmember⟩
    simp only [print_obj, toList_append, mem_append, not_or]
    exact ⟨⟨not_mem_of_isOutside hc (by decide),
      not_mem_joinWith hcomma hmembers⟩, not_mem_of_isOutside hc (by decide)⟩

end Json

end Follon.Foundation
