import Follon.Foundation.Digest
import Follon.Foundation.VerbatimJson

/-!
# Ids from a shortened digest

A record is named by a tag and the first digits of the digest of some of its
text.  Such a name tells two records apart exactly where that text does.
-/

namespace Follon.Foundation

section

variable [ContentHash]

def shortDigest (text : String) : String :=
  String.ofList ((sha256Hex text).toList.take 16)

def shortId (tag text : String) : String := tag ++ shortDigest text

def TellsApart (text text' : String) : Prop :=
  shortDigest text = shortDigest text' → text = text'

theorem shortId_eq_iff {tag text text' : String} (h : TellsApart text text') :
    shortId tag text = shortId tag text' ↔ text = text' := by
  constructor
  · intro hid
    exact h (String.append_right_inj tag |>.mp hid)
  · rintro rfl
    rfl

/-- Different records have different names exactly when the named text tells
them apart. -/
theorem names_apart_iff {ρ : Type} {nameOf : ρ → String} {record record' : ρ}
    {same : Prop} {tag text text' : String} (h : TellsApart text text')
    (hname : nameOf record = shortId tag text)
    (hname' : nameOf record' = shortId tag text') (hsame : record = record' ↔ same) :
    (record ≠ record' → nameOf record ≠ nameOf record') ↔
      same ∨ text ≠ text' := by
  rw [hname, hname', ne_eq, ne_eq, shortId_eq_iff h, hsame]
  by_cases hrecords : same
  · simp [hrecords]
  · simp [hrecords]

theorem plainText_shortDigest (h : PrintsDigests) (text : String) :
    Json.PlainText (shortDigest text) := by
  have hdigest := h text.toUTF8.toList
  rw [isDigest, and_eq_true, all_eq_true] at hdigest
  unfold Json.PlainText
  rw [shortDigest, toList_ofList, all_eq_true]
  intro c hc
  have hhex := hdigest.2 c (List.mem_of_mem_take hc)
  simp only [isAsciiDigit, or_eq_true, and_eq_true,
    decide_eq_true_eq] at hhex
  have hrange : 48 ≤ c.toNat ∧ c.toNat ≤ 57 ∨ 97 ≤ c.toNat ∧ c.toNat ≤ 102 := hhex
  refine (Json.isPlain_iff c).mpr ⟨?_, ?_, by omega⟩
  · rintro rfl
    revert hrange
    decide
  · rintro rfl
    revert hrange
    decide

theorem plainText_shortId (h : PrintsDigests) {tag : String}
    (htag : Json.PlainText tag) (text : String) : Json.PlainText (shortId tag text) :=
  Json.plainText_append.mpr ⟨htag, plainText_shortDigest h text⟩

end

end Follon.Foundation
