/-
# Resource identifiers as text

Four dots stand in front of the locator, and none of them inside a part of a valid identifier. So
the dots of the locator cannot be taken for others: an identifier is found again in its text, and
what is read has the text it was read from.

## Main definitions

* `ResourceId.Valid`: every part keeps to its alphabet.

## Main results

* `ResourceId.ofText_eq_ok_iff`: what is read, and from which text;
* `ResourceId.text?_eq_ok_iff`: what is written, and as which text;
* `ResourceId.text_bijection`: writing and reading undo each other.
-/

import Accord.Primitive.ResourceId
import Accord.Proofs.Text.Pieces
import Accord.Proofs.Text.Utf8

namespace Accord.ResourceId

variable {r : ResourceId} {t : Text}

/-! ### Alphabets -/

/-- A text of at least one byte, the first from one alphabet and the others from another. -/
def Spelled (first others : UInt8 → Prop) (t : Text) : Prop :=
  ∃ b rest, t = b :: rest ∧ first b ∧ ∀ c ∈ rest, others c

/-- A byte between two characters. -/
def Between (low high : Char) (b : UInt8) : Prop := Text.byte low ≤ b ∧ b ≤ Text.byte high

/-- Lower-case letters. -/
def Lower : UInt8 → Prop := Between 'a' 'z'

/-- Lower-case letters and digits. -/
def LowerOrDigit (b : UInt8) : Prop := Lower b ∨ Between '0' '9' b

/-- Lower-case letters, digits and the dash. -/
def NameByte (b : UInt8) : Prop := LowerOrDigit b ∨ b = Text.byte '-'

/-- Letters, digits, the dash, the underscore and the dot. -/
def LocatorByte (b : UInt8) : Prop :=
  NameByte b ∨ Between 'A' 'Z' b ∨ b = Text.byte '_' ∨ b = Text.byte '.'

/-- Every part keeps to its alphabet. The instance may be empty, and the locator may hold dots. -/
structure Valid (r : ResourceId) : Prop where
  service : Spelled Lower NameByte r.service
  container : r.container = [] ∨ Spelled LowerOrDigit NameByte r.container
  type : Spelled Lower NameByte r.type
  locator : Spelled LocatorByte LocatorByte r.locator

theorem between_iff {low high : Char} {b : UInt8} :
    (decide (Text.byte low ≤ b) && decide (b ≤ Text.byte high)) = true ↔ Between low high b := by
  rw [Bool.and_eq_true, decide_eq_true_eq, decide_eq_true_eq, Between]

theorem isNameByte_iff {b : UInt8} : isNameByte b = true ↔ NameByte b := by
  rw [isNameByte, Bool.or_eq_true, Bool.or_eq_true, decide_eq_true_eq, Text.isLowerByte,
    Text.isDigitByte, between_iff, between_iff]
  rfl

theorem isLocatorByte_iff {b : UInt8} : isLocatorByte b = true ↔ LocatorByte b := by
  simp only [isLocatorByte, Text.isLetterByte, Text.isUpperByte, Text.isLowerByte,
    Text.isDigitByte, Bool.or_eq_true, decide_eq_true_eq, between_iff, LocatorByte, NameByte,
    LowerOrDigit, Lower]
  tauto

/-- A check byte by byte is a check of the first byte and of the others. -/
theorem spelled_iff {first others : UInt8 → Prop} {b : UInt8} {rest : Text} :
    Spelled first others (b :: rest) ↔ first b ∧ ∀ c ∈ rest, others c := by
  constructor
  · rintro ⟨b', rest', heq, hfirst, hothers⟩
    cases heq
    exact ⟨hfirst, hothers⟩
  · rintro ⟨hfirst, hothers⟩
    exact ⟨b, rest, rfl, hfirst, hothers⟩

theorem isName_iff : isName t = true ↔ Spelled Lower NameByte t := by
  cases t with
  | nil => simp [isName, Spelled]
  | cons b rest =>
    rw [isName, spelled_iff, Bool.and_eq_true, List.all_eq_true, Text.isLowerByte, between_iff]
    simp only [isNameByte_iff]
    rfl

theorem isInstance_iff : isInstance t = true ↔ t = [] ∨ Spelled LowerOrDigit NameByte t := by
  cases t with
  | nil => simp [isInstance]
  | cons b rest =>
    rw [isInstance, spelled_iff, Bool.and_eq_true, List.all_eq_true, Bool.or_eq_true,
      Text.isLowerByte, Text.isDigitByte, between_iff, between_iff]
    simp only [isNameByte_iff, reduceCtorEq, false_or]
    rfl

theorem isLocator_iff : isLocator t = true ↔ Spelled LocatorByte LocatorByte t := by
  cases t with
  | nil => simp [isLocator, Spelled]
  | cons b rest => simp [isLocator, spelled_iff, isLocatorByte_iff]

/-- An identifier without a flaw is valid. -/
theorem flaw?_eq_none_iff : r.flaw? = none ↔ r.Valid := by
  have hparts : r.flaw? = none ↔ isName r.service = true ∧ isInstance r.container = true ∧
      isName r.type = true ∧ isLocator r.locator = true := by
    unfold flaw?
    cases isName r.service <;> cases isInstance r.container <;> cases isName r.type <;>
      cases isLocator r.locator <;> simp
  rw [hparts, isName_iff, isInstance_iff, isName_iff, isLocator_iff]
  constructor
  · rintro ⟨hservice, hcontainer, htype, hlocator⟩
    exact ⟨hservice, hcontainer, htype, hlocator⟩
  · intro h
    exact ⟨h.service, h.container, h.type, h.locator⟩

/-! ### Dots -/

theorem not_nameByte_dot : ¬ NameByte (Text.byte '.') := by
  rw [← isNameByte_iff]
  decide

/-- What is spelled with name bytes holds no dot. -/
theorem Spelled.dot_not_mem {first : UInt8 → Prop} (h : Spelled first NameByte t)
    (hfirst : ∀ b, first b → NameByte b) : Text.byte '.' ∉ t := by
  obtain ⟨b, rest, rfl, hb, hrest⟩ := h
  intro hmem
  apply not_nameByte_dot
  rcases List.mem_cons.mp hmem with heq | hmem
  · rw [heq]
    exact hfirst b hb
  · exact hrest _ hmem

/-- What stands in front of the locator. -/
def front (r : ResourceId) : List Text := ["ri", r.service, r.container, r.type]

theorem text_eq_join (r : ResourceId) :
    r.text = Text.join [Text.byte '.'] (r.front ++ [r.locator]) := by
  have hri : Text.ofString "ri." = Text.ofString "ri" ++ [Text.byte '.'] := rfl
  have hdot : Text.ofString "." = [Text.byte '.'] := rfl
  simp only [text, front, hri, hdot, List.cons_append, List.nil_append, Text.join,
    List.append_assoc]

/-- No part in front of the locator holds a dot. -/
theorem Valid.dot_not_mem_front (h : r.Valid) : ∀ part ∈ r.front, Text.byte '.' ∉ part := by
  have hlower : ∀ b, Lower b → NameByte b := fun b hb => .inl (.inl hb)
  intro part hpart
  simp only [front, List.mem_cons, List.not_mem_nil, or_false] at hpart
  rcases hpart with rfl | rfl | rfl | rfl
  · decide
  · exact h.service.dot_not_mem hlower
  · rcases h.container with hempty | hspelled
    · rw [hempty]
      exact List.not_mem_nil
    · exact hspelled.dot_not_mem fun b hb => .inl hb
  · exact h.type.dot_not_mem hlower

/-- The parts of a valid identifier are found again in its text. -/
theorem Valid.splitAtMost_text (h : r.Valid) :
    Text.splitAtMost (Text.byte '.') 5 r.text = r.front ++ [r.locator] := by
  rw [text_eq_join]
  exact Text.splitAtMost_join h.dot_not_mem_front r.locator

/-! ### Reading and writing -/

/-- An identifier is read exactly if it is valid, and from no other text than its own. -/
theorem ofText_eq_ok_iff : ofText t = .ok r ↔ r.Valid ∧ r.text = t := by
  constructor
  · intro h
    unfold ofText at h
    split at h
    case h_2 => cases h
    case h_1 ri service container type locator hsplit =>
      split at h
      case isFalse => cases h
      case isTrue hri =>
        dsimp only at h
        split at h
        case h_2 => cases h
        case h_1 hflaw =>
          cases h
          refine ⟨flaw?_eq_none_iff.mp hflaw, ?_⟩
          -- The pieces make up the text that was cut.
          rw [text_eq_join, ← Text.join_splitAtMost (Text.byte '.') 4 t, hsplit, hri]
          rfl
  · rintro ⟨hvalid, rfl⟩
    have hflaw : r.flaw? = none := flaw?_eq_none_iff.mpr hvalid
    unfold ofText
    rw [hvalid.splitAtMost_text]
    simp only [front, List.cons_append, List.nil_append, if_true, hflaw]

/-- An identifier is written exactly if it is valid. -/
theorem text?_eq_ok_iff : r.text? = .ok t ↔ r.Valid ∧ r.text = t := by
  unfold text?
  rw [← flaw?_eq_none_iff]
  cases r.flaw? with
  | none => simp
  | some flaw => simp

/-- Texts and valid identifiers correspond to each other: what is read has the text it was read
from, an identifier is written exactly if its text is read as that identifier, and no two that are
written share a text. All this is so for every valid identifier. -/
theorem text_bijection :
    (∀ (t : Text) (r : ResourceId), ofText t = .ok r → r.text = t) ∧
    (∀ r : ResourceId, (∃ t, r.text? = .ok t) ↔ ofText r.text = .ok r) ∧
    (∀ (r s : ResourceId) (t : Text), r.text? = .ok t → s.text? = .ok t → r = s) ∧
    ∀ r : ResourceId, (∃ t, r.text? = .ok t) ↔ r.Valid := by
  have hwritten : ∀ r : ResourceId, (∃ t, r.text? = .ok t) ↔ r.Valid := fun r => by
    simp [text?_eq_ok_iff]
  refine ⟨fun t r h => (ofText_eq_ok_iff.mp h).2, fun r => ?_, fun r s t hr hs => ?_, hwritten⟩
  · rw [hwritten, ofText_eq_ok_iff]
    simp
  · -- Both are what is read from the text they share.
    have hread : ofText t = .ok r := ofText_eq_ok_iff.mpr (text?_eq_ok_iff.mp hr)
    have hread' : ofText t = .ok s := ofText_eq_ok_iff.mpr (text?_eq_ok_iff.mp hs)
    rw [hread] at hread'
    exact Except.ok.inj hread'

/-- An identifier with an empty instance and a dot in its locator. -/
theorem text_bijection_dotted :
    ofText "ri.catalog..book.a1.b2" = .ok ⟨"catalog", [], "book", "a1.b2"⟩ ∧
      (ResourceId.mk "catalog" [] "book" "a1.b2").text = "ri.catalog..book.a1.b2" ∧
      ∃ t, (ResourceId.mk "catalog" [] "book" "a1.b2").text? = .ok t := by
  have hread : ofText "ri.catalog..book.a1.b2" = .ok ⟨"catalog", [], "book", "a1.b2"⟩ := by
    decide +kernel
  have htext := text_bijection.1 _ _ hread
  refine ⟨hread, htext, (text_bijection.2.1 _).mpr ?_⟩
  rw [htext]
  exact hread

end Accord.ResourceId
