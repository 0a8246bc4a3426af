/-
# Escapes are undone

What is escaped as a path segment comes back byte for byte, and the escaped form holds no
slash. A value that spans several segments keeps its slashes and is escaped between them,
which amounts to escaping it byte by byte.

## Main results

* `Percent.unescape?_escapeSegment`: unescaping undoes escaping;
* `Percent.slash_not_mem_escapeSegment`: an escaped segment is one segment;
* `Percent.join_map_escapeSegment`: escaping between slashes is escaping byte by byte.
-/

import Accord.Proofs.Text.Pieces
import Accord.Text.Percent

namespace Accord.Percent

/-! ### Bytes -/

/-- The escaped form of a byte of a path segment. -/
def segmentByte (b : UInt8) : Text := if isSegmentByte b then [b] else escapeByte b

theorem escapeSegment_eq (t : Text) : escapeSegment t = t.flatMap segmentByte := rfl

theorem escapeSegment_cons (b : UInt8) (t : Text) :
    escapeSegment (b :: t) = segmentByte b ++ escapeSegment t := rfl

/-- A digit that is written can be read. -/
theorem hexValue?_hexDigitUpper {n : Nat} (h : n < 16) :
    Text.hexValue? (Text.hexDigitUpper n) = some n := by
  have all : ∀ n < 16, Text.hexValue? (Text.hexDigitUpper n) = some n := by decide
  exact all n h

/-- The digits of a number are no slashes. -/
theorem hexDigitUpper_ne_slash {n : Nat} (h : n < 16) :
    Text.hexDigitUpper n ≠ Text.byte '/' := by
  have all : ∀ n < 16, Text.hexDigitUpper n ≠ Text.byte '/' := by decide
  exact all n h

/-- A byte that stands for itself is no percent sign. -/
theorem ne_percent_of_isSegmentByte {b : UInt8} (h : isSegmentByte b = true) :
    b ≠ Text.byte '%' := by
  rintro rfl
  exact absurd h (by decide)

/-- A byte that stands for itself is no slash. -/
theorem ne_slash_of_isSegmentByte {b : UInt8} (h : isSegmentByte b = true) :
    b ≠ Text.byte '/' := by
  rintro rfl
  exact absurd h (by decide)

theorem segmentByte_ne_nil (b : UInt8) : segmentByte b ≠ [] := by
  unfold segmentByte escapeByte
  split <;> simp

/-- No byte is escaped to anything with a slash in it. -/
theorem slash_not_mem_segmentByte (b : UInt8) : Text.byte '/' ∉ segmentByte b := by
  have hb : b.toNat < 256 := b.toNat_lt
  unfold segmentByte escapeByte
  split
  case isTrue h => simpa using (ne_slash_of_isSegmentByte h).symm
  case isFalse =>
    have high := hexDigitUpper_ne_slash (n := b.toNat / 16) (by omega)
    have low := hexDigitUpper_ne_slash (n := b.toNat % 16) (by omega)
    simp [high.symm, low.symm]
    decide

/-! ### Texts -/

theorem unescape?_cons_of_ne {b : UInt8} (h : b ≠ Text.byte '%') (t : Text) :
    unescape? (b :: t) = (unescape? t).map (b :: ·) := by
  rw [unescape?.eq_def]
  simp [h]

/-- The escape of a byte is read as the byte. -/
theorem unescape?_escapeByte_append (b : UInt8) (t : Text) :
    unescape? (escapeByte b ++ t) = (unescape? t).map (b :: ·) := by
  have hb : b.toNat < 256 := b.toNat_lt
  have high := hexValue?_hexDigitUpper (n := b.toNat / 16) (by omega)
  have low := hexValue?_hexDigitUpper (n := b.toNat % 16) (by omega)
  -- The two digits make up the byte.
  have value : (b.toNat / 16 * 16 + b.toNat % 16).toUInt8 = b := by
    rw [show b.toNat / 16 * 16 + b.toNat % 16 = b.toNat by omega]
    simp
  unfold escapeByte
  simp only [List.cons_append, List.nil_append]
  rw [unescape?.eq_def]
  simp only [if_pos, high, low, Option.bind_eq_bind, Option.bind_some, value]
  cases unescape? t <;> rfl

theorem unescape?_segmentByte_append (b : UInt8) (t : Text) :
    unescape? (segmentByte b ++ t) = (unescape? t).map (b :: ·) := by
  unfold segmentByte
  split
  case isTrue h => exact unescape?_cons_of_ne (ne_percent_of_isSegmentByte h) t
  case isFalse => exact unescape?_escapeByte_append b t

/-- Unescaping undoes escaping. -/
theorem unescape?_escapeSegment (t : Text) : unescape? (escapeSegment t) = some t := by
  induction t with
  | nil => rfl
  | cons b rest ih => rw [escapeSegment_cons, unescape?_segmentByte_append, ih, Option.map_some]

/-- An escaped segment is one segment. -/
theorem slash_not_mem_escapeSegment (t : Text) : Text.byte '/' ∉ escapeSegment t := by
  rw [escapeSegment_eq, List.mem_flatMap]
  rintro ⟨b, -, hb⟩
  exact slash_not_mem_segmentByte b hb

/-- Only an empty segment is escaped to nothing. -/
theorem escapeSegment_eq_nil_iff {t : Text} : escapeSegment t = [] ↔ t = [] := by
  cases t with
  | nil => simp [escapeSegment]
  | cons b rest => simp [escapeSegment_cons, segmentByte_ne_nil]

/-! ### Values with slashes -/

/-- The escaped form of a byte of a value that may span several segments. -/
def spanByte (b : UInt8) : Text := if b = Text.byte '/' then [b] else segmentByte b

/-- Escaping between slashes is escaping byte by byte. -/
theorem join_map_escapeSegment (t : Text) :
    Text.join [Text.byte '/'] ((Text.split (Text.byte '/') t).map escapeSegment) =
      t.flatMap spanByte := by
  induction t with
  | nil => rfl
  | cons b rest ih =>
    have hne : (Text.split (Text.byte '/') rest).map escapeSegment ≠ [] := by
      simpa using Text.split_ne_nil (Text.byte '/') rest
    by_cases hb : b = Text.byte '/'
    · subst hb
      rw [Text.split_cons_self, List.map_cons, Text.join_cons hne, ih]
      rfl
    · obtain ⟨first, more, hs⟩ :=
        List.exists_cons_of_ne_nil (Text.split_ne_nil (Text.byte '/') rest)
      rw [Text.split_cons_of_ne hb hs, List.flatMap_cons, spanByte, if_neg hb, ← ih, hs]
      rw [List.map_cons, escapeSegment_cons, Text.join_append_first, List.map_cons]

/-- The escaped form of a byte that is no slash does not end in one. -/
theorem getLast?_segmentByte_ne_slash (b : UInt8) :
    (segmentByte b).getLast? ≠ some (Text.byte '/') := fun h =>
  slash_not_mem_segmentByte b (List.mem_of_getLast? h)

end Accord.Percent
