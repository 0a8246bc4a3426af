/-
# Identifiers as text

An identifier is written as 32 hexadecimal digits in five groups, and read back as itself.

## Main results

* `Uuid.hexNumber?_hex`: digits that were written denote the number they were written for;
* `Uuid.ofText_text`: an identifier that is written is read back as itself.
-/

import Accord.Primitive.Uuid
import Accord.Proofs.Text.Pieces
import Accord.Proofs.Text.Utf8
import Mathlib.Data.Nat.Digits.Defs

namespace Accord.Uuid

variable {b : UInt8} {t : Text} {n : Nat}

/-! ### Hexadecimal digits -/

/-- Takes a digit into a number. -/
def takeDigit (n : Nat) (b : UInt8) : Option Nat := (Text.hexValue? b).map (16 * n + ·)

theorem hexNumber?_eq (t : Text) : hexNumber? t = t.foldlM takeDigit 0 := rfl

theorem hexValue?_digitChar (h : n < 16) :
    Text.hexValue? (Text.byte (Nat.digitChar n)) = some n := by
  have table : ∀ n : Fin 16, Text.hexValue? (Text.byte (Nat.digitChar n)) = some n.val := by
    decide
  exact table ⟨n, h⟩

theorem foldlM_toDigits (n : Nat) :
    ((Nat.toDigits 16 n).map Text.byte).foldlM takeDigit 0 = some n := by
  induction n using Nat.strongRecOn with
  | ind n ih =>
    rw [Nat.toDigits_eq_if (by decide)]
    split
    · next h => simp [takeDigit, hexValue?_digitChar h]
    · next h =>
      have hquotient := ih (n / 16) (by omega)
      have hdigit := hexValue?_digitChar (Nat.mod_lt n (by decide : 16 > 0))
      simp only [List.map_append, List.foldlM_append, hquotient, Option.bind_eq_bind,
        Option.bind_some, List.map_cons, List.map_nil, List.foldlM_cons, List.foldlM_nil,
        takeDigit, hdigit, Option.map_some, Option.pure_def]
      rw [Nat.div_add_mod]

theorem foldlM_zeros (k : Nat) (t : Text) :
    (List.replicate k (Text.byte '0') ++ t).foldlM takeDigit 0 = t.foldlM takeDigit 0 := by
  induction k with
  | zero => rfl
  | succ k ih => exact ih

/-- Digits that were written denote the number they were written for. -/
theorem hexNumber?_hex (width n : Nat) : hexNumber? (Text.hex width n) = some n := by
  rw [hexNumber?_eq, Text.hex, foldlM_zeros, foldlM_toDigits]

theorem length_hex {width : Nat} (hwidth : 0 < width) (h : n < 16 ^ width) :
    (Text.hex width n).length = width := by
  have hle : (Nat.toDigits 16 n).length ≤ width :=
    (Nat.length_toDigits_le_iff (by decide) hwidth).mpr h
  simp only [Text.hex, List.length_append, List.length_replicate, List.length_map]
  omega

/-- What denotes a number is made of digits. -/
theorem isSome_hexValue?_of_mem {start : Nat} (h : t.foldlM takeDigit start = some n)
    (hb : b ∈ t) : (Text.hexValue? b).isSome = true := by
  induction t generalizing start with
  | nil => cases hb
  | cons c t ih =>
    rw [List.foldlM_cons, Option.bind_eq_bind, Option.bind_eq_some_iff] at h
    obtain ⟨next, hnext, h⟩ := h
    rcases List.mem_cons.mp hb with rfl | hb
    · cases hvalue : Text.hexValue? b with
      | none => simp [takeDigit, hvalue] at hnext
      | some v => rfl
    · exact ih h hb

theorem isVisible_of_hexValue? : ∀ b, (Text.hexValue? b).isSome = true →
    Text.isVisible b = true ∧ b ≠ Text.byte '-' :=
  Text.forall_byte (by decide +kernel)

/-! ### Groups -/

/-- The digits of an identifier. -/
def digits (u : Uuid) : Text := Text.hex 32 u.value.toNat

/-- The groups of an identifier's digits. -/
def groups (u : Uuid) : List Text :=
  [u.digits.take 8, (u.digits.drop 8).take 4, (u.digits.drop 12).take 4,
    (u.digits.drop 16).take 4, (u.digits.drop 20).take 12]

theorem text_eq (u : Uuid) : u.text = Text.join [Text.byte '-'] u.groups := rfl

theorem length_digits (u : Uuid) : u.digits.length = 32 :=
  length_hex (by decide) u.value.isLt

theorem isVisible_of_mem_digits {u : Uuid} (h : b ∈ u.digits) :
    Text.isVisible b = true ∧ b ≠ Text.byte '-' :=
  isVisible_of_hexValue? _ (isSome_hexValue?_of_mem (hexNumber?_hex 32 u.value.toNat) h)

theorem mem_digits_of_mem_groups {u : Uuid} {group : Text} (h : group ∈ u.groups)
    (hb : b ∈ group) : b ∈ u.digits := by
  simp only [groups, List.mem_cons, List.not_mem_nil, or_false] at h
  rcases h with rfl | rfl | rfl | rfl | rfl
  · exact List.mem_of_mem_take hb
  all_goals exact List.mem_of_mem_drop (List.mem_of_mem_take hb)

/-- The groups make up the digits. -/
theorem flatten_groups (u : Uuid) :
    u.digits.take 8 ++ (u.digits.drop 8).take 4 ++ (u.digits.drop 12).take 4 ++
      (u.digits.drop 16).take 4 ++ (u.digits.drop 20).take 12 = u.digits := by
  rw [← List.take_add, ← List.take_add, ← List.take_add, ← List.take_add]
  exact List.take_of_length_le (Nat.le_of_eq u.length_digits)

theorem ofGroups?_text (u : Uuid) : ofGroups? u.text = some u := by
  have hgroups : ∀ group ∈ u.groups, Text.byte '-' ∉ group := fun group hg hb =>
    (isVisible_of_mem_digits (mem_digits_of_mem_groups hg hb)).2 rfl
  have hlength := u.length_digits
  have hnumber : hexNumber? u.digits = some u.value.toNat := hexNumber?_hex 32 u.value.toNat
  have hne : u.groups ≠ [] := List.cons_ne_nil _ _
  rw [ofGroups?, text_eq, Text.split_join hne hgroups]
  simp only [groups, List.length_take, List.length_drop, hlength]
  rw [flatten_groups, ofDigits?, hnumber]
  simp

theorem length_text (u : Uuid) : u.text.length = 36 := by
  simp [text_eq, groups, Text.join, length_digits]

/-- An identifier that is written is read back as itself. -/
theorem ofText_text (u : Uuid) : ofText u.text = .ok u := by
  simp only [ofText, length_text, if_true, ofGroups?_text]

/-- An identifier is written in ASCII. -/
theorem isUtf8_text (u : Uuid) : u.text.isUtf8 = true := by
  refine Text.isUtf8_of_visible fun b hb => ?_
  rw [text_eq] at hb
  rcases Text.mem_join hb with hb | ⟨group, hgroup, hb⟩
  · obtain rfl := List.mem_singleton.mp hb
    decide
  · exact (isVisible_of_mem_digits (mem_digits_of_mem_groups hgroup hb)).1

end Accord.Uuid
