/-
# Decimal numbers

A number that is printed in decimal is read back as itself, and a text is read as an integer
exactly if it is a run of digits, maybe with a sign in front.

## Main definitions

* `Integer.Spells`: a text spells an integer.

## Main results

* `Text.digitsToNat_ofNat`: printing a natural number and taking its digits together;
* `Text.ofNat_injective`: different numbers have different spellings;
* `Integer.read_digits`: reading digits with a sign;
* `Integer.read_ofInt`: printing an integer and reading it within a width;
* `Integer.read_eq_ok_iff`: which texts are read within a width, and as which integers.
-/

import Accord.Double.Reader
import Accord.Proofs.Outcome
import Mathlib.Algebra.Ring.Int.Defs
import Mathlib.Data.List.Basic
import Mathlib.Data.Nat.Cast.Basic

namespace Accord.Text

variable {b : UInt8} {n : Nat}

/-- The byte of a digit has the value of its character. -/
theorem toNat_byte_of_isDigit {c : Char} (h : c.isDigit) : (byte c).toNat = c.toNat := by
  have hle : c.toNat ≤ 57 := (Char.isDigit_iff_toNat.mp h).2
  simp only [byte, Char.toUInt8, UInt32.toNat_toUInt8]
  exact Nat.mod_eq_of_lt (show c.toNat < 256 by omega)

/-- A number is spelled with digits only. -/
theorem isDigitByte_of_mem_ofNat (h : b ∈ ofNat n) : isDigitByte b = true := by
  obtain ⟨c, hc, rfl⟩ := List.mem_map.mp h
  have hdigit := Nat.isDigit_of_mem_toDigits (by decide) (by decide) hc
  have hrange := Char.isDigit_iff_toNat.mp hdigit
  have hbyte := toNat_byte_of_isDigit hdigit
  simp only [isDigitByte, Bool.and_eq_true, decide_eq_true_eq, UInt8.le_iff_toNat_le, hbyte]
  exact hrange

theorem ofNat_ne_nil (n : Nat) : ofNat n ≠ [] := by
  simp [ofNat, Nat.toDigits_ne_nil]

theorem digitsToNat_ofNat (n : Nat) : digitsToNat (ofNat n) = n := by
  have values : digitsToNat (ofNat n) = Nat.ofDigitChars 10 (Nat.toDigits 10 n) 0 := by
    unfold digitsToNat ofNat Nat.ofDigitChars
    rw [List.foldl_map]
    refine List.foldl_ext _ _ _ fun sofar c hc => ?_
    rw [toNat_byte_of_isDigit (Nat.isDigit_of_mem_toDigits (by decide) (by decide) hc)]
    rfl
  rw [values, Nat.ofDigitChars_toDigits (by decide) (by decide)]

theorem ofNat_injective {m n : Nat} (h : ofNat m = ofNat n) : m = n := by
  rw [← digitsToNat_ofNat m, h, digitsToNat_ofNat]

/-- The spelling of a number begins with a digit. -/
theorem exists_ofNat_eq_cons (n : Nat) :
    ∃ b rest, ofNat n = b :: rest ∧ isDigitByte b = true := by
  obtain ⟨b, rest, h⟩ := List.exists_cons_of_ne_nil (ofNat_ne_nil n)
  exact ⟨b, rest, h, isDigitByte_of_mem_ofNat (h ▸ List.mem_cons_self)⟩

theorem ofInt_ne_nil (n : Int) : ofInt n ≠ [] := by
  unfold ofInt
  split
  · exact List.cons_ne_nil _ _
  · exact ofNat_ne_nil _

/-- A digit is no sign. -/
theorem ne_sign_of_isDigitByte (h : isDigitByte b = true) : b ≠ byte '-' ∧ b ≠ byte '+' := by
  constructor <;> rintro rfl <;> exact absurd h (by decide)

end Accord.Text

namespace Accord.Integer

variable {t : Text} {n : Nat}

/-- Takes a digit into a number. -/
def takeDigit (n : Nat) (b : UInt8) : Nat := 10 * n + (b.toNat - 48)

theorem le_foldl_takeDigit (n : Nat) (t : Text) : n ≤ t.foldl takeDigit n := by
  induction t generalizing n with
  | nil => exact Nat.le_refl n
  | cons b t ih =>
    have hstep : n ≤ takeDigit n b := by
      unfold takeDigit
      omega
    exact Nat.le_trans hstep (ih _)

/-- Digits are read to their end if the number they spell fits. -/
theorem digits_eq_ok {width : Nat} (h : ∀ b ∈ t, Text.isDigitByte b = true)
    (hfits : t.foldl takeDigit n < 1 <<< width) :
    digits width n t = .ok (t.foldl takeDigit n) := by
  induction t generalizing n with
  | nil => rfl
  | cons b t ih =>
    have hnext : 10 * n + (b.toNat - 48) < 1 <<< width :=
      Nat.lt_of_le_of_lt (le_foldl_takeDigit (takeDigit n b) t) hfits
    simp only [digits, h b List.mem_cons_self, if_true, hnext]
    exact ih (fun b hb => h b (List.mem_cons_of_mem _ hb)) hfits

/-- Digits that spell more than fits are refused. -/
theorem digits_eq_error {width : Nat} (h : ∀ b ∈ t, Text.isDigitByte b = true)
    (hn : n < 1 <<< width) (hlarge : 1 <<< width ≤ t.foldl takeDigit n) :
    digits width n t = .error .outOfRange := by
  induction t generalizing n with
  | nil => exact absurd hn (Nat.not_lt.mpr hlarge)
  | cons b t ih =>
    simp only [digits, h b List.mem_cons_self, if_true]
    split
    · next hnext => exact ih (fun b hb => h b (List.mem_cons_of_mem _ hb)) hnext hlarge
    · rfl

/-- The integer that digits spell with or without a minus. -/
def spelled (negative : Bool) (t : Text) : Int :=
  if negative then -(Text.digitsToNat t : Int) else Text.digitsToNat t

/-- Digits with or without a minus are read as the integer they spell, if it fits. -/
theorem read_digits {width : Nat} (ht : t ≠ []) (h : ∀ b ∈ t, Text.isDigitByte b = true)
    (negative : Bool) :
    read (width + 1) (if negative then Text.byte '-' :: t else t) =
      if -(1 <<< width : Nat) ≤ spelled negative t ∧ spelled negative t < (1 <<< width : Nat) then
        .ok (spelled negative t)
      else .error .outOfRange := by
  have hdouble : 1 <<< (width + 1) = 2 * (1 <<< width) := by
    rw [Nat.one_shiftLeft, Nat.one_shiftLeft, Nat.pow_succ, Nat.mul_comm]
  have hpos : 0 < 1 <<< width := by
    rw [Nat.one_shiftLeft]
    exact Nat.two_pow_pos width
  obtain ⟨b, rest, rfl⟩ := List.exists_cons_of_ne_nil ht
  obtain ⟨hminus, hplus⟩ := Text.ne_sign_of_isDigitByte (h b List.mem_cons_self)
  -- The digits are read without the sign first, with one bit more than there is for the number.
  have hread : readUnsigned (width + 1) (b :: rest) =
      if Text.digitsToNat (b :: rest) < 1 <<< (width + 1) then
        .ok (Text.digitsToNat (b :: rest))
      else .error .outOfRange := by
    split
    · next hfits => exact digits_eq_ok h hfits
    · next hlarge => exact digits_eq_error h (by omega) (Nat.not_lt.mp hlarge)
  generalize hvalue : Text.digitsToNat (b :: rest) = n at hread
  unfold spelled
  rw [hvalue]
  cases negative with
  | true =>
    simp only [read, if_true, hread]
    split
    · simp only [Outcome.ok_bind, Nat.add_sub_cancel]
      split
      · next hle => exact (if_pos (by omega)).symm
      · next hlt => exact (if_neg (by omega)).symm
    · next hlarge => exact (if_neg (by omega)).symm
  | false =>
    simp only [read, hminus, hplus, if_false, Bool.false_eq_true, hread]
    split
    · simp only [Outcome.ok_bind, Nat.add_sub_cancel]
      split
      · next hlt => exact (if_pos (by omega)).symm
      · next hle => exact (if_neg (by omega)).symm
    · next hlarge => exact (if_neg (by omega)).symm

theorem spelled_ofNat_natAbs (n : Int) : spelled (decide (n < 0)) (Text.ofNat n.natAbs) = n := by
  rw [spelled, Text.digitsToNat_ofNat]
  by_cases hneg : n < 0
  · rw [decide_eq_true hneg, if_pos rfl]
    omega
  · rw [decide_eq_false hneg, if_neg (by decide)]
    omega

/-- An integer that is printed is read back as itself, if it fits. -/
theorem read_ofInt {width : Nat} {n : Int} (hlow : -(1 <<< width : Nat) ≤ n)
    (hhigh : n < (1 <<< width : Nat)) : read (width + 1) (Text.ofInt n) = .ok n := by
  have hread := @read_digits _ width (Text.ofNat_ne_nil n.natAbs)
    (fun b hb => Text.isDigitByte_of_mem_ofNat hb) (decide (n < 0))
  rw [spelled_ofNat_natAbs] at hread
  simp only [decide_eq_true_eq] at hread
  rw [Text.ofInt, hread]
  exact if_pos ⟨hlow, hhigh⟩

/-! ### What can be read -/

/-- A run of decimal digits, with or without a sign in front, and the integer that it spells. -/
inductive Spells : Text → Int → Prop
  | bare {t : Text} (ht : t ≠ []) (h : ∀ b ∈ t, Text.isDigitByte b = true) :
      Spells t (Text.digitsToNat t)
  | plus {t : Text} (ht : t ≠ []) (h : ∀ b ∈ t, Text.isDigitByte b = true) :
      Spells (Text.byte '+' :: t) (Text.digitsToNat t)
  | minus {t : Text} (ht : t ≠ []) (h : ∀ b ∈ t, Text.isDigitByte b = true) :
      Spells (Text.byte '-' :: t) (-(Text.digitsToNat t : Int))

/-- An integer is spelled by what is printed for it. -/
theorem spells_ofInt (n : Int) : Spells (Text.ofInt n) n := by
  have hne := Text.ofNat_ne_nil n.natAbs
  have hdigits : ∀ b ∈ Text.ofNat n.natAbs, Text.isDigitByte b = true := fun b hb =>
    Text.isDigitByte_of_mem_ofNat hb
  have hvalue := Text.digitsToNat_ofNat n.natAbs
  unfold Text.ofInt
  split
  · next hneg =>
    have hminus := Spells.minus hne hdigits
    rwa [hvalue, show -(n.natAbs : Int) = n by omega] at hminus
  · next hnonneg =>
    have hbare := Spells.bare hne hdigits
    rwa [hvalue, show (n.natAbs : Int) = n by omega] at hbare

theorem isDigitByte_of_digits {width m : Nat} (h : digits width n t = .ok m) :
    ∀ b ∈ t, Text.isDigitByte b = true := by
  induction t generalizing n with
  | nil => exact fun b hb => absurd hb List.not_mem_nil
  | cons b t ih =>
    rw [digits] at h
    split at h
    case isFalse => cases h
    case isTrue hb =>
      dsimp only at h
      split at h
      · exact List.forall_mem_cons.mpr ⟨hb, ih h⟩
      · cases h

/-- What is read without a sign is a run of digits. -/
theorem of_readUnsigned {width m : Nat} (h : readUnsigned width t = .ok m) :
    t ≠ [] ∧ ∀ b ∈ t, Text.isDigitByte b = true := by
  unfold readUnsigned at h
  split at h
  case isTrue => cases h
  case isFalse hne => exact ⟨by simpa using hne, isDigitByte_of_digits h⟩

/-- A plus in front of digits changes nothing. -/
theorem read_plus {width : Nat} (ht : t ≠ []) (h : ∀ b ∈ t, Text.isDigitByte b = true) :
    read width (Text.byte '+' :: t) = read width t := by
  obtain ⟨b, rest, rfl⟩ := List.exists_cons_of_ne_nil ht
  obtain ⟨hminus, hplus⟩ := Text.ne_sign_of_isDigitByte (h b List.mem_cons_self)
  have hsign : Text.byte '+' ≠ Text.byte '-' := by decide
  simp only [read, hminus, hplus, hsign, if_false, if_true]

/-- What is read spells some integer. -/
theorem exists_spells_of_read {width : Nat} {m : Int} (h : read width t = .ok m) :
    ∃ k, Spells t k := by
  cases t with
  | nil => cases h
  | cons b rest =>
    simp only [read] at h
    obtain ⟨k, hk, -⟩ := Outcome.bind_eq_ok.mp h
    split at hk
    case isTrue hminus =>
      obtain ⟨hne, hdigits⟩ := of_readUnsigned hk
      rw [hminus]
      exact ⟨_, .minus hne hdigits⟩
    case isFalse =>
      split at hk
      case isTrue hplus =>
        obtain ⟨hne, hdigits⟩ := of_readUnsigned hk
        rw [hplus]
        exact ⟨_, .plus hne hdigits⟩
      case isFalse =>
        obtain ⟨hne, hdigits⟩ := of_readUnsigned hk
        exact ⟨_, .bare hne hdigits⟩

/-- What spells an integer is read as it, if it fits. -/
theorem Spells.read_eq {k : Int} (h : Spells t k) (width : Nat) :
    read (width + 1) t =
      if -(2 ^ width : Int) ≤ k ∧ k < 2 ^ width then .ok k else .error .outOfRange := by
  have hlimit : ((1 <<< width : Nat) : Int) = 2 ^ width := by
    rw [Nat.one_shiftLeft]
    exact Nat.cast_pow 2 width
  cases h with
  | bare ht h =>
    have hread := @read_digits _ width ht h false
    rw [hlimit] at hread
    exact hread
  | plus ht h =>
    have hread := @read_digits _ width ht h false
    rw [hlimit] at hread
    rw [read_plus ht h]
    exact hread
  | minus ht h =>
    have hread := @read_digits _ width ht h true
    rw [hlimit] at hread
    exact hread

/-- A text is read within a width exactly if it spells an integer that fits, and as that one. -/
theorem read_eq_ok_iff {width : Nat} {m : Int} :
    read (width + 1) t = .ok m ↔ Spells t m ∧ -(2 ^ width : Int) ≤ m ∧ m < 2 ^ width := by
  constructor
  · intro h
    obtain ⟨k, hk⟩ := exists_spells_of_read h
    rw [hk.read_eq] at h
    split at h
    case isFalse => cases h
    case isTrue hfits =>
      obtain rfl := Except.ok.inj h
      exact ⟨hk, hfits⟩
  · rintro ⟨hm, hfits⟩
    rw [hm.read_eq, if_pos hfits]

end Accord.Integer
