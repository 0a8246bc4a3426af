/-
# Base64 and back

Three bytes are written as four digits, and the bytes that are left over with padding. Reading
gathers the digits of a group, and is therefore described by what it does to a group that was
begun. What is read holds nothing but digits, padding and line ends.

## Main results

* `Base64.decodeFrom_digit`, `Base64.decodeFrom_lastDigit`: what reading does with a digit;
* `Base64.decode_encode`: bytes that are written are read back;
* `Base64.isCodeByte_of_decode`: which bytes a text that is read can hold.
-/

import Accord.Proofs.Outcome
import Accord.Proofs.Text.Utf8
import Accord.Text.Base64

namespace Accord.Base64

variable {b : UInt8} {v offset : Nat} {held : List Nat} {t rest bytes : Text}

/-! ### Digits -/

theorem value?_digit (h : v < 64) : value? (digit v) = some v := by
  have table : ∀ v : Fin 64, value? (digit v) = some v.val := by decide
  exact table ⟨v, h⟩

theorem value?_pad : value? pad = none := by decide

/-- A digit is added to a group that it does not complete. -/
theorem decodeFrom_digit (hb : value? b = some v) (hheld : held.length < 3) (offset : Nat)
    (rest : Text) :
    decodeFrom held offset (b :: rest) = decodeFrom (held ++ [v]) (offset + 1) rest := by
  rw [decodeFrom, hb]
  exact if_neg (Nat.ne_of_lt hheld)

/-- A digit that completes a group gives its bytes. -/
theorem decodeFrom_lastDigit (hb : value? b = some v) (hheld : held.length = 3) (offset : Nat)
    (rest : Text) :
    decodeFrom held offset (b :: rest) =
      (decodeFrom [] (offset + 1) rest).map (group (held ++ [v]) ++ ·) := by
  rw [decodeFrom, hb]
  exact if_pos hheld

/-- The padding gives the bytes of a group that was not completed. -/
theorem decodeFrom_pad (hheld : 2 ≤ held.length) (offset : Nat) (rest : Text) :
    decodeFrom held offset (pad :: rest) =
      (padding held.length (offset + 1) rest).map fun _ => group held := by
  rw [decodeFrom, value?_pad]
  dsimp only
  rw [if_neg (by decide), if_pos (by simp [hheld])]

/-! ### Groups -/

/-- A byte is put together from its parts. -/
theorem toUInt8_eq {n : Nat} (h : n = b.toNat) : n.toUInt8 = b := by
  rw [h]
  exact UInt8.ofNat_toNat

theorem group_one (a : UInt8) : group [a.toNat / 4, a.toNat % 4 * 16] = [a] := by
  rw [group, toUInt8_eq (b := a) (by omega)]

theorem group_two (a b : UInt8) :
    group [a.toNat / 4, a.toNat % 4 * 16 + b.toNat / 16, b.toNat % 16 * 4] = [a, b] := by
  have hb := b.toNat_lt
  rw [group, toUInt8_eq (b := a) (by omega), toUInt8_eq (b := b) (by omega)]

theorem group_three (a b c : UInt8) :
    group [a.toNat / 4, a.toNat % 4 * 16 + b.toNat / 16, b.toNat % 16 * 4 + c.toNat / 64,
      c.toNat % 64] = [a, b, c] := by
  have hb := b.toNat_lt
  have hc := c.toNat_lt
  rw [group, toUInt8_eq (b := a) (by omega), toUInt8_eq (b := b) (by omega),
    toUInt8_eq (b := c) (by omega)]

/-- Bytes that are written are read back, wherever they stand. -/
theorem decodeFrom_encode (bytes : Text) (offset : Nat) :
    decodeFrom [] offset (encode bytes) = .ok bytes := by
  -- The induction takes three bytes at a time, as writing does.
  induction bytes using encode.induct generalizing offset with
  | case1 => rfl
  | case2 a =>
    have ha := a.toNat_lt
    rw [encode, decodeFrom_digit (value?_digit (by omega)) (by decide),
      decodeFrom_digit (value?_digit (by omega)) (by simp), decodeFrom_pad (by simp)]
    exact congrArg Except.ok (group_one a)
  | case3 a b =>
    have ha := a.toNat_lt
    have hb := b.toNat_lt
    rw [encode, decodeFrom_digit (value?_digit (by omega)) (by decide),
      decodeFrom_digit (value?_digit (by omega)) (by simp),
      decodeFrom_digit (value?_digit (by omega)) (by simp), decodeFrom_pad (by simp)]
    exact congrArg Except.ok (group_two a b)
  | case4 a b c rest ih =>
    have ha := a.toNat_lt
    have hb := b.toNat_lt
    have hc := c.toNat_lt
    rw [encode, decodeFrom_digit (value?_digit (by omega)) (by decide),
      decodeFrom_digit (value?_digit (by omega)) (by simp),
      decodeFrom_digit (value?_digit (by omega)) (by simp),
      decodeFrom_lastDigit (value?_digit (by omega)) (by simp), ih]
    exact congrArg (fun start => Except.ok (start ++ rest)) (group_three a b c)

theorem decode_encode (bytes : Text) : decode (encode bytes) = .ok bytes :=
  decodeFrom_encode bytes 0

/-! ### What can be read -/

/-- A digit, the padding byte or a line end. -/
def isCodeByte (b : UInt8) : Bool := (value? b).isSome || isLineEnd b || b = pad

theorem isCodeByte_of_isLineEnd (h : isLineEnd b = true) : isCodeByte b = true := by
  rw [isCodeByte, h, Bool.or_true, Bool.true_or]

theorem isLineEnd_of_trailer (h : trailer offset t = .ok ()) : ∀ b ∈ t, isLineEnd b = true := by
  unfold trailer at h
  dsimp only at h
  split at h
  case isFalse => cases h
  case isTrue hlength =>
    have hall : t.takeWhile isLineEnd = t := (List.takeWhile_prefix _).eq_of_length hlength
    rw [← hall]
    exact List.all_eq_true.mp List.all_takeWhile

/-- After the first padding byte there is at most one more, and line ends. -/
theorem isCodeByte_of_padding {digits : Nat} (h : padding digits offset t = .ok ()) :
    ∀ b ∈ t, isCodeByte b = true := by
  unfold padding at h
  split at h
  case isFalse => exact fun b hb => isCodeByte_of_isLineEnd (isLineEnd_of_trailer h b hb)
  case isTrue =>
    dsimp only at h
    split at h
    case h_1 => cases h
    case h_2 p after hdrop =>
      split at h
      case isFalse => cases h
      case isTrue hp =>
        intro b hb
        rw [← List.takeWhile_append_dropWhile (p := isLineEnd) (l := t), hdrop, hp] at hb
        rcases List.mem_append.mp hb with hb | hb
        · exact isCodeByte_of_isLineEnd (List.all_eq_true.mp List.all_takeWhile b hb)
        · rcases List.mem_cons.mp hb with heq | hb
          · rw [heq]
            decide
          · exact isCodeByte_of_isLineEnd (isLineEnd_of_trailer h b hb)

theorem isCodeByte_of_decodeFrom (h : decodeFrom held offset t = .ok bytes) :
    ∀ b ∈ t, isCodeByte b = true := by
  induction t generalizing held offset bytes with
  | nil => exact fun b hb => absurd hb List.not_mem_nil
  | cons first rest ih =>
    rw [List.forall_mem_cons]
    rw [decodeFrom] at h
    split at h
    case h_1 v hv =>
      have hfirst : isCodeByte first = true := by simp [isCodeByte, hv]
      refine ⟨hfirst, ?_⟩
      split at h
      · obtain ⟨more, hmore, -⟩ := Outcome.map_eq_ok.mp h
        exact ih hmore
      · exact ih h
    case h_2 hv =>
      split at h
      · next hend => exact ⟨isCodeByte_of_isLineEnd hend, ih h⟩
      · split at h
        · next hpad =>
          obtain ⟨u, hu, -⟩ := Outcome.map_eq_ok.mp h
          have hfirst : first = pad := by
            simp only [Bool.and_eq_true, decide_eq_true_eq] at hpad
            exact hpad.1
          exact ⟨by simp [isCodeByte, hfirst], isCodeByte_of_padding hu⟩
        · cases h

/-- A text that is read holds digits, padding and line ends only. -/
theorem isCodeByte_of_decode (h : decode t = .ok bytes) : ∀ b ∈ t, isCodeByte b = true :=
  isCodeByte_of_decodeFrom h

end Accord.Base64
