/-
# Numbers in JSON

Integers of 64 bits and doubles are read back from the JSON they are written as. The
doubles that are not finite are written as words; all bit patterns that are not a
number become one.

## Main definitions

* `Double.canonical`: a double with one pattern for what is not a number.

## Main results

* `Json.reads_ofInt`, `Json.int64?_ofInt`, `Json.int32?_ofInt`: integers;
* `Double.exists_reads_wire`, `Double.ofJson_wire`: doubles.
-/

import Accord.Primitive.Scalar
import Accord.Proofs.Double.Spelling
import Accord.Proofs.Text.Utf8

namespace Accord.Text

variable {b : UInt8} {t : Text} {n : Nat}

theorem digitsToNat_lt (h : IsDigits t) : digitsToNat t < 10 ^ t.length := by
  induction t with
  | nil => decide
  | cons b t ih =>
    obtain ⟨hb, ht⟩ := List.forall_mem_cons.mp h
    have hdigit : b.toNat - 48 ≤ 9 := by
      simp only [isDigitByte, Bool.and_eq_true, decide_eq_true_eq, UInt8.le_iff_toNat_le] at hb
      have : (byte '9').toNat = 57 := by decide
      omega
    have hvalue : digitsToNat (b :: t) = (b.toNat - 48) * 10 ^ t.length + digitsToNat t :=
      (foldl_takeDigit (Integer.takeDigit 0 b) t).trans (by simp [Integer.takeDigit])
    rw [hvalue, List.length_cons, pow_succ]
    have := ih ht
    nlinarith

/-- A positive number is spelled without leading zeros. -/
theorem head?_ofNat_ne (h : 0 < n) : (ofNat n).head? ≠ some (byte '0') := by
  intro hhead
  obtain ⟨rest, hrest⟩ := List.head?_eq_some_iff.mp hhead
  have hlength : (Nat.toDigits 10 n).length = rest.length + 1 := by
    rw [← List.length_map byte, ← ofNat, hrest, List.length_cons]
  have hdigits : IsDigits rest := fun b hb =>
    isDigits_ofNat n b (hrest ▸ List.mem_cons_of_mem _ hb)
  have hvalue : digitsToNat rest = n := by
    rw [← digitsToNat_ofNat n, hrest]
    rfl
  have hlow := (Double.bounds_of_length h).1
  rw [hlength, Nat.add_sub_cancel] at hlow
  have hhigh := digitsToNat_lt hdigits
  omega

end Accord.Text

namespace Accord.Json

open Text

/-! ### Integers -/

/-- An integer is written as a numeral with a sign. -/
theorem exists_signed_eq_ofInt (n : Int) :
    ∃ (numeral : Numeral) (negative : Bool), numeral.signed negative = ofInt n := by
  have hdigits : IsDigits (ofNat n.natAbs ++ Option.getD none []) := by
    simpa using isDigits_ofNat n.natAbs
  refine ⟨⟨ofNat n.natAbs, none, none, ofNat_ne_nil _, hdigits, by simp⟩, decide (n < 0), ?_⟩
  by_cases hneg : n < 0 <;> simp [Numeral.signed, Numeral.text, ofInt, hneg]

/-- The JSON reader takes an integer as a number. -/
theorem reads_ofInt (n : Int) : Reads (ofInt n) (.number (ofInt n)) := by
  obtain ⟨numeral, negative, htext⟩ := exists_signed_eq_ofInt n
  rw [← htext]
  exact numeral.reads_signed negative

/-- An integer of 64 bits is read back. -/
theorem int64?_ofInt {n : Int} (hlow : -(9223372036854775808 : Int) ≤ n)
    (hhigh : n < 9223372036854775808) : int64? (.number (ofInt n)) = .ok n := by
  have hsize : UInt64.size = 18446744073709551616 := rfl
  have hlength : (ofNat n.natAbs).length ≤ 19 := by
    rw [ofNat, List.length_map, Nat.length_toDigits_le_iff (by decide) (by decide)]
    omega
  have hall : (ofNat n.natAbs).all isDigitByte = true :=
    List.all_eq_true.mpr (isDigits_ofNat n.natAbs)
  have hne : (ofNat n.natAbs).isEmpty = false := by simp [ofNat_ne_nil]
  have hvalue := digitsToNat_ofNat n.natAbs
  unfold ofInt
  split
  · next hneg =>
    simp only [int64?, if_true, hne, hall, Nat.not_lt.mpr hlength, hvalue, Bool.not_true,
      Bool.false_and, Bool.or_false, decide_false, Bool.false_eq_true, if_false, hsize,
      Int.bmod_def]
    exact congrArg Except.ok (by omega)
  · next hneg =>
    have hzero : (decide ((ofNat n.natAbs).head? = some (byte '0')) &&
        decide (1 < (ofNat n.natAbs).length)) = false := by
      rcases Nat.eq_zero_or_pos n.natAbs with hzero | hpos
      · rw [hzero]
        decide
      · rw [decide_eq_false (head?_ofNat_ne hpos), Bool.false_and]
    obtain ⟨b, rest, hb, hdigit⟩ := exists_ofNat_eq_cons n.natAbs
    have hminus := (ne_sign_of_isDigitByte hdigit).1
    rw [hb] at hne hall hlength hvalue hzero ⊢
    simp only [int64?, hminus, if_false, hne, hall, Nat.not_lt.mpr hlength, hvalue, hzero,
      Bool.not_true, Bool.not_false, Bool.true_and, Bool.or_false, decide_false,
      Bool.false_eq_true, hsize, Int.bmod_def]
    exact congrArg Except.ok (by omega)

/-- An integer of 32 bits is read back. -/
theorem int32?_ofInt {n : Int} (hlow : -2147483648 ≤ n) (hhigh : n < 2147483648) :
    int32? (.number (ofInt n)) = .ok n := by
  rw [int32?, int64?_ofInt (by omega) (by omega), Outcome.ok_bind,
    if_pos (by simp [hlow, hhigh])]
  rfl

end Accord.Json

namespace Accord.Double

open Text

/-! ### Doubles -/

/-- A double with one pattern for what is not a number. -/
def canonical (d : Double) : Double := if d.isNaN then nan else d

theorem canonical_canonical (d : Double) : d.canonical.canonical = d.canonical := by
  by_cases h : d.isNaN = true
  · have hcanonical : d.canonical = nan := if_pos h
    rw [hcanonical]
    decide +kernel
  · have hcanonical : d.canonical = d := if_neg h
    rw [hcanonical, hcanonical]

/-- A double is finite, an infinity or not a number. -/
theorem isFinite_or_infinity_or_isNaN (d : Double) :
    d.isFinite = true ∨ (∃ negative, d = infinity negative) ∨ d.isNaN = true := by
  rcases lt_trichotomy d.magnitude Format.binary64.infinity with h | h | h
  · exact .inl (decide_eq_true h)
  · refine .inr (.inl ⟨d.negative, ?_⟩)
    rw [infinity, ← h, ofMagnitude_magnitude]
  · exact .inr (.inr (decide_eq_true h))

/-- What is not a number is written as a word. -/
theorem wire_of_isNaN {d : Double} (h : d.isNaN = true) : d.wire = nan.wire := by
  have hfinite : d.isFinite = false :=
    decide_eq_false (Nat.lt_asymm (of_decide_eq_true h))
  have hword : nan.wire = "\"" ++ ("NaN" : Text) ++ "\"" := by decide +kernel
  rw [hword, wire, hfinite, text, h]
  rfl

theorem isNumberByte_of_mem_json {d : Double} (h : d.isFinite = true) {b : UInt8}
    (hb : b ∈ d.json) : Json.isNumberByte b = true := by
  have hfinite : d.magnitude < Format.binary64.infinity := by simpa [isFinite] using h
  obtain ⟨n, htext, -⟩ := Layout.json.exists_numeral_number d.negative hfinite
  rw [json, write, htext] at hb
  exact n.isNumberByte_of_mem_signed hb

/-- A finite number is read as it is written. -/
theorem ofJson_json {d : Double} (h : d.isFinite = true) : ofJson d.json = .ok d := by
  have hread : read d.json = .ok d := read_write Layout.json h
  have htrim : d.json.trim = d.json := by
    refine trim_of_visible fun b hb => ?_
    have table : ∀ b, Json.isNumberByte b = true → isVisible b = true :=
      forall_byte (by decide +kernel)
    exact table b (isNumberByte_of_mem_json h hb)
  have hquote : d.json.head? ≠ some (byte '"') := fun hhead =>
    absurd (isNumberByte_of_mem_json h (List.mem_of_mem_head? hhead)) (by decide)
  unfold ofJson
  rw [htrim]
  dsimp only
  rw [if_neg hquote, Json.read_of_reads (reads_json h)]
  dsimp only
  rw [Json.double?, hread]

/-- A double is read back, with one pattern for what is not a number. -/
theorem ofJson_wire (d : Double) : ofJson d.wire = .ok d.canonical := by
  rcases d.isFinite_or_infinity_or_isNaN with h | ⟨negative, rfl⟩ | h
  · have hnan : d.isNaN = false := decide_eq_false (Nat.lt_asymm (of_decide_eq_true h))
    rw [wire, if_pos h, ofJson_json h, canonical, hnan]
    rfl
  · cases negative <;> decide +kernel
  · rw [wire_of_isNaN h, canonical, if_pos h]
    decide +kernel

/-- The JSON of a double is a value. -/
theorem exists_reads_wire (d : Double) : ∃ j, Json.Reads d.wire j ∧ j.isNull = false := by
  -- The words are strings without anything to escape.
  have hword : ∀ word : Text, word.isUtf8 = true → Json.quote word = "\"" ++ word ++ "\"" →
      d.wire = "\"" ++ word ++ "\"" → ∃ j, Json.Reads d.wire j ∧ j.isNull = false := by
    intro word hutf8 hquote hwire
    rw [hwire, ← hquote]
    exact ⟨_, Json.reads_quote_of_isUtf8 hutf8, rfl⟩
  rcases d.isFinite_or_infinity_or_isNaN with h | ⟨negative, rfl⟩ | h
  · rw [wire, if_pos h]
    exact ⟨_, reads_json h, rfl⟩
  · cases negative with
    | false => exact hword "Infinity" (by decide +kernel) (by decide +kernel) (by decide +kernel)
    | true => exact hword "-Infinity" (by decide +kernel) (by decide +kernel) (by decide +kernel)
  · refine hword "NaN" (by decide +kernel) (by decide +kernel) ?_
    rw [wire_of_isNaN h]
    decide +kernel

end Accord.Double
