/-
# Safe integers in JSON

A number without a point and an exponent is read as it stands, and accepted exactly if it is safe.
Any other spelling is first rounded to a double. Whole numbers come through this unharmed, since
all safe integers are doubles and nothing else that is whole is rounded to one. A number that is
not whole is let pass as well, as the safe integer that it is rounded to, if it is rounded to one.

## Main results

* `SafeLong.ofJson_of_fraction`, `SafeLong.ofJson_of_plain`: the two ways to read a number;
* `SafeLong.ofJson_signed`: which numbers are accepted, and as what;
* `SafeLong.ofJson_text`: what is written is read back;
* `SafeLong.ofJson_number_iff`: reading and writing as a whole.
-/

import Accord.Primitive.SafeLong
import Accord.Proofs.Double.Decimals
import Accord.Proofs.Text.Characters

namespace Accord

/-! ### Spellings without white space -/

namespace Decimals

open Text

variable (l : Decimals) {negative : Bool}

theorem trim_signed (negative : Bool) : (l.signed negative).trim = l.signed negative := by
  refine trim_of_visible fun b hb => ?_
  have table : ∀ b, Json.isNumberByte b = true → isVisible b = true :=
    forall_byte (by decide +kernel)
  exact table b (l.isNumberByte_of_mem_signed hb)

/-- There is neither a point nor an exponent. -/
def Plain : Prop := l.fraction = none ∧ l.exponent = none

theorem signed_of_plain (h : l.Plain) (negative : Bool) :
    l.signed negative = if negative then byte '-' :: l.whole else l.whole := by
  rw [signed, text, h.1, h.2, Option.elim_none, Option.elim_none, List.append_nil, List.append_nil]

/-- Digits alone spell a whole number. -/
theorem number_of_plain (h : l.Plain) (negative : Bool) :
    l.number negative = Integer.spelled negative l.whole := by
  have hvalue : l.value = digitsToNat l.whole := by
    simp [value, digits, power, h.1, h.2]
  rw [number, hvalue, Integer.spelled]
  cases negative <;> simp

theorem whole_of_plain (h : l.Plain) : l.whole ≠ [] ∧ IsDigits l.whole := by
  have hne := l.ne_nil
  have hdigits := l.isDigits
  rw [h.1, Option.getD_none, List.append_nil] at hne hdigits
  exact ⟨hne, hdigits⟩

/-- The bytes of a point and an exponent are found, and no others are like them. -/
theorem hasFraction_signed (negative : Bool) :
    SafeLong.hasFraction (l.signed negative) = true ↔ ¬ l.Plain := by
  have hdigit : ∀ b, (isDigitByte b || b = byte '-') = true →
      (b = byte '.' || b = byte 'e' || b = byte 'E') = false := forall_byte (by decide +kernel)
  constructor
  · -- Without them there are only digits and the sign.
    intro hany hplain
    obtain ⟨b, hb, hmark⟩ := List.any_eq_true.mp hany
    rw [l.signed_of_plain hplain] at hb
    have hplace : (isDigitByte b || b = byte '-') = true := by
      obtain ⟨-, hdigits⟩ := l.whole_of_plain hplain
      cases negative with
      | false => simp [hdigits b hb]
      | true =>
        rcases List.mem_cons.mp hb with rfl | hb
        · decide
        · simp [hdigits b hb]
    rw [hdigit b hplace] at hmark
    cases hmark
  · intro hplain
    suffices h : ∃ b ∈ l.text, (b = byte '.' || b = byte 'e' || b = byte 'E') = true by
      obtain ⟨b, hb, hmark⟩ := h
      refine List.any_eq_true.mpr ⟨b, ?_, hmark⟩
      cases negative with
      | false => exact hb
      | true => exact List.mem_cons_of_mem _ hb
    rw [text]
    cases hfraction : l.fraction with
    | some t => exact ⟨byte '.', by simp, by decide⟩
    | none =>
      cases hexponent : l.exponent with
      | none => exact absurd ⟨hfraction, hexponent⟩ hplain
      | some x =>
        refine ⟨if x.capital then byte 'E' else byte 'e', by simp [Exponent.text], ?_⟩
        cases x.capital <;> decide

end Decimals

namespace SafeLong

variable {l : Decimals} {negative : Bool} {n : Int}

/-! ### The range -/

theorem most_eq : most = 2 ^ 53 - 1 := by decide

theorem valid_iff : (SafeLong.mk n).valid = true ↔ |n| ≤ most := by
  rw [valid, Bool.and_eq_true, decide_eq_true_eq, decide_eq_true_eq, abs_le]

theorem lt_of_safe (h : |n| ≤ most) : |n| < 2 ^ 53 := by
  unfold most at h
  omega

/-- A value is accepted as it is or not at all. -/
theorem ite_valid_eq_ok_iff {m : Int} {e : Error} :
    (if (SafeLong.mk m).valid then Except.ok ⟨m⟩ else .error e) = .ok (SafeLong.mk n) ↔
      |n| ≤ most ∧ m = n := by
  rw [← valid_iff]
  split
  · next hvalid =>
    rw [Except.ok.injEq, mk.injEq]
    constructor
    · rintro rfl
      exact ⟨hvalid, rfl⟩
    · exact And.right
  · next hinvalid =>
    constructor
    · intro heq
      cases heq
    · rintro ⟨hvalid, rfl⟩
      exact absurd hvalid hinvalid

/-! ### Reading -/

/-- A spelling with a point or an exponent is accepted as the safe integer that it is rounded to. -/
theorem ofJson_of_fraction (hplain : ¬ l.Plain)
    (h : Double.ReadsNearest (l.signed negative) (l.number negative)) :
    ofJson (l.signed negative) = .ok ⟨n⟩ ↔
      |n| ≤ most ∧ Double.RoundsTo (l.number negative) n := by
  have hfraction : hasFraction (l.signed negative) = true :=
    (l.hasFraction_signed negative).mpr hplain
  obtain ⟨y, hy⟩ := Double.exists_roundsTo (l.number negative)
  have hrounds : Double.RoundsTo (l.number negative) n ↔ y = n :=
    ⟨hy.unique, fun heq => heq ▸ hy⟩
  have hread := h y hy
  unfold ofJson
  rw [l.trim_signed]
  dsimp only
  rw [if_pos hfraction, hrounds]
  split at hread
  · obtain ⟨d, hd, hfinite, rfl⟩ := hread
    rw [hd, ← Double.toInt?_eq_some_iff hfinite]
    dsimp only
    cases d.toInt? with
    | none => simp
    | some m =>
      rw [Option.some_inj]
      exact ite_valid_eq_ok_iff
  · -- What is rounded to infinity is no safe integer.
    next hlarge =>
    rw [hread]
    constructor
    · intro heq
      cases heq
    · rintro ⟨hsafe, rfl⟩
      have hsmall : |(n : ℚ)| < 2 ^ 53 := by exact_mod_cast lt_of_safe hsafe
      exact absurd (hsmall.trans (pow_lt_pow_right₀ (by norm_num) (by norm_num))) hlarge

/-- Digits alone are accepted if the integer that they spell is safe. -/
theorem ofJson_of_plain (hplain : l.Plain) :
    ofJson (l.signed negative) = .ok ⟨n⟩ ↔ |n| ≤ most ∧ l.number negative = n := by
  have hfraction : hasFraction (l.signed negative) = false := by
    rw [Bool.eq_false_iff]
    exact fun hany => (l.hasFraction_signed negative).mp hany hplain
  obtain ⟨hne, hdigits⟩ := l.whole_of_plain hplain
  have hread := @Integer.read_digits _ 63 hne hdigits negative
  rw [← l.signed_of_plain hplain] at hread
  rw [l.number_of_plain hplain, Int.cast_inj]
  unfold ofJson
  rw [l.trim_signed]
  dsimp only
  rw [hfraction, if_neg (by decide), ofText]
  split at hread
  · rw [hread]
    exact ite_valid_eq_ok_iff
  · -- A number of more than 64 bits is out of range at once, and is not safe either.
    next hlarge =>
    rw [hread]
    constructor
    · intro heq
      cases heq
    · rintro ⟨hsafe, rfl⟩
      have hsmall := abs_lt.mp (lt_of_safe hsafe)
      have hshift : ((1 <<< 63 : Nat) : Int) = 9223372036854775808 := by decide
      rw [hshift] at hlarge
      exact absurd ⟨by omega, by omega⟩ hlarge

/-- A number is accepted as the safe integer that it is. A number that is not whole is accepted as
the safe integer that it is rounded to. -/
theorem ofJson_signed (h : Double.ReadsNearest (l.signed negative) (l.number negative)) :
    ofJson (l.signed negative) = .ok ⟨n⟩ ↔
      |n| ≤ most ∧ (l.number negative = n ∨
        (∀ z : Int, l.number negative ≠ z) ∧ Double.RoundsTo (l.number negative) n) := by
  by_cases hplain : l.Plain
  · have hwhole : ¬ ∀ z : Int, l.number negative ≠ z := fun hnone =>
      hnone _ (l.number_of_plain hplain negative)
    rw [ofJson_of_plain hplain]
    simp [hwhole]
  · rw [ofJson_of_fraction hplain h, and_congr_right_iff]
    intro hsafe
    have hlt := lt_of_safe hsafe
    constructor
    · intro hrounds
      refine or_iff_not_imp_left.mpr fun hne => ⟨fun z hz => hne ?_, hrounds⟩
      -- What is whole is not rounded to another safe integer.
      rw [hz] at hrounds ⊢
      rw [Double.eq_of_roundsTo_intCast hrounds hlt]
    · rintro (heq | ⟨-, hrounds⟩)
      · rw [heq]
        exact Double.roundsTo_intCast hlt.le
      · exact hrounds

/-! ### Writing -/

/-- The digits of an integer. -/
def decimals (n : Int) : Decimals where
  whole := Text.ofNat n.natAbs
  ne_nil := by simp [Text.ofNat_ne_nil]
  isDigits := by simpa using Text.isDigits_ofNat n.natAbs

/-- A safe integer that is written is read back. -/
theorem ofJson_text (h : |n| ≤ most) : ofJson (SafeLong.mk n).text = .ok ⟨n⟩ := by
  have hplain : (decimals n).Plain := ⟨rfl, rfl⟩
  have htext : (SafeLong.mk n).text = (decimals n).signed (decide (n < 0)) := by
    rw [(decimals n).signed_of_plain hplain, text, Text.ofInt]
    simp only [decide_eq_true_eq]
    rfl
  rw [htext, ofJson_of_plain hplain, (decimals n).number_of_plain hplain]
  exact ⟨h, congrArg Int.cast (Integer.spelled_ofNat_natAbs n)⟩

theorem text?_eq_ok_iff {t : Text} :
    (SafeLong.mk n).text? = .ok t ↔ |n| ≤ most ∧ (SafeLong.mk n).text = t := by
  unfold text?
  rw [← valid_iff]
  split
  · next hvalid => simp [hvalid]
  · next hinvalid => simp [hinvalid]

/-- What is read as a safe integer: exactly the numbers that are one, and those that are not whole
but are rounded to one. What is written, and when: every safe integer, so that it is read back. -/
theorem ofJson_number_iff (l : Decimals) (negative : Bool)
    (h : l.Short ∨ Double.ReadsNearest (l.signed negative) (l.number negative)) :
    (∀ n : Int, ofJson (l.signed negative) = .ok ⟨n⟩ ↔
      |n| ≤ 2 ^ 53 - 1 ∧ (l.number negative = n ∨
        (∀ z : Int, l.number negative ≠ z) ∧ Double.RoundsTo (l.number negative) n)) ∧
    ∀ n : Int, ((∃ t, (SafeLong.mk n).text? = .ok t) ↔ |n| ≤ 2 ^ 53 - 1) ∧
      ∀ t, (SafeLong.mk n).text? = .ok t → ofJson t = .ok ⟨n⟩ := by
  have hnearest : Double.ReadsNearest (l.signed negative) (l.number negative) :=
    h.elim (fun hshort => l.readsNearest hshort negative) id
  rw [← most_eq]
  refine ⟨fun n => ofJson_signed hnearest, fun n => ⟨?_, fun t ht => ?_⟩⟩
  · simp [text?_eq_ok_iff]
  · obtain ⟨hsafe, rfl⟩ := text?_eq_ok_iff.mp ht
    exact ofJson_text hsafe

/-- A number with a point and an exponent, `12.50E+2`. -/
def twelveHundredFifty : Decimals where
  whole := "12"
  fraction := some "50"
  exponent := some ⟨true, some false, "2", by decide, List.all_eq_true.mp rfl⟩
  ne_nil := by decide
  isDigits := List.all_eq_true.mp rfl

/-- A whole number is read as it is, however it is spelled. -/
theorem ofJson_number_iff_whole :
    twelveHundredFifty.Short ∧ ofJson "12.50E+2" = .ok ⟨1250⟩ := by
  have hshort : twelveHundredFifty.Short := by
    intro x hx
    obtain rfl := Option.some.inj hx
    decide
  refine ⟨hshort, ((ofJson_number_iff twelveHundredFifty false (.inl hshort)).1 1250).mpr ?_⟩
  refine ⟨by decide, .inl ?_⟩
  have hdigits : Text.digitsToNat twelveHundredFifty.digits = 1250 := by decide
  have hpower : twelveHundredFifty.power = 0 := by decide
  show twelveHundredFifty.value = _
  rw [Decimals.value, hdigits, hpower]
  norm_num

/-- A number that lies between two safe integers, `4503599627370497.5`. -/
def between : Decimals where
  whole := "4503599627370497"
  fraction := some "5"
  ne_nil := by decide
  isDigits := List.all_eq_true.mp rfl

/-- A number that is not whole is accepted. -/
theorem ofJson_between :
    ofJson between.text = .ok ⟨4503599627370498⟩ ∧ ∀ z : Int, between.value ≠ z := by
  refine ⟨by decide +kernel, fun z hz => ?_⟩
  have hdigits : Text.digitsToNat between.digits = 45035996273704975 := by decide
  have hpower : between.power = -1 := by decide
  rw [Decimals.value, hdigits, hpower, zpow_neg_one, ← div_eq_mul_inv,
    div_eq_iff (by norm_num)] at hz
  have hwhole : (45035996273704975 : Int) = z * 10 := by exact_mod_cast hz
  omega

end SafeLong

end Accord
