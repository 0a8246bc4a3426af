/-
# Rounding to a format

A ratio of natural numbers is rounded to the bits whose value is nearest to it. The values that
round to given finite bits form an interval around the value of the bits, which reaches half a
step to either side, or a quarter of a step downwards where the steps below are half as wide. The
ends belong to the interval if the significand is even.

## Main definitions

* `Format.Nearest`: a natural number is nearest to a ratio;
* `Format.Around`: a number lies in the interval around given bits.

## Main results

* `Format.floorLog2_eq_log`: the power of two that a ratio reaches;
* `Format.round_eq_of_around`: every ratio in the interval rounds to the bits.
-/

import Accord.Double.Format
import Mathlib.Algebra.Order.Field.Power
import Mathlib.Data.Int.Log
import Mathlib.Data.Rat.Floor
import Mathlib.Tactic.Linarith
import Mathlib.Tactic.Positivity
import Mathlib.Tactic.FieldSimp
import Mathlib.Tactic.Ring
import Mathlib.Tactic.NormNum

namespace Accord.Format

variable {num den k m : Nat} {q x : ℚ} {e : Int}

/-! ### Powers -/

theorem powerUp_pos {b : Nat} (hb : 0 < b) (n : Int) : 0 < powerUp b n :=
  Nat.pow_pos hb

/-- A power with an integer exponent as a ratio of natural numbers. -/
theorem powerUp_div {b : Nat} (hb : 0 < b) (n : Int) :
    (powerUp b n : ℚ) / powerUp b (-n) = (b : ℚ) ^ n := by
  have hb' : (b : ℚ) ≠ 0 := by exact_mod_cast hb.ne'
  rcases Int.le_total 0 n with hn | hn
  · obtain ⟨k, rfl⟩ := Int.eq_ofNat_of_zero_le hn
    have hneg : powerUp b (-(k : Int)) = 1 := by
      simp [powerUp]
    rw [hneg]
    simp [powerUp]
  · obtain ⟨k, hk⟩ := Int.eq_ofNat_of_zero_le (Int.neg_nonneg_of_nonpos hn)
    obtain rfl : n = -(k : Int) := by omega
    have hone : powerUp b (-(k : Int)) = 1 := by
      simp [powerUp]
    rw [hone, Int.neg_neg]
    simp [powerUp]

/-! ### Division to the nearest -/

/-- A natural number is nearest to a ratio; at equal distances it has to be even. -/
def Nearest (k : Nat) (x : ℚ) : Prop := |x - k| ≤ 1 / 2 ∧ (|x - k| = 1 / 2 → k % 2 = 0)

/-- What is at most half a step away, multiplied by twice the denominator. -/
theorem nearest_iff (hden : 0 < den) :
    Nearest k ((num : ℚ) / den) ↔
      (2 * num ≤ (2 * k + 1) * den ∧ 2 * k * den ≤ 2 * num + den) ∧
        (2 * num = (2 * k + 1) * den ∨ 2 * k * den = 2 * num + den → k % 2 = 0) := by
  have hden' : (0 : ℚ) < den := by exact_mod_cast hden
  have hhigh : (num : ℚ) / den - k ≤ 1 / 2 ↔ 2 * num ≤ (2 * k + 1) * den := by
    rw [sub_le_iff_le_add, div_le_iff₀ hden', ← Nat.cast_le (α := ℚ)]
    push_cast
    constructor <;> intro h <;> linarith
  have hlow : -(1 / 2) ≤ (num : ℚ) / den - k ↔ 2 * k * den ≤ 2 * num + den := by
    rw [le_sub_iff_add_le, le_div_iff₀ hden', ← Nat.cast_le (α := ℚ)]
    push_cast
    constructor <;> intro h <;> linarith
  have htop : (num : ℚ) / den - k = 1 / 2 ↔ 2 * num = (2 * k + 1) * den := by
    rw [sub_eq_iff_eq_add, div_eq_iff hden'.ne', ← Nat.cast_inj (R := ℚ)]
    push_cast
    constructor <;> intro h <;> linarith
  have hbottom : (num : ℚ) / den - k = -(1 / 2) ↔ 2 * k * den = 2 * num + den := by
    rw [sub_eq_iff_eq_add, div_eq_iff hden'.ne', ← Nat.cast_inj (R := ℚ)]
    push_cast
    constructor <;> intro h <;> linarith
  rw [Nearest, abs_le, abs_eq (by norm_num), hhigh, hlow, htop, hbottom, and_comm (a := _ ≤ _)]

theorem divNearest_eq (hden : 0 < den) (h : Nearest k ((num : ℚ) / den)) :
    divNearest num den = k := by
  obtain ⟨⟨hhigh, hlow⟩, htie⟩ := (nearest_iff hden).mp h
  have hdiv := Nat.div_add_mod num den
  have hmod := Nat.mod_lt num hden
  unfold divNearest
  dsimp only
  generalize num / den = a at hdiv ⊢
  generalize num % den = r at hdiv hmod ⊢
  subst hdiv
  -- The quotient is `k` or one less, and which of the two is told by the remainder.
  have hk : a ≤ k := by
    by_contra hlt
    have : (k + 1) * den ≤ a * den := Nat.mul_le_mul_right den (by omega)
    nlinarith
  have hk' : k ≤ a + 1 := by
    by_contra hlt
    have : (a + 2) * den ≤ k * den := Nat.mul_le_mul_right den (by omega)
    nlinarith
  obtain rfl | rfl : k = a ∨ k = a + 1 := by omega
  · have hr : 2 * r ≤ den := by nlinarith
    rcases Nat.lt_or_eq_of_le hr with hlt | heq
    · rw [if_pos hlt]
    · have heven := htie (.inl (by rw [← heq]; ring))
      rw [if_neg (by omega), if_neg (by omega), heven, Nat.add_zero]
  · have hr : den ≤ 2 * r := by nlinarith
    rcases Nat.lt_or_eq_of_le hr with hlt | heq
    · rw [if_neg (by omega), if_pos hlt]
    · have heven := htie (.inr (by rw [heq]; ring))
      rw [if_neg (by omega), if_neg (by omega)]
      omega

/-- Division to the nearest gives a nearest number. -/
theorem nearest_divNearest (num : Nat) (hden : 0 < den) :
    Nearest (divNearest num den) ((num : ℚ) / den) := by
  have hdiv := Nat.div_add_mod num den
  have hmod := Nat.mod_lt num hden
  rw [nearest_iff hden]
  unfold divNearest
  dsimp only
  generalize num / den = a at hdiv ⊢
  generalize num % den = r at hdiv hmod ⊢
  subst hdiv
  split
  · refine ⟨⟨by nlinarith, by nlinarith⟩, ?_⟩
    rintro (h | h) <;> nlinarith
  split
  · refine ⟨⟨by nlinarith, by nlinarith⟩, ?_⟩
    rintro (h | h) <;> nlinarith
  · -- At equal distances the even one of the two is taken.
    have heven : (a + a % 2) % 2 = 0 := by omega
    have hr : 2 * r = den := by omega
    refine ⟨?_, fun _ => heven⟩
    rcases Nat.mod_two_eq_zero_or_one a with h | h <;> rw [h] <;> constructor <;> nlinarith

/-! ### The power of two that a ratio reaches -/

theorem log_eq_of_bounds {b : Nat} (hb : 1 < b) (hq : 0 < q) (hlow : (b : ℚ) ^ e ≤ q)
    (hhigh : q < (b : ℚ) ^ (e + 1)) : Int.log b q = e := by
  have hle := (Int.zpow_le_iff_le_log hb hq).mp hlow
  have hlt := (Int.lt_zpow_iff_log_lt hb hq).mp hhigh
  omega

/-- A comparison of products as a comparison with a power of two. -/
theorem mul_powerUp_le_iff (hden : 0 < den) (e : Int) :
    den * powerUp 2 e ≤ num * powerUp 2 (-e) ↔ (2 : ℚ) ^ e ≤ (num : ℚ) / den := by
  have hden' : (0 : ℚ) < den := by exact_mod_cast hden
  have hdown : (0 : ℚ) < powerUp 2 (-e) := by exact_mod_cast powerUp_pos (by decide) (-e)
  have hpower := powerUp_div (b := 2) (by decide) e
  rw [Nat.cast_ofNat] at hpower
  rw [← hpower, div_le_div_iff₀ hdown hden', ← Nat.cast_le (α := ℚ)]
  push_cast
  rw [mul_comm (den : ℚ)]

/-- A ratio lies between powers of two that are known from the lengths of its parts. -/
theorem bounds_of_log2 (hnum : 0 < num) (hden : 0 < den) :
    (2 : ℚ) ^ ((num.log2 : Int) - den.log2 - 1) ≤ num / den ∧
      (num : ℚ) / den < 2 ^ ((num.log2 : Int) - den.log2 + 1) := by
  have hden' : (0 : ℚ) < den := by exact_mod_cast hden
  have two : (2 : ℚ) ≠ 0 := by norm_num
  have hnumLow : (2 : ℚ) ^ (num.log2 : Int) ≤ num := by
    exact_mod_cast Nat.log2_self_le hnum.ne'
  have hnumHigh : (num : ℚ) < 2 ^ ((num.log2 : Int) + 1) := by
    exact_mod_cast Nat.lt_log2_self
  have hdenLow : (2 : ℚ) ^ (den.log2 : Int) ≤ den := by
    exact_mod_cast Nat.log2_self_le hden.ne'
  have hdenHigh : (den : ℚ) < 2 ^ ((den.log2 : Int) + 1) := by
    exact_mod_cast Nat.lt_log2_self
  constructor
  · rw [le_div_iff₀ hden']
    calc (2 : ℚ) ^ ((num.log2 : Int) - den.log2 - 1) * den
        ≤ 2 ^ ((num.log2 : Int) - den.log2 - 1) * 2 ^ ((den.log2 : Int) + 1) := by gcongr
      _ = 2 ^ (num.log2 : Int) := by
        rw [← zpow_add₀ two]
        congr 1
        ring
      _ ≤ num := hnumLow
  · rw [div_lt_iff₀ hden']
    calc (num : ℚ) < 2 ^ ((num.log2 : Int) + 1) := hnumHigh
      _ = 2 ^ ((num.log2 : Int) - den.log2 + 1) * 2 ^ (den.log2 : Int) := by
        rw [← zpow_add₀ two]
        congr 1
        ring
      _ ≤ 2 ^ ((num.log2 : Int) - den.log2 + 1) * den := by gcongr

/-- The power of two that a ratio reaches is its logarithm, rounded down. -/
theorem floorLog2_eq_log (hnum : 0 < num) (hden : 0 < den) :
    floorLog2 num den = Int.log 2 ((num : ℚ) / den) := by
  have hq : (0 : ℚ) < (num : ℚ) / den :=
    div_pos (by exact_mod_cast hnum) (by exact_mod_cast hden)
  obtain ⟨hlow, hhigh⟩ := bounds_of_log2 hnum hden
  unfold floorLog2
  dsimp only
  -- The guess is right, or one too large: one comparison tells which.
  split
  · next h =>
    rw [mul_powerUp_le_iff hden] at h
    exact (log_eq_of_bounds (by decide) hq (by exact_mod_cast h) (by exact_mod_cast hhigh)).symm
  · next h =>
    rw [mul_powerUp_le_iff hden, not_le] at h
    refine (log_eq_of_bounds (by decide) hq (by exact_mod_cast hlow) ?_).symm
    rw [sub_add_cancel]
    exact_mod_cast h

/-! ### Rounding by the nearest significand -/

variable {f : Format} {bits : Nat}

/-- Rounding takes the exponent of the ratio, if the format has it, and the nearest number of
steps. -/
theorem round_eq_of_nearest (hnum : 0 < num) (hden : 0 < den)
    (he : max (Int.log 2 ((num : ℚ) / den) - (f.precision - 1)) f.leastExponent = e)
    (hk : Nearest k ((num : ℚ) / den / 2 ^ e)) :
    f.round num den =
      min f.infinity (((e - f.leastExponent).toNat <<< (f.precision - 1)) + k) := by
  have hratio : ((num * powerUp 2 (-e) : Nat) : ℚ) / (den * powerUp 2 e : Nat) =
      (num : ℚ) / den / 2 ^ e := by
    have hpower := powerUp_div (b := 2) (by decide) e
    rw [Nat.cast_ofNat] at hpower
    rw [← hpower, div_div_div_eq]
    push_cast
    rfl
  have hdiv : divNearest (num * powerUp 2 (-e)) (den * powerUp 2 e) = k :=
    divNearest_eq (Nat.mul_pos hden (powerUp_pos (by decide) e)) (hratio ▸ hk)
  unfold round
  rw [if_neg hnum.ne', floorLog2_eq_log hnum hden, he]
  dsimp only
  rw [hdiv]

/-- The least normal significand. -/
def unit (f : Format) : Nat := 1 <<< (f.precision - 1)

theorem unit_pos (f : Format) : 0 < f.unit := by
  rw [unit, Nat.one_shiftLeft]
  exact Nat.two_pow_pos _

theorem shiftLeft_eq_mul_unit (n : Nat) : n <<< (f.precision - 1) = n * f.unit := by
  rw [unit, Nat.one_shiftLeft, Nat.shiftLeft_eq]

theorem cast_unit (hp : 0 < f.precision) :
    (f.unit : ℚ) = (2 : ℚ) ^ ((f.precision : Int) - 1) := by
  have hcast : (f.precision : Int) - 1 = ((f.precision - 1 : Nat) : Int) := by omega
  rw [hcast, zpow_natCast, unit, Nat.one_shiftLeft]
  push_cast
  rfl

/-- Rounding within a binade: a ratio that has a normal significand at an exponent, or lies below
the least of these at the least exponent, takes the nearest significand. -/
theorem round_eq_of_binade (hp : 0 < f.precision) (hnum : 0 < num) (hden : 0 < den)
    {binades : Nat}
    (hlow : binades = 0 ∨ (f.unit : ℚ) ≤ (num : ℚ) / den / 2 ^ (f.leastExponent + binades))
    (hhigh : (num : ℚ) / den / 2 ^ (f.leastExponent + binades) < 2 * f.unit)
    (hk : Nearest k ((num : ℚ) / den / 2 ^ (f.leastExponent + binades))) :
    f.round num den = min f.infinity (binades * f.unit + k) := by
  have hq : (0 : ℚ) < (num : ℚ) / den :=
    div_pos (by exact_mod_cast hnum) (by exact_mod_cast hden)
  have hstep : (0 : ℚ) < 2 ^ (f.leastExponent + binades) := by positivity
  have two : (2 : ℚ) ≠ 0 := by norm_num
  have hbound : Int.log 2 ((num : ℚ) / den) < f.leastExponent + binades + f.precision := by
    refine (Int.lt_zpow_iff_log_lt (by decide) hq).mp ?_
    rw [div_lt_iff₀ hstep, cast_unit hp] at hhigh
    calc (num : ℚ) / den
        < 2 * 2 ^ ((f.precision : Int) - 1) * 2 ^ (f.leastExponent + binades) := hhigh
      _ = ((2 : Nat) : ℚ) ^ (f.leastExponent + binades + f.precision) := by
        rw [Nat.cast_ofNat, ← zpow_one_add₀ two, ← zpow_add₀ two]
        congr 1
        ring
  have he : max (Int.log 2 ((num : ℚ) / den) - (f.precision - 1)) f.leastExponent =
      f.leastExponent + binades := by
    rcases hlow with rfl | hlow
    · rw [max_eq_right (by omega)]
      simp
    · have hreach : f.leastExponent + binades + (f.precision - 1) ≤
          Int.log 2 ((num : ℚ) / den) := by
        refine (Int.zpow_le_iff_le_log (by decide) hq).mp ?_
        rw [le_div_iff₀ hstep, cast_unit hp, ← zpow_add₀ two, add_comm] at hlow
        exact_mod_cast hlow
      omega
  rw [round_eq_of_nearest hnum hden he hk, shiftLeft_eq_mul_unit]
  simp

/-! ### The interval of the numbers that round to given bits -/

/-- The significand and the number of whole binades below bits make up the bits. -/
theorem parts_spec (f : Format) (bits : Nat) :
    ∃ binades : Nat, (f.parts bits).2 = f.leastExponent + binades ∧
      binades * f.unit + (f.parts bits).1 = bits ∧ (f.parts bits).1 < 2 * f.unit ∧
      ((f.parts bits).1 < f.unit → binades = 0) := by
  have hdiv := Nat.div_add_mod bits f.unit
  have hmod := Nat.mod_lt bits f.unit_pos
  unfold parts
  dsimp only
  rw [← unit]
  generalize bits / f.unit = field at hdiv ⊢
  generalize bits % f.unit = fraction at hdiv hmod ⊢
  cases field with
  | zero => exact ⟨0, by simp, by simpa using hdiv, by simp; omega, by simp⟩
  | succ field =>
    refine ⟨field, by simp, ?_, ?_, ?_⟩
    · simp
      nlinarith
    · simp
      omega
    · simp

theorem significand_pos (hbits : 0 < bits) : 0 < (f.parts bits).1 := by
  obtain ⟨binades, -, hsum, -, hsub⟩ := f.parts_spec bits
  by_contra hzero
  have hsmall : (f.parts bits).1 < f.unit := by
    have := f.unit_pos
    omega
  rw [hsub hsmall] at hsum
  omega

/-- The lower end of the interval around bits, in quarters of a step. Below a power of two the
steps are half as wide. -/
def lowerEnd (f : Format) (bits : Nat) : Nat :=
  if (f.parts bits).1 = f.unit && f.leastExponent < (f.parts bits).2 then
    4 * (f.parts bits).1 - 1
  else 4 * (f.parts bits).1 - 2

/-- The upper end of the interval around bits, in quarters of a step. -/
def upperEnd (f : Format) (bits : Nat) : Nat := 4 * (f.parts bits).1 + 2

/-- A number is in the interval around bits. The ends belong to it if the significand is even. -/
def Around (f : Format) (bits : Nat) (q : ℚ) : Prop :=
  if (f.parts bits).1 % 2 = 0 then
    f.lowerEnd bits ≤ q / 2 ^ ((f.parts bits).2 - 2) ∧
      q / 2 ^ ((f.parts bits).2 - 2) ≤ f.upperEnd bits
  else
    f.lowerEnd bits < q / 2 ^ ((f.parts bits).2 - 2) ∧
      q / 2 ^ ((f.parts bits).2 - 2) < f.upperEnd bits

theorem div_quarter_step (q : ℚ) (e : Int) : q / 2 ^ (e - 2) = 4 * (q / 2 ^ e) := by
  rw [zpow_sub₀ (by norm_num : (2 : ℚ) ≠ 0)]
  field_simp
  norm_num

/-- The significand is the nearest number of steps for all of the interval. -/
theorem nearest_of_around {q : ℚ} (hbits : 0 < bits) (h : f.Around bits q) :
    Nearest (f.parts bits).1 (q / 2 ^ (f.parts bits).2) := by
  have hm := significand_pos (f := f) hbits
  have hlower : (4 * (f.parts bits).1 - 2 : ℚ) ≤ f.lowerEnd bits := by
    have : 4 * (f.parts bits).1 ≤ f.lowerEnd bits + 2 := by
      unfold lowerEnd
      split <;> omega
    have : ((4 * (f.parts bits).1 : Nat) : ℚ) ≤ (f.lowerEnd bits + 2 : Nat) := by
      exact_mod_cast this
    push_cast at this
    linarith
  have hupper : (f.upperEnd bits : ℚ) = 4 * (f.parts bits).1 + 2 := by
    rw [upperEnd]
    push_cast
    rfl
  unfold Around at h
  rw [hupper, div_quarter_step] at h
  generalize q / 2 ^ (f.parts bits).2 = x at h ⊢
  rw [Nearest, abs_le]
  split at h
  · next heven => exact ⟨⟨by linarith [h.1], by linarith [h.2]⟩, fun _ => heven⟩
  · refine ⟨⟨by linarith [h.1], by linarith [h.2]⟩, fun htie => ?_⟩
    -- No end of an open interval is in it.
    rcases abs_choice (x - ((f.parts bits).1 : ℚ)) with habs | habs <;>
      · rw [habs] at htie
        linarith [h.1, h.2]

/-- Just below a power of two the interval ends within half of the wider steps. -/
theorem quarter_le_of_around {q : ℚ} (hbits : 0 < bits) (hunit : (f.parts bits).1 = f.unit)
    (hleast : f.leastExponent < (f.parts bits).2) (h : f.Around bits q) :
    (f.unit : ℚ) - 1 / 4 ≤ q / 2 ^ (f.parts bits).2 := by
  have hm := significand_pos (f := f) hbits
  have hlower : (f.lowerEnd bits : ℚ) = 4 * f.unit - 1 := by
    rw [lowerEnd, hunit, if_pos (by simp [hleast]), Nat.cast_sub (by omega)]
    push_cast
    rfl
  unfold Around at h
  rw [hlower, div_quarter_step] at h
  split at h <;> linarith [h.1]

/-- What lies in the interval around finite bits rounds to them. -/
theorem round_eq_of_around (hp : 0 < f.precision) (hbits : 0 < bits) (hfinite : bits < f.infinity)
    (hnum : 0 < num) (hden : 0 < den) (h : f.Around bits ((num : ℚ) / den)) :
    f.round num den = bits := by
  have hnear := nearest_of_around hbits h
  have hquarter := fun hunit hleast => quarter_le_of_around hbits hunit hleast h
  obtain ⟨binades, he, hsum, hlt, hsub⟩ := f.parts_spec bits
  rw [he] at hnear hquarter
  generalize (f.parts bits).1 = m at *
  obtain ⟨hlow, hhigh⟩ := abs_le.mp hnear.1
  have hunit : (1 : ℚ) ≤ f.unit := by exact_mod_cast f.unit_pos
  have hlt' : (m : ℚ) + 1 ≤ 2 * f.unit := by exact_mod_cast hlt
  by_cases hbinade : binades = 0 ∨ (f.unit : ℚ) ≤ (num : ℚ) / den / 2 ^ (f.leastExponent + binades)
  · rw [round_eq_of_binade hp hnum hden hbinade (by linarith) hnear]
    omega
  · -- The number lies below a power of two, in the binade before that of the bits.
    obtain ⟨hbinades, hbelow⟩ := not_or.mp hbinade
    rw [not_le] at hbelow
    obtain ⟨binades, rfl⟩ : ∃ n, binades = n + 1 := ⟨binades - 1, by omega⟩
    have hm : m = f.unit := by
      have hge : f.unit ≤ m := Nat.not_lt.mp fun hsmall => hbinades (hsub hsmall)
      have hle : m < f.unit + 1 := by
        have : (m : ℚ) < f.unit + 1 := by linarith
        exact_mod_cast this
      omega
    have hstart := hquarter hm (by omega)
    have hhalf : (num : ℚ) / den / 2 ^ (f.leastExponent + binades) =
        2 * ((num : ℚ) / den / 2 ^ (f.leastExponent + (binades + 1 : Nat))) := by
      push_cast
      rw [← add_assoc, zpow_add_one₀ (by norm_num : (2 : ℚ) ≠ 0)]
      field_simp
    have hnear' : Nearest (2 * f.unit) ((num : ℚ) / den / 2 ^ (f.leastExponent + binades)) := by
      refine ⟨?_, fun _ => by omega⟩
      rw [hhalf, abs_le, Nat.cast_mul, Nat.cast_ofNat]
      constructor <;> linarith
    rw [round_eq_of_binade hp hnum hden (.inr (by linarith)) (by linarith) hnear']
    have hnext : (binades + 1) * f.unit = binades * f.unit + f.unit := by ring
    omega

end Accord.Format
