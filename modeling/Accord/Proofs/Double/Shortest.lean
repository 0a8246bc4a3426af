/-
# The shortest decimal

The search for a decimal that rounds to given bits goes through ever finer grids and
takes from each the point nearest to the value. A point that it takes lies in the
interval around the bits, and seventeen digits are enough for the grid to have one.

## Main definitions

* `Format.onGridAround`: the test that a grid point lies in the interval.

## Main results

* `Format.around_of_onGrid`: a decimal that is taken lies in the interval;
* `Format.isSome_onGrid`: a grid with seventeen digits has a decimal in it;
* `Format.around_shortest`: the shortest decimal of a double rounds to it;
* `Double.scale_of_around`: what is in the interval around a double is read as it.
-/

import Accord.Double.Reader
import Accord.Proofs.Double.Rounding

namespace Accord.Format

variable {f : Format} {bits : Nat} {exponent : Int}

/-! ### Points of a grid -/

/-- Whether a point of the decimal grid with an exponent lies in the interval around bits. -/
def onGridAround (f : Format) (bits : Nat) (exponent : Int) (c : Nat) : Bool :=
  let e := (f.parts bits).2
  let up := powerUp 2 (e - 2) * powerUp 10 (-exponent)
  let down := powerUp 2 (2 - e) * powerUp 10 exponent
  if (f.parts bits).1 % 2 = 0 then
    f.lowerEnd bits * up ≤ c * down && c * down ≤ f.upperEnd bits * up
  else f.lowerEnd bits * up < c * down && c * down < f.upperEnd bits * up

/-- The widths of a quarter step and of the grid, over a common denominator. -/
theorem grid_ratio (e exponent : Int) :
    ((powerUp 2 (2 - e) * powerUp 10 exponent : Nat) : ℚ) /
        (powerUp 2 (e - 2) * powerUp 10 (-exponent) : Nat) =
      10 ^ exponent / 2 ^ (e - 2) := by
  have hten := powerUp_div (b := 10) (by decide) exponent
  have htwo := powerUp_div (b := 2) (by decide) (2 - e)
  rw [neg_sub] at htwo
  push_cast at hten htwo ⊢
  rw [mul_div_mul_comm, hten, htwo, mul_comm, ← neg_sub e, zpow_neg, div_eq_mul_inv]

theorem onGridAround_iff (c : Nat) :
    f.onGridAround bits exponent c = true ↔ f.Around bits (c * 10 ^ exponent) := by
  have hup : (0 : ℚ) <
      (powerUp 2 ((f.parts bits).2 - 2) * powerUp 10 (-exponent) : Nat) := by
    exact_mod_cast Nat.mul_pos (powerUp_pos (by decide) _) (powerUp_pos (by decide) _)
  have hpoint : (c * 10 ^ exponent : ℚ) / 2 ^ ((f.parts bits).2 - 2) =
      (c * (powerUp 2 (2 - (f.parts bits).2) * powerUp 10 exponent) : Nat) /
        (powerUp 2 ((f.parts bits).2 - 2) * powerUp 10 (-exponent) : Nat) := by
    rw [mul_div_assoc, ← grid_ratio, Nat.cast_mul c, mul_div_assoc]
  unfold onGridAround Around
  dsimp only
  rw [hpoint, le_div_iff₀ hup, div_le_iff₀ hup, lt_div_iff₀ hup, div_lt_iff₀ hup]
  split <;>
    · rw [Bool.and_eq_true, decide_eq_true_eq, decide_eq_true_eq]
      norm_cast

/-- The point of a grid nearest to the value of bits. -/
def gridNearest (f : Format) (bits : Nat) (exponent : Int) : Nat :=
  divNearest
    (4 * (f.parts bits).1 * (powerUp 2 ((f.parts bits).2 - 2) * powerUp 10 (-exponent)))
    (powerUp 2 (2 - (f.parts bits).2) * powerUp 10 exponent)

/-- The search on one grid tries the nearest point and then the one on the other side. -/
theorem exists_onGrid_eq (f : Format) (bits : Nat) (exponent : Int) :
    ∃ other, f.onGrid bits exponent =
      if f.onGridAround bits exponent (f.gridNearest bits exponent) then
        some ⟨f.gridNearest bits exponent, exponent⟩
      else if f.onGridAround bits exponent other then some ⟨other, exponent⟩
      else none :=
  ⟨_, rfl⟩

theorem around_of_onGrid {d : Decimal} (h : f.onGrid bits exponent = some d) :
    f.Around bits (d.digits * 10 ^ d.exponent) := by
  obtain ⟨other, heq⟩ := f.exists_onGrid_eq bits exponent
  rw [heq] at h
  split at h
  · next hinside =>
    cases h
    exact (onGridAround_iff _).mp hinside
  · split at h
    · next hinside =>
      cases h
      exact (onGridAround_iff _).mp hinside
    · cases h

theorem isSome_onGrid_of_around
    (h : f.Around bits (f.gridNearest bits exponent * 10 ^ exponent)) :
    (f.onGrid bits exponent).isSome = true := by
  obtain ⟨other, heq⟩ := f.exists_onGrid_eq bits exponent
  rw [heq, if_pos ((onGridAround_iff _).mpr h)]
  rfl

/-- The nearest point of a grid is at most half a grid step from the value, both counted in
quarters of a step of the format. -/
theorem abs_gridNearest_sub_le (f : Format) (bits : Nat) (exponent : Int) :
    |(f.gridNearest bits exponent : ℚ) * 10 ^ exponent / 2 ^ ((f.parts bits).2 - 2) -
        4 * (f.parts bits).1| ≤ 10 ^ exponent / 2 ^ ((f.parts bits).2 - 2) / 2 := by
  have hdown : 0 < powerUp 2 (2 - (f.parts bits).2) * powerUp 10 exponent :=
    Nat.mul_pos (powerUp_pos (by decide) _) (powerUp_pos (by decide) _)
  have hratio := grid_ratio (f.parts bits).2 exponent
  have hstep : (0 : ℚ) < 10 ^ exponent / 2 ^ ((f.parts bits).2 - 2) := by positivity
  have hnear := (nearest_divNearest
    (4 * (f.parts bits).1 * (powerUp 2 ((f.parts bits).2 - 2) * powerUp 10 (-exponent))) hdown).1
  rw [← gridNearest, Nat.cast_mul (4 * _), mul_div_assoc, ← inv_div, hratio] at hnear
  rw [mul_div_assoc]
  generalize (10 : ℚ) ^ exponent / 2 ^ ((f.parts bits).2 - 2) = step at hstep hnear ⊢
  have hscale : |(f.gridNearest bits exponent : ℚ) * step - 4 * (f.parts bits).1| =
      |((4 * (f.parts bits).1 : Nat) : ℚ) * step⁻¹ - f.gridNearest bits exponent| * step := by
    rw [← abs_of_pos hstep, ← abs_mul, abs_of_pos hstep, abs_sub_comm, sub_mul,
      inv_mul_cancel_right₀ hstep.ne']
    push_cast
    rfl
  -- Half a unit of the quotient is half a step of the grid.
  rw [hscale]
  nlinarith

/-- The grid step for seventeen digits, in quarters of a step of the format, against the
significand. -/
theorem gridStep_le (h : (10 : ℚ) ^ (exponent + 16) ≤ (f.parts bits).1 * 2 ^ (f.parts bits).2) :
    (10 : ℚ) ^ 16 * (10 ^ exponent / 2 ^ ((f.parts bits).2 - 2)) ≤ 4 * (f.parts bits).1 := by
  have hpower : (0 : ℚ) < 2 ^ (f.parts bits).2 := by positivity
  rw [div_quarter_step, mul_left_comm, ← mul_div_assoc]
  refine mul_le_mul_of_nonneg_left ?_ (by norm_num)
  rw [div_le_iff₀ hpower, mul_comm (10 ^ 16 : ℚ)]
  rw [zpow_add₀ (by norm_num)] at h
  exact_mod_cast h

/-- A grid that has a point for seventeen digits of the value has one in the interval. -/
theorem isSome_onGrid (hunit : 2 * f.unit < 10 ^ 16) (hbits : 0 < bits)
    (h : (10 : ℚ) ^ (exponent + 16) ≤ (f.parts bits).1 * 2 ^ (f.parts bits).2) :
    (f.onGrid bits exponent).isSome = true := by
  have hm := significand_pos (f := f) hbits
  obtain ⟨-, -, -, hlt, -⟩ := f.parts_spec bits
  have hclose := abs_le.mp (f.abs_gridNearest_sub_le bits exponent)
  have hstep := gridStep_le h
  have hunit' : 2 * (f.unit : ℚ) < 10 ^ 16 := by exact_mod_cast hunit
  have hlt' : ((f.parts bits).1 : ℚ) < 2 * f.unit := by exact_mod_cast hlt
  refine isSome_onGrid_of_around ?_
  unfold Around
  generalize (10 : ℚ) ^ exponent / 2 ^ ((f.parts bits).2 - 2) = step at hclose hstep ⊢
  generalize (f.gridNearest bits exponent : ℚ) * 10 ^ exponent / 2 ^ ((f.parts bits).2 - 2) = y
    at hclose ⊢
  have hupper : y < f.upperEnd bits := by
    rw [upperEnd]
    push_cast
    linarith
  have hlower : (f.lowerEnd bits : ℚ) < y := by
    unfold lowerEnd
    split
    · -- The interval is narrower below a power of two, but so is the grid.
      next hboundary =>
      simp only [Bool.and_eq_true, decide_eq_true_eq] at hboundary
      have hsame : ((f.parts bits).1 : ℚ) = f.unit := by exact_mod_cast hboundary.1
      rw [Nat.cast_sub (by omega)]
      push_cast
      linarith
    · rw [Nat.cast_sub (by omega)]
      push_cast
      linarith
  split
  · exact ⟨hlower.le, hupper.le⟩
  · exact ⟨hlower, hupper⟩

/-! ### The leading digit -/

/-- A comparison of products as one of a power of ten with a significand and its exponent. -/
theorem powerUp_ten_mul_le_iff (n : Int) (m : Nat) (e : Int) :
    powerUp 10 n * powerUp 2 (-e) ≤ m * powerUp 2 e * powerUp 10 (-n) ↔
      (10 : ℚ) ^ n ≤ m * 2 ^ e := by
  have hten := powerUp_div (b := 10) (by decide) n
  have htwo := powerUp_div (b := 2) (by decide) e
  have htenPos : (0 : ℚ) < powerUp 10 (-n) := by exact_mod_cast powerUp_pos (by decide) (-n)
  have htwoPos : (0 : ℚ) < powerUp 2 (-e) := by exact_mod_cast powerUp_pos (by decide) (-e)
  rw [Nat.cast_ofNat] at hten htwo
  rw [← hten, ← htwo, ← mul_div_assoc, div_le_div_iff₀ htenPos htwoPos, ← Nat.cast_le (α := ℚ)]
  push_cast
  rfl

/-- The guess of the power of ten below a power of two. -/
def guessLog10 (n : Int) : Int := Int.fdiv (n * 30102999566) 100000000000

/-- Whether the guess is not above a power of two. -/
def guessHolds (n : Int) : Bool :=
  powerUp 10 (guessLog10 n) * powerUp 2 (-n) ≤ 1 * powerUp 2 n * powerUp 10 (-guessLog10 n)

/-- The guess is right for every power of two that a double may lie at. -/
theorem guessHolds_table : (List.range 2098).all (fun i => guessHolds (i - 1074)) = true := by
  decide +kernel

theorem ten_zpow_guessLog10_le {n : Int} (hlow : -1074 ≤ n) (hhigh : n < 1024) :
    (10 : ℚ) ^ guessLog10 n ≤ 2 ^ n := by
  have hrow := List.all_eq_true.mp guessHolds_table (n + 1074).toNat
    (List.mem_range.mpr (by omega))
  have hn : (((n + 1074).toNat : Nat) : Int) - 1074 = n := by omega
  rw [hn, guessHolds, decide_eq_true_eq, powerUp_ten_mul_le_iff] at hrow
  simpa using hrow

/-- The leading digit does not stand above the value. -/
theorem ten_zpow_floorLog10_le {m : Nat} {e : Int} (hm : 0 < m) (hlow : -1074 ≤ m.log2 + e)
    (hhigh : m.log2 + e < 1024) : (10 : ℚ) ^ floorLog10 m e ≤ m * 2 ^ e := by
  unfold floorLog10
  dsimp only
  split
  · -- The power of ten above the guess was compared with the value itself.
    next h => exact (powerUp_ten_mul_le_iff _ m e).mp h
  · calc (10 : ℚ) ^ guessLog10 (m.log2 + e) ≤ 2 ^ ((m.log2 : Int) + e) :=
          ten_zpow_guessLog10_le hlow hhigh
      _ = 2 ^ m.log2 * 2 ^ e := by rw [zpow_add₀ (by norm_num), zpow_natCast]
      _ ≤ m * 2 ^ e := by
        gcongr
        exact_mod_cast Nat.log2_self_le hm.ne'

/-! ### The shortest decimal of a double -/

theorem exponent_lt_of_finite (hbits : 0 < bits) (hfinite : bits < binary64.infinity) :
    -1074 ≤ (binary64.parts bits).2 ∧ (binary64.parts bits).2 < 972 := by
  obtain ⟨binades, he, hsum, hlt, hsub⟩ := binary64.parts_spec bits
  have hunit : binary64.unit = 4503599627370496 := by decide
  have htop : binary64.infinity = 2047 * 4503599627370496 := by decide
  have hleast : binary64.leastExponent = -1074 := rfl
  rw [hunit] at hsum hsub
  omega

/-- The shortest decimal of a double lies in the interval around it. -/
theorem around_shortest (hbits : 0 < bits) (hfinite : bits < binary64.infinity) :
    binary64.Around bits
      ((binary64.shortest bits).digits * 10 ^ (binary64.shortest bits).exponent) := by
  have hm := significand_pos (f := binary64) hbits
  obtain ⟨helow, hehigh⟩ := exponent_lt_of_finite hbits hfinite
  obtain ⟨-, -, -, hlt, -⟩ := binary64.parts_spec bits
  have hlog : (binary64.parts bits).1.log2 < 53 := by
    rw [Nat.log2_lt hm.ne']
    exact hlt
  have hlead := ten_zpow_floorLog10_le (e := (binary64.parts bits).2) hm (by omega) (by omega)
  -- The grid with seventeen digits has a decimal, so the search ends with one.
  have hlast : ((List.range 17).findSome? fun (n : Nat) =>
      binary64.onGrid bits (floorLog10 (binary64.parts bits).1 (binary64.parts bits).2 - n)).isSome =
        true := by
    rw [List.findSome?_isSome_iff]
    refine ⟨16, by decide, isSome_onGrid (by decide) hbits ?_⟩
    rwa [Nat.cast_ofNat, sub_add_cancel]
  obtain ⟨d, hd⟩ := Option.isSome_iff_exists.mp hlast
  obtain ⟨n, -, hn⟩ := List.exists_of_findSome?_eq_some hd
  have hshortest : binary64.shortest bits = d := by
    unfold shortest
    dsimp only
    rw [hd]
    rfl
  rw [hshortest]
  exact around_of_onGrid hn

end Accord.Format

namespace Accord.Double

open Format

variable {bits value : Nat} {exponent : Int}

/-! ### Reading what lies in the interval -/

/-- The interval around a double has positive numbers only, of a limited size. -/
theorem bounds_of_around {q : ℚ} (hbits : 0 < bits) (hfinite : bits < binary64.infinity)
    (h : binary64.Around bits q) : (2 : ℚ) ^ (-1200 : Int) ≤ q ∧ q < 2 ^ (1200 : Int) := by
  have hm := significand_pos (f := binary64) hbits
  obtain ⟨helow, hehigh⟩ := exponent_lt_of_finite hbits hfinite
  obtain ⟨-, -, -, hlt, -⟩ := binary64.parts_spec bits
  obtain ⟨hlow, hhigh⟩ := abs_le.mp (nearest_of_around hbits h).1
  have hm' : (1 : ℚ) ≤ (binary64.parts bits).1 := by exact_mod_cast hm
  have hlt' : ((binary64.parts bits).1 : ℚ) + 1 ≤ 2 ^ (53 : Int) := by
    have : (binary64.parts bits).1 + 1 ≤ 2 ^ 53 := hlt
    exact_mod_cast this
  generalize (binary64.parts bits).2 = e at *
  have hpower : (0 : ℚ) < 2 ^ e := by positivity
  have two : (2 : ℚ) ≠ 0 := by norm_num
  have one_le_two : (1 : ℚ) ≤ 2 := by norm_num
  have hq : q / 2 ^ e * 2 ^ e = q := div_mul_cancel₀ q hpower.ne'
  constructor
  · calc (2 : ℚ) ^ (-1200 : Int) ≤ 2 ^ (e - 1) := zpow_le_zpow_right₀ one_le_two (by omega)
      _ = 1 / 2 * 2 ^ e := by
        rw [zpow_sub_one₀ two]
        ring
      _ ≤ q / 2 ^ e * 2 ^ e := mul_le_mul_of_nonneg_right (by linarith) hpower.le
      _ = q := hq
  · calc q = q / 2 ^ e * 2 ^ e := hq.symm
      _ < 2 ^ (53 : Int) * 2 ^ e := mul_lt_mul_of_pos_right (by linarith) hpower
      _ = 2 ^ (53 + e) := (zpow_add₀ two 53 e).symm
      _ ≤ 2 ^ (1200 : Int) := zpow_le_zpow_right₀ one_le_two (by omega)

/-- A number lies between the powers of ten at its leading digit and one place above. -/
theorem bounds_of_length (hvalue : 0 < value) :
    10 ^ ((Nat.toDigits 10 value).length - 1) ≤ value ∧
      value < 10 ^ (Nat.toDigits 10 value).length := by
  have hpos : 0 < (Nat.toDigits 10 value).length :=
    List.length_pos_iff.mpr Nat.toDigits_ne_nil
  refine ⟨?_, (Nat.length_toDigits_le_iff (by decide) hpos).mp le_rfl⟩
  by_contra hsmall
  rcases Nat.eq_zero_or_pos ((Nat.toDigits 10 value).length - 1) with hone | hmore
  · rw [hone] at hsmall
    omega
  · have := (Nat.length_toDigits_le_iff (by decide) hmore).mpr (not_le.mp hsmall)
    omega

theorem pos_of_bounds (hlow : (2 : ℚ) ^ (-1200 : Int) ≤ value * 10 ^ exponent) : 0 < value := by
  by_contra hzero
  have hpower : (0 : ℚ) < 2 ^ (-1200 : Int) := by positivity
  rw [Nat.eq_zero_of_not_pos hzero, Nat.cast_zero, zero_mul] at hlow
  exact absurd hlow (not_le.mpr hpower)

theorem two_pow_le_ten_pow : (2 : ℚ) ^ (1200 : Int) ≤ 10 ^ (1200 : Int) :=
  zpow_le_zpow_left₀ (by norm_num) (by norm_num) (by norm_num)

/-- A number whose leading digit is far behind the point is small. -/
theorem lt_of_size_lt (hvalue : 0 < value)
    (hsize : exponent + (Nat.toDigits 10 value).length < -1200) :
    (value : ℚ) * 10 ^ exponent < 2 ^ (-1200 : Int) := by
  obtain ⟨-, hlt⟩ := bounds_of_length hvalue
  generalize (Nat.toDigits 10 value).length = length at *
  have hten : (0 : ℚ) < 10 ^ exponent := by positivity
  calc (value : ℚ) * 10 ^ exponent
      < 10 ^ (length : Int) * 10 ^ exponent := by
        refine mul_lt_mul_of_pos_right ?_ hten
        exact_mod_cast hlt
    _ = 10 ^ (exponent + length) := by rw [add_comm, zpow_add₀ (by norm_num)]
    _ ≤ 10 ^ (-1200 : Int) := zpow_le_zpow_right₀ (by norm_num) (by omega)
    _ ≤ 2 ^ (-1200 : Int) := by
      rw [zpow_neg, zpow_neg]
      exact inv_anti₀ (by positivity) two_pow_le_ten_pow

/-- A number whose leading digit is far before the point is large. -/
theorem le_of_lt_size (hvalue : 0 < value)
    (hsize : 1200 < exponent + (Nat.toDigits 10 value).length) :
    (2 : ℚ) ^ (1200 : Int) ≤ value * 10 ^ exponent := by
  have hpos : 0 < (Nat.toDigits 10 value).length :=
    List.length_pos_iff.mpr Nat.toDigits_ne_nil
  obtain ⟨hle, -⟩ := bounds_of_length hvalue
  generalize (Nat.toDigits 10 value).length = length at *
  have hten : (0 : ℚ) < 10 ^ exponent := by positivity
  calc (2 : ℚ) ^ (1200 : Int) ≤ 10 ^ (1200 : Int) := two_pow_le_ten_pow
    _ ≤ 10 ^ (((length - 1 : Nat) : Int) + exponent) :=
      zpow_le_zpow_right₀ (by norm_num) (by omega)
    _ = 10 ^ ((length - 1 : Nat) : Int) * 10 ^ exponent := zpow_add₀ (by norm_num) _ _
    _ ≤ value * 10 ^ exponent := by
      refine mul_le_mul_of_nonneg_right ?_ hten.le
      exact_mod_cast hle

/-- A number between powers of two has its leading digit between the same powers of ten. -/
theorem size_le_of_bounds (hvalue : 0 < value) (hlow : (2 : ℚ) ^ (-1200 : Int) ≤ value * 10 ^ exponent)
    (hhigh : (value : ℚ) * 10 ^ exponent < 2 ^ (1200 : Int)) :
    -1200 ≤ exponent + (Nat.toDigits 10 value).length ∧
      exponent + (Nat.toDigits 10 value).length ≤ 1200 :=
  ⟨Int.not_lt.mp fun h => absurd hlow (not_le.mpr (lt_of_size_lt hvalue h)),
    Int.not_lt.mp fun h => absurd hhigh (not_lt.mpr (le_of_lt_size hvalue h))⟩

/-- Digits and a power of ten as a ratio of natural numbers. -/
theorem ratio_eq (value : Nat) (exponent : Int) :
    ((value * powerUp 10 exponent : Nat) : ℚ) / powerUp 10 (-exponent) = value * 10 ^ exponent := by
  have hpower := powerUp_div (b := 10) (by decide) exponent
  push_cast at hpower ⊢
  rw [mul_div_assoc, hpower]

/-- What lies in the interval around a double is read as it. -/
theorem scale_of_around (hbits : 0 < bits) (hfinite : bits < binary64.infinity)
    (h : binary64.Around bits (value * 10 ^ exponent)) :
    scale binary64 10 value exponent = bits := by
  obtain ⟨hlow, hhigh⟩ := bounds_of_around hbits hfinite h
  have hvalue := pos_of_bounds hlow
  have hround : binary64.round (value * powerUp 10 exponent) (powerUp 10 (-exponent)) = bits :=
    round_eq_of_around (by decide) hbits hfinite
      (Nat.mul_pos hvalue (powerUp_pos (by decide) _)) (powerUp_pos (by decide) _)
      (ratio_eq value exponent ▸ h)
  -- The number is neither so small nor so large that it is not looked at.
  obtain ⟨hsmall, hlarge⟩ := size_le_of_bounds hvalue hlow hhigh
  unfold scale
  dsimp only
  rw [if_neg hvalue.ne', if_neg (by omega), if_neg (by omega), hround]

end Accord.Double
