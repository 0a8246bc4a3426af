/-
# The nearest value of a format

Read as numbers, the bits of a format count the steps from zero upwards, and the value grows with
them along a line in every binade. Each of these lines, prolonged, stays below the values of all
other bits. Rounding therefore finds the bits whose value is nearest of all, at equal distances the
even ones, and these are the only such bits. Infinity takes part with the value that would follow
the greatest finite one.

## Main definitions

* `Format.value`: the value of bits;
* `Format.IsNearest`: the bits whose value is nearest to a number, ties to even;
* `Double.RoundsTo`: rounding to double precision, with the sign.

## Main results

* `Format.line_le_value`: the line of a binade stays below the values of all bits;
* `Format.isNearest_round`: rounding gives the nearest bits;
* `Format.IsNearest.unique`: there are no others;
* `Format.exists_value_eq`, `Double.roundsTo_div`: numbers that need no rounding.
-/

import Accord.Double.Basic
import Accord.Proofs.Double.Rounding

namespace Accord.Format

variable {f : Format} {bits b c k binades num den : Nat} {x : ℚ}

/-! ### Values -/

/-- The value of bits. -/
def value (f : Format) (bits : Nat) : ℚ := (f.parts bits).1 * 2 ^ (f.parts bits).2

/-- The step of a binade in terms of the least step. -/
theorem step_eq (f : Format) (binades : Nat) :
    (2 : ℚ) ^ (f.leastExponent + binades) = 2 ^ f.leastExponent * 2 ^ binades := by
  rw [zpow_add₀ (by norm_num), zpow_natCast]

/-- A line does not catch up with a significand in a binade before its own. -/
theorem line_le_of_before {m u ahead : Nat} (hm : m < 2 * u) :
    ((m : ℚ) - ahead * u) * 2 ^ ahead ≤ m := by
  have hm' : (m : ℚ) < 2 * u := by exact_mod_cast hm
  have hpos : (0 : ℚ) ≤ m := Nat.cast_nonneg m
  rcases ahead with - | - | ahead
  · simp
  · norm_num
    linarith
  · -- Two binades back the line is already below zero.
    have hneg : (m : ℚ) - (ahead + 1 + 1 : Nat) * u ≤ 0 := by
      push_cast
      nlinarith [Nat.cast_nonneg (α := ℚ) ahead, Nat.cast_nonneg (α := ℚ) u]
    have hpower : (0 : ℚ) ≤ 2 ^ (ahead + 1 + 1) := by positivity
    linarith [mul_nonpos_of_nonpos_of_nonneg hneg hpower]

/-- A line is left behind in the binades after its own. -/
theorem line_le_of_after {m u after : Nat} (hm : u ≤ m) : after * u + m ≤ m * 2 ^ after := by
  have hpower : after + 1 ≤ 2 ^ after := Nat.lt_two_pow_self
  calc after * u + m ≤ after * m + m := by gcongr
    _ = m * (after + 1) := by ring
    _ ≤ m * 2 ^ after := by gcongr

/-- The line of a binade stays below the values of all bits. -/
theorem line_le_value (f : Format) (binades bits : Nat) :
    ((bits : ℚ) - binades * f.unit) * 2 ^ (f.leastExponent + binades) ≤ f.value bits := by
  obtain ⟨own, he, hsum, hlt, hsub⟩ := f.parts_spec bits
  have hleast : (0 : ℚ) < 2 ^ f.leastExponent := by positivity
  rw [value, he, step_eq, step_eq]
  generalize (f.parts bits).1 = m at *
  generalize f.unit = u at *
  subst hsum
  suffices h : ((own * u + m : Nat) - binades * u : ℚ) * 2 ^ binades ≤ m * 2 ^ own by
    calc ((own * u + m : Nat) - binades * u : ℚ) * (2 ^ f.leastExponent * 2 ^ binades)
        = ((own * u + m : Nat) - binades * u : ℚ) * 2 ^ binades * 2 ^ f.leastExponent := by ring
      _ ≤ m * 2 ^ own * 2 ^ f.leastExponent := by gcongr
      _ = m * (2 ^ f.leastExponent * 2 ^ own) := by ring
  push_cast
  rcases Nat.le_total own binades with hle | hle
  · obtain ⟨ahead, rfl⟩ := Nat.exists_eq_add_of_le hle
    calc ((own * u + m : ℚ) - (own + ahead : Nat) * u) * 2 ^ (own + ahead)
        = (m - ahead * u) * 2 ^ ahead * 2 ^ own := by
          push_cast
          ring
      _ ≤ m * 2 ^ own := by
          gcongr
          exact line_le_of_before hlt
  · obtain ⟨after, rfl⟩ := Nat.exists_eq_add_of_le hle
    -- Only in the first binade are there significands below the unit.
    have hline : after * u + m ≤ m * 2 ^ after := by
      rcases after with - | after
      · simp
      · exact line_le_of_after (Nat.not_lt.mp fun hsmall => by
          have := hsub hsmall
          omega)
    have hline' : (after * u + m : ℚ) ≤ m * 2 ^ after := by exact_mod_cast hline
    calc (((binades + after : Nat) * u + m : ℚ) - binades * u) * 2 ^ binades
        = (after * u + m) * 2 ^ binades := by
          push_cast
          ring
      _ ≤ m * 2 ^ after * 2 ^ binades := by gcongr
      _ = m * 2 ^ (binades + after) := by
          rw [pow_add]
          ring

/-- The significand and the binade are known from the bits. -/
theorem parts_eq (hlow : binades = 0 ∨ f.unit ≤ k) (hhigh : k < 2 * f.unit) :
    f.parts (binades * f.unit + k) = (k, f.leastExponent + binades) := by
  obtain ⟨own, he, hsum, hlt, hsub⟩ := f.parts_spec (binades * f.unit + k)
  have hunit := f.unit_pos
  refine Prod.ext_iff.mpr ?_
  rw [he]
  generalize (f.parts (binades * f.unit + k)).1 = m at *
  generalize f.unit = u at *
  have hown : own = binades := by
    rcases Nat.lt_trichotomy own binades with hless | heq | hmore
    · have hmul : (own + 1) * u ≤ binades * u := Nat.mul_le_mul_right u hless
      rw [Nat.add_mul, Nat.one_mul] at hmul
      omega
    · exact heq
    · have hmul : (binades + 1) * u ≤ own * u := Nat.mul_le_mul_right u hmore
      rw [Nat.add_mul, Nat.one_mul] at hmul
      omega
  subst hown
  exact ⟨by omega, rfl⟩

/-- In its own binade the values lie on the line, up to where the next binade begins. -/
theorem value_eq (hlow : binades = 0 ∨ f.unit ≤ k) (hhigh : k ≤ 2 * f.unit) :
    f.value (binades * f.unit + k) = k * 2 ^ (f.leastExponent + binades) := by
  rcases Nat.lt_or_eq_of_le hhigh with hlt | rfl
  · rw [value, parts_eq hlow hlt]
  · have hunit := f.unit_pos
    have hnext : binades * f.unit + 2 * f.unit = (binades + 1) * f.unit + f.unit := by ring
    rw [hnext, value, parts_eq (.inr le_rfl) (by omega), step_eq, step_eq, pow_succ]
    push_cast
    ring

/-- More bits, more value. -/
theorem value_strictMono (f : Format) : StrictMono f.value := by
  intro b c hbc
  obtain ⟨own, he, hsum, -, -⟩ := f.parts_spec b
  have hsum' : (own * f.unit + (f.parts b).1 : ℚ) = b := by exact_mod_cast hsum
  have hstep : (0 : ℚ) < 2 ^ (f.leastExponent + own) := by positivity
  have hbc' : (b : ℚ) < c := by exact_mod_cast hbc
  calc f.value b = ((b : ℚ) - own * f.unit) * 2 ^ (f.leastExponent + own) := by
        rw [value, he, ← hsum']
        ring
    _ < ((c : ℚ) - own * f.unit) * 2 ^ (f.leastExponent + own) := by gcongr
    _ ≤ f.value c := f.line_le_value own c

@[simp] theorem value_zero (f : Format) : f.value 0 = 0 := by
  have hzero : f.value (0 * f.unit + 0) = (0 : Nat) * 2 ^ (f.leastExponent + (0 : Nat)) :=
    value_eq (.inl rfl) (Nat.zero_le _)
  simpa using hzero

theorem value_nonneg (f : Format) (bits : Nat) : 0 ≤ f.value bits := by
  rw [← f.value_zero]
  exact f.value_strictMono.monotone (Nat.zero_le bits)

/-- A number with a significand of the format and an exponent that is not below the least one needs
no rounding. -/
theorem exists_value_eq (h : k ≤ 2 * f.unit) (binades : Nat) :
    ∃ bits, f.value bits = k * 2 ^ (f.leastExponent + binades) := by
  -- A small significand is doubled, and stands one binade before.
  induction binades generalizing k with
  | zero => exact ⟨_, value_eq (.inl rfl) h⟩
  | succ binades ih =>
    by_cases hunit : f.unit ≤ k
    · exact ⟨_, value_eq (.inr hunit) h⟩
    · obtain ⟨bits, hbits⟩ := ih (k := 2 * k) (by omega)
      refine ⟨bits, ?_⟩
      rw [hbits, step_eq, step_eq, pow_succ]
      push_cast
      ring

/-! ### The nearest bits -/

/-- The value of bits is nearest to a number, and at equal distances the bits are even. -/
structure IsNearest (f : Format) (x : ℚ) (bits : Nat) : Prop where
  le_infinity : bits ≤ f.infinity
  closest : ∀ c ≤ f.infinity, |x - f.value bits| ≤ |x - f.value c|
  tie : ∀ c ≤ f.infinity, c ≠ bits → |x - f.value bits| = |x - f.value c| → bits % 2 = 0

/-- Between two numbers at equal distances there is only what is nearer. -/
theorem abs_sub_lt_of_between {x p q r : ℚ} (hpq : p < q) (hqr : q < r)
    (h : |x - p| = |x - r|) : |x - q| < |x - p| := by
  have hmiddle : x - p = r - x := by
    rcases abs_eq_abs.mp h with h | h
    · linarith
    · linarith
  have habs : |x - p| = x - p := abs_of_nonneg (by linarith)
  rw [habs, abs_lt]
  constructor <;> linarith

/-- Of two nearest bits neither is the smaller. -/
theorem IsNearest.not_lt (hb : f.IsNearest x b) (hc : f.IsNearest x c) : ¬ b < c := by
  intro hlt
  have hdistance : |x - f.value b| = |x - f.value c| :=
    le_antisymm (hb.closest c hc.le_infinity) (hc.closest b hb.le_infinity)
  -- Both are even, so that other bits lie between them, which would be nearer.
  have hbeven := hb.tie c hc.le_infinity hlt.ne' hdistance
  have hceven := hc.tie b hb.le_infinity hlt.ne hdistance.symm
  have hbetween : b + 1 < c := by omega
  have hnearer := abs_sub_lt_of_between (f.value_strictMono (Nat.lt_succ_self b))
    (f.value_strictMono hbetween) hdistance
  exact absurd (hb.closest (b + 1) (by have := hc.le_infinity; omega)) (not_le.mpr hnearer)

theorem IsNearest.unique (hb : f.IsNearest x b) (hc : f.IsNearest x c) : b = c :=
  le_antisymm (Nat.not_lt.mp (hc.not_lt hb)) (Nat.not_lt.mp (hb.not_lt hc))

/-- Bits that are nearer than all others are nearest. -/
theorem isNearest_of_closer (h : bits ≤ f.infinity)
    (hcloser : ∀ c ≤ f.infinity, c ≠ bits → |x - f.value bits| < |x - f.value c|) :
    f.IsNearest x bits where
  le_infinity := h
  closest c hc := by
    rcases eq_or_ne c bits with rfl | hne
    · exact le_rfl
    · exact (hcloser c hc hne).le
  tie c hc hne heq := absurd heq (hcloser c hc hne).ne

/-- What needs no rounding is nearest to itself. -/
theorem isNearest_value (h : bits ≤ f.infinity) : f.IsNearest (f.value bits) bits := by
  refine isNearest_of_closer h fun c _ hne => ?_
  have hvalue : f.value bits ≠ f.value c := fun heq => hne (f.value_strictMono.injective heq).symm
  rw [sub_self, abs_zero]
  exact abs_pos.mpr (sub_ne_zero.mpr hvalue)

/-- What is not below the value of infinity is rounded to infinity. -/
theorem isNearest_infinity_of_le (h : f.value f.infinity ≤ x) : f.IsNearest x f.infinity := by
  refine isNearest_of_closer le_rfl fun c hc hne => ?_
  have hvalue := f.value_strictMono (lt_of_le_of_ne hc hne)
  rw [abs_of_nonneg (by linarith), abs_of_nonneg (by linarith)]
  linarith

/-- What is below half of the least positive value is rounded to zero. -/
theorem isNearest_zero_of_lt (h : 0 ≤ x) (hlt : 2 * x < f.value 1) : f.IsNearest x 0 := by
  refine isNearest_of_closer (Nat.zero_le _) fun c _ hne => ?_
  have hone := f.value_strictMono.monotone (Nat.one_le_iff_ne_zero.mpr hne)
  rw [value_zero, sub_zero, abs_of_nonneg h, abs_sub_comm]
  refine lt_of_lt_of_le ?_ (le_abs_self _)
  linarith

/-! ### Rounding -/

theorem even_unit (hp : 2 ≤ f.precision) : Even f.unit := by
  rw [unit, Nat.one_shiftLeft]
  exact (even_two).pow_of_ne_zero (by omega)


/-- A positive ratio lies in a binade, and has a nearest significand there. -/
theorem exists_binade (hp : 0 < f.precision) (hnum : 0 < num) (hden : 0 < den) :
    ∃ binades k : Nat,
      (binades = 0 ∨ (f.unit : ℚ) ≤ (num : ℚ) / den / 2 ^ (f.leastExponent + binades)) ∧
      (num : ℚ) / den / 2 ^ (f.leastExponent + binades) < 2 * f.unit ∧
      Nearest k ((num : ℚ) / den / 2 ^ (f.leastExponent + binades)) := by
  have hq : (0 : ℚ) < (num : ℚ) / den :=
    div_pos (by exact_mod_cast hnum) (by exact_mod_cast hden)
  have two : (2 : ℚ) ≠ 0 := by norm_num
  -- The binade is told by the logarithm, or is the first one.
  obtain ⟨binades, hbinades⟩ : ∃ binades : Nat, f.leastExponent + binades =
      max (Int.log 2 ((num : ℚ) / den) - (f.precision - 1)) f.leastExponent :=
    ⟨(max (Int.log 2 ((num : ℚ) / den) - (f.precision - 1)) f.leastExponent -
      f.leastExponent).toNat, by omega⟩
  have hstep : (0 : ℚ) < 2 ^ (f.leastExponent + binades) := by positivity
  refine ⟨binades, divNearest (num * powerUp 2 (-(f.leastExponent + binades)))
    (den * powerUp 2 (f.leastExponent + binades)), ?_, ?_, ?_⟩
  · rcases Nat.eq_zero_or_pos binades with hzero | hpos
    · exact .inl hzero
    · refine .inr ?_
      rw [le_div_iff₀ hstep, cast_unit hp, ← zpow_add₀ two]
      have hlog : (f.precision : Int) - 1 + (f.leastExponent + binades) =
          Int.log 2 ((num : ℚ) / den) := by omega
      rw [hlog]
      exact_mod_cast Int.zpow_log_le_self (b := 2) (by decide) hq
  · rw [div_lt_iff₀ hstep, cast_unit hp, ← zpow_one_add₀ two, ← zpow_add₀ two]
    have hlog : Int.log 2 ((num : ℚ) / den) <
        1 + ((f.precision : Int) - 1) + (f.leastExponent + binades) := by omega
    exact_mod_cast (Int.lt_zpow_iff_log_lt (b := 2) (by decide) hq).mpr hlog
  · have hnear := nearest_divNearest (num * powerUp 2 (-(f.leastExponent + binades)))
      (Nat.mul_pos hden (powerUp_pos Nat.two_pos (f.leastExponent + binades)))
    have hpower := powerUp_div (b := 2) (by decide) (f.leastExponent + binades)
    rw [Nat.cast_ofNat] at hpower
    rw [← hpower, div_div_div_eq]
    push_cast at hnear
    exact hnear

/-- The nearest significand in the binade of a number gives the nearest bits of all. -/
theorem closest_of_binade
    (hlow : binades = 0 ∨ (f.unit : ℚ) ≤ x / 2 ^ (f.leastExponent + binades))
    (hhigh : x / 2 ^ (f.leastExponent + binades) < 2 * f.unit)
    (hk : Nearest k (x / 2 ^ (f.leastExponent + binades))) (c : Nat)
    (hc : c ≠ binades * f.unit + k) :
    |x - f.value (binades * f.unit + k)| ≤ |x - f.value c| ∧
      (|x - f.value (binades * f.unit + k)| = |x - f.value c| → k % 2 = 0) := by
  have hstep : (0 : ℚ) < 2 ^ (f.leastExponent + binades) := by positivity
  have hline := f.line_le_value binades c
  obtain ⟨y, hy⟩ : ∃ y, x / 2 ^ (f.leastExponent + binades) = y := ⟨_, rfl⟩
  obtain rfl : x = y * 2 ^ (f.leastExponent + binades) := (div_eq_iff hstep.ne').mp hy
  rw [hy] at hlow hhigh hk
  obtain ⟨hleft, hright⟩ := abs_le.mp hk.1
  have hklow : binades = 0 ∨ f.unit ≤ k := by
    refine hlow.imp_right fun hunit => Nat.le_of_lt_succ ?_
    have : (f.unit : ℚ) < k + 1 := by linarith
    exact_mod_cast this
  have hkhigh : k ≤ 2 * f.unit := by
    have : (k : ℚ) < 2 * f.unit + 1 := by linarith
    exact Nat.le_of_lt_succ (by exact_mod_cast this)
  have hmonotone := f.value_strictMono
  have hvalue := value_eq hklow hkhigh
  have hdistance : |y * 2 ^ (f.leastExponent + binades) - f.value (binades * f.unit + k)| =
      |y - k| * 2 ^ (f.leastExponent + binades) := by
    rw [hvalue, ← sub_mul, abs_mul, abs_of_pos hstep]
  rw [hdistance]
  -- Half a step away from the number begins what is not nearer.
  have hfar (h : 1 / 2 * 2 ^ (f.leastExponent + binades) ≤
      |y * 2 ^ (f.leastExponent + binades) - f.value c|) :
      |y - k| * 2 ^ (f.leastExponent + binades) ≤
          |y * 2 ^ (f.leastExponent + binades) - f.value c| ∧
        (|y - k| * 2 ^ (f.leastExponent + binades) =
          |y * 2 ^ (f.leastExponent + binades) - f.value c| → k % 2 = 0) := by
    refine ⟨(mul_le_mul_of_nonneg_right hk.1 hstep.le).trans h, fun heq => hk.2 ?_⟩
    exact le_antisymm hk.1 (le_of_mul_le_mul_right (heq ▸ h) hstep)
  rcases Nat.lt_or_gt_of_ne hc with hless | hmore
  · by_cases hstart : binades = 0 ∨ f.unit < k
    · apply hfar
      have hpos : 0 < k := by
        rcases hstart with rfl | hunit
        · omega
        · omega
      obtain ⟨k, rfl⟩ : ∃ n, k = n + 1 := ⟨k - 1, by omega⟩
      have hbefore : f.value (binades * f.unit + k) = k * 2 ^ (f.leastExponent + binades) :=
        value_eq (by omega) (by omega)
      have hle := hmonotone.monotone (show c ≤ binades * f.unit + k by omega)
      rw [hbefore] at hle
      push_cast at hleft
      refine le_trans ?_ (le_abs_self _)
      nlinarith
    · -- At the start of a binade the number is not below it.
      obtain ⟨hpos, hunit⟩ := not_or.mp hstart
      have hk' : k = f.unit := by omega
      have hle : (k : ℚ) ≤ y := hk' ▸ hlow.resolve_left hpos
      have hlt := hmonotone hless
      rw [hvalue] at hlt
      have hbelow : |y - k| * 2 ^ (f.leastExponent + binades) <
          |y * 2 ^ (f.leastExponent + binades) - f.value c| := by
        rw [abs_of_nonneg (by linarith)]
        refine lt_of_lt_of_le ?_ (le_abs_self _)
        linarith
      exact ⟨hbelow.le, fun heq => absurd heq hbelow.ne⟩
  · apply hfar
    have hbits : (binades * f.unit + k + 1 : ℚ) ≤ c := by exact_mod_cast hmore
    have hlinear : ((k : ℚ) + 1) * 2 ^ (f.leastExponent + binades) ≤ f.value c := by
      refine le_trans ?_ hline
      gcongr
      linarith
    rw [abs_sub_comm]
    refine le_trans ?_ (le_abs_self _)
    nlinarith

/-- Where bits beyond infinity would be nearest, infinity is. -/
theorem isNearest_infinity (hb : f.infinity < b)
    (h : ∀ c, c ≠ b → |x - f.value b| ≤ |x - f.value c|) : f.IsNearest x f.infinity := by
  refine isNearest_of_closer le_rfl fun c hc hne => ?_
  have hlt := lt_of_le_of_ne hc hne
  have hbc := h c (by omega)
  have hvalue := f.value_strictMono hlt
  have hvalue' := f.value_strictMono hb
  -- The number is beyond the middle between the two, and so are the bits between them.
  have hmiddle : f.value b - x ≤ x - f.value c := by
    rcases abs_cases (x - f.value b) with ⟨habs, hsign⟩ | ⟨habs, hsign⟩ <;>
      rcases abs_cases (x - f.value c) with ⟨habs', hsign'⟩ | ⟨habs', hsign'⟩ <;> linarith
  rw [abs_lt, abs_of_nonneg (by linarith)]
  constructor <;> linarith

/-- Rounding gives the bits whose value is nearest. -/
theorem isNearest_round (hp : 2 ≤ f.precision) (num : Nat) (hden : 0 < den) :
    f.IsNearest ((num : ℚ) / den) (f.round num den) := by
  rcases Nat.eq_zero_or_pos num with rfl | hnum
  · have hzero : f.IsNearest (f.value 0) 0 := isNearest_value (Nat.zero_le _)
    simpa [round] using hzero
  · obtain ⟨binades, k, hlow, hhigh, hk⟩ := exists_binade (f := f) (by omega) hnum hden
    have hclosest := closest_of_binade hlow hhigh hk
    rw [round_eq_of_binade (by omega) hnum hden hlow hhigh hk]
    rcases Nat.lt_or_ge f.infinity (binades * f.unit + k) with hbeyond | hfits
    · rw [Nat.min_eq_left hbeyond.le]
      exact isNearest_infinity hbeyond fun c hne => (hclosest c hne).1
    · rw [Nat.min_eq_right hfits]
      refine ⟨hfits, fun c _ => ?_, fun c _ hne heq => ?_⟩
      · rcases eq_or_ne c (binades * f.unit + k) with rfl | hne
        · exact le_rfl
        · exact (hclosest c hne).1
      · have heven := (hclosest c hne).2 heq
        have hunit := Nat.even_iff.mp ((even_unit hp).mul_left binades)
        omega

end Accord.Format

/-! ### Double precision -/

namespace Accord.Double

open Format

variable {d : Double} {x y z : ℚ} {magnitude : Nat}

theorem value_infinity : binary64.value binary64.infinity = 2 ^ 1024 := by
  have hunit : binary64.unit = 2 ^ 52 := by decide
  have hbits : binary64.infinity = 2046 * binary64.unit + binary64.unit := by decide
  have hexponent : binary64.leastExponent + (2046 : Nat) = (972 : Nat) := by decide
  rw [hbits, value_eq (.inr le_rfl) (by omega), hunit, hexponent, zpow_natCast, Nat.cast_pow,
    Nat.cast_ofNat, ← pow_add]

theorem value_one : binary64.value 1 = 2 ^ (-1074 : Int) := by
  have hone : binary64.value (0 * binary64.unit + 1) =
      (1 : Nat) * 2 ^ (binary64.leastExponent + (0 : Nat)) := value_eq (.inl rfl) (by decide)
  simpa [binary64] using hone

/-- The number that a finite double denotes. -/
def value (d : Double) : ℚ :=
  if d.negative then -binary64.value d.magnitude else binary64.value d.magnitude

/-- Bits below the sign bit are kept apart from the sign. -/
theorem parts_ofMagnitude (h : magnitude < signBit) (negative : Bool) :
    (ofMagnitude negative magnitude).negative = negative ∧
      (ofMagnitude negative magnitude).magnitude = magnitude := by
  have hsign : signBit = 9223372036854775808 := rfl
  unfold Double.negative Double.magnitude ofMagnitude
  cases negative <;> simp [hsign] <;> omega

/-- A finite double denotes a rounded number with its sign. -/
theorem value_ofMagnitude (h : magnitude < binary64.infinity) (negative : Bool) :
    (ofMagnitude negative magnitude).isFinite = true ∧
      (ofMagnitude negative magnitude).value =
        if negative then -binary64.value magnitude else binary64.value magnitude := by
  have hsmall : magnitude < signBit := h.trans (by decide)
  obtain ⟨hnegative, hmagnitude⟩ := parts_ofMagnitude hsmall negative
  rw [isFinite, value, hnegative, hmagnitude]
  exact ⟨decide_eq_true h, rfl⟩

/-- Rounding to double precision, ties to even. The size is rounded and the sign is kept; the power
of two beyond the greatest double stands for infinity. -/
def RoundsTo (x y : ℚ) : Prop :=
  ∃ bits, binary64.IsNearest |x| bits ∧
    y = if x < 0 then -binary64.value bits else binary64.value bits

theorem exists_roundsTo (x : ℚ) : ∃ y, RoundsTo x y := by
  have hnearest := isNearest_round (f := binary64) (by decide) |x|.num.natAbs |x|.den_pos
  have hx : ((|x|.num.natAbs : Nat) : ℚ) / |x|.den = |x| := by
    rw [Nat.cast_natAbs, abs_of_nonneg (Rat.num_nonneg.mpr (abs_nonneg x))]
    exact Rat.num_div_den |x|
  rw [hx] at hnearest
  exact ⟨_, _, hnearest, rfl⟩

theorem RoundsTo.unique (hy : RoundsTo x y) (hz : RoundsTo x z) : y = z := by
  obtain ⟨b, hb, rfl⟩ := hy
  obtain ⟨c, hc, rfl⟩ := hz
  rw [hb.unique hc]

/-- What is not negative is rounded to the value of its nearest bits. -/
theorem roundsTo_iff (hx : 0 ≤ x) :
    RoundsTo x y ↔ ∃ bits, binary64.IsNearest x bits ∧ y = binary64.value bits := by
  simp only [RoundsTo, abs_of_nonneg hx, if_neg (not_lt.mpr hx)]

theorem RoundsTo.nonneg (h : RoundsTo x y) (hx : 0 ≤ x) : 0 ≤ y := by
  obtain ⟨bits, -, rfl⟩ := (roundsTo_iff hx).mp h
  exact value_nonneg _ bits

/-- What is beyond the greatest double is rounded to infinity. -/
theorem RoundsTo.eq_infinity (h : RoundsTo x y) (hx : 2 ^ 1024 ≤ x) : y = 2 ^ 1024 := by
  have hnonneg : 0 ≤ x := le_trans (by positivity) hx
  obtain ⟨bits, hbits, rfl⟩ := (roundsTo_iff hnonneg).mp h
  rw [← value_infinity] at hx ⊢
  rw [hbits.unique (isNearest_infinity_of_le hx)]

/-! ### Whole numbers -/

/-- A natural number up to the fifty-third power of two, over a power of two, needs no rounding. -/
theorem exists_value_eq_div {n i : Nat} (h : n ≤ 2 ^ 53) (hi : i ≤ 1074) :
    ∃ bits < binary64.infinity, binary64.value bits = n / 2 ^ i := by
  obtain ⟨bits, hbits⟩ := exists_value_eq (f := binary64) (k := n) h (1074 - i)
  have hexponent : binary64.leastExponent + (1074 - i : Nat) = -(i : Int) := by
    have hleast : binary64.leastExponent = -1074 := by decide
    omega
  rw [hexponent, zpow_neg, zpow_natCast, ← div_eq_mul_inv] at hbits
  refine ⟨bits, binary64.value_strictMono.lt_iff_lt.mp ?_, hbits⟩
  rw [hbits, value_infinity]
  calc (n : ℚ) / 2 ^ i ≤ n := div_le_self (Nat.cast_nonneg n) (one_le_pow₀ (by norm_num))
    _ ≤ 2 ^ 53 := by exact_mod_cast h
    _ < 2 ^ 1024 := pow_lt_pow_right₀ (by norm_num) (by norm_num)

theorem roundsTo_div {n i : Nat} (h : n ≤ 2 ^ 53) (hi : i ≤ 1074) :
    RoundsTo ((n : ℚ) / 2 ^ i) (n / 2 ^ i) := by
  obtain ⟨bits, hbits, hvalue⟩ := exists_value_eq_div h hi
  rw [roundsTo_iff (by positivity), ← hvalue]
  exact ⟨bits, isNearest_value hbits.le, rfl⟩

theorem exists_value_eq_natCast {n : Nat} (h : n ≤ 2 ^ 53) :
    ∃ bits < binary64.infinity, binary64.value bits = n := by
  simpa using exists_value_eq_div h (Nat.zero_le 1074)

theorem roundsTo_intCast {n : Int} (h : |n| ≤ 2 ^ 53) : RoundsTo n n := by
  have hsize : n.natAbs ≤ 2 ^ 53 := by
    rw [Int.abs_eq_natAbs] at h
    exact_mod_cast h
  obtain ⟨bits, hbits, hvalue⟩ := exists_value_eq_natCast hsize
  have habs : |(n : ℚ)| = binary64.value bits := by
    rw [hvalue, Nat.cast_natAbs, Int.cast_abs]
  refine ⟨bits, ?_, ?_⟩
  · rw [habs]
    exact isNearest_value hbits.le
  · rw [← habs]
    split
    · next hneg => rw [abs_of_neg hneg, neg_neg]
    · next hpos => rw [abs_of_nonneg (not_lt.mp hpos)]

/-- No other whole number is rounded to one below the fifty-third power of two. -/
theorem eq_of_roundsTo_intCast {m n : Int} (h : RoundsTo m n) (hn : |n| < 2 ^ 53) : m = n := by
  by_cases hm : |m| ≤ 2 ^ 53
  · exact_mod_cast (roundsTo_intCast hm).unique h
  · -- The power of two would be nearer.
    obtain ⟨bits, hbits, hvalue⟩ := h
    obtain ⟨top, htop, htopValue⟩ := exists_value_eq_natCast (n := 2 ^ 53) le_rfl
    have hclosest := hbits.closest top htop.le
    have hsize : binary64.value bits = |(n : ℚ)| := by
      rw [hvalue]
      split
      · rw [abs_neg, abs_of_nonneg (value_nonneg _ _)]
      · rw [abs_of_nonneg (value_nonneg _ _)]
    have hlarge : (2 ^ 53 : ℚ) < |(m : ℚ)| := by exact_mod_cast not_le.mp hm
    have hsmall : |(n : ℚ)| < 2 ^ 53 := by exact_mod_cast hn
    rw [hsize, htopValue, Nat.cast_pow, Nat.cast_ofNat, abs_of_pos (sub_pos.mpr hlarge),
      abs_of_pos (sub_pos.mpr (hsmall.trans hlarge))] at hclosest
    linarith

/-- A double is turned into an integer if it denotes one. -/
theorem toInt?_eq_some_iff (h : d.isFinite = true) {n : Int} : d.toInt? = some n ↔ d.value = n := by
  have hpower := powerUp_div (b := 2) (by decide) (binary64.parts d.magnitude).2
  rw [Nat.cast_ofNat] at hpower
  have hdown := powerUp_pos (b := 2) (by decide) (-(binary64.parts d.magnitude).2)
  unfold toInt? value Format.value
  rw [if_pos h, ← hpower, ← mul_div_assoc]
  dsimp only
  generalize (binary64.parts d.magnitude).1 = m at *
  generalize powerUp 2 (binary64.parts d.magnitude).2 = up at *
  generalize powerUp 2 (-(binary64.parts d.magnitude).2) = down at *
  have hdown' : (down : ℚ) ≠ 0 := by exact_mod_cast hdown.ne'
  split
  · next hwhole =>
    have hquotient : (m : ℚ) * up / down = ((m * up / down : Nat) : Int) := by
      obtain ⟨q, hq⟩ := Nat.dvd_of_mod_eq_zero hwhole
      rw [hq, Nat.mul_div_cancel_left _ hdown, div_eq_iff hdown', mul_comm (_ : ℚ) (down : ℚ)]
      exact_mod_cast hq
    rw [hquotient, Option.some_inj]
    cases d.negative with
    | false => exact Int.cast_inj.symm
    | true =>
      simp only [if_true]
      rw [← Int.cast_neg, Int.cast_inj]
  · next hbroken =>
    simp only [reduceCtorEq, false_iff]
    intro heq
    apply hbroken
    -- A ratio that is whole has no remainder.
    have hproduct : (m * up : ℚ) = (if d.negative then -n else n : Int) * down := by
      rw [← div_eq_iff hdown']
      cases hneg : d.negative <;> simp [hneg] at heq ⊢ <;> linarith
    have hdvd : (down : Int) ∣ (m * up : Nat) := by
      refine ⟨if d.negative then -n else n, ?_⟩
      rw [mul_comm (down : Int)]
      exact_mod_cast hproduct
    exact Nat.mod_eq_zero_of_dvd (Int.natCast_dvd_natCast.mp hdvd)

end Accord.Double
