/-
# Binary floating-point formats

A format stores a nonnegative number as a count of steps: the exponent field and the
significand, read together as one number, grow with the value. Rounding a ratio of
natural numbers to the nearest value of the format, with ties to the even
significand, and finding the shortest decimal that rounds back are both done in
exact arithmetic.

## Main definitions

* `Format.round`: the nearest value to a ratio, as the bits without the sign;
* `Format.parts`: the significand and exponent behind such bits;
* `Format.shortest`: the fewest decimal digits that round back, nearest of those.
-/

import Accord.Text.Basic

namespace Accord

/-- A binary floating-point format. -/
structure Format where
  /-- The number of bits of a normal significand. -/
  precision : Nat
  /-- The exponent of the least positive value. -/
  leastExponent : Int
  /-- The exponent field of the infinities. -/
  topField : Nat

namespace Format

/-- Double precision. -/
def binary64 : Format := ⟨53, -1074, 2047⟩

/-- Single precision. -/
def binary32 : Format := ⟨24, -149, 255⟩

variable (f : Format)

/-- The bits of positive infinity. -/
def infinity : Nat := f.topField <<< (f.precision - 1)

/-- `2 ^ n` for a nonnegative exponent, else one. -/
def powerUp (base : Nat) (n : Int) : Nat := Nat.pow base n.toNat

/-- Division to the nearest, ties to even. -/
def divNearest (num den : Nat) : Nat :=
  let q := num / den
  let r := num % den
  if 2 * r < den then q
  else if den < 2 * r then q + 1
  else q + q % 2

/-- The greatest `n` with `2 ^ n ≤ num / den`. -/
def floorLog2 (num den : Nat) : Int :=
  let guess : Int := (Nat.log2 num : Int) - Nat.log2 den
  if den * powerUp 2 guess ≤ num * powerUp 2 (-guess) then guess else guess - 1

/-- The bits of the value nearest to `num / den`, ties to the even significand. What lies
beyond the greatest finite value gives the bits of infinity. -/
def round (num den : Nat) : Nat :=
  if num = 0 then 0
  else
    let e := max (floorLog2 num den - (f.precision - 1)) f.leastExponent
    let m := divNearest (num * powerUp 2 (-e)) (den * powerUp 2 e)
    min f.infinity (((e - f.leastExponent).toNat <<< (f.precision - 1)) + m)

/-- The significand and exponent of finite bits: the value is `m * 2 ^ e`. -/
def parts (bits : Nat) : Nat × Int :=
  let unit := 1 <<< (f.precision - 1)
  let field := bits / unit
  let fraction := bits % unit
  if field = 0 then (fraction, f.leastExponent)
  else (unit + fraction, f.leastExponent + (field - 1))

/-- A positive decimal: `digits * 10 ^ exponent`. -/
structure Decimal where
  digits : Nat
  exponent : Int

/-- The greatest `n` with `10 ^ n ≤ m * 2 ^ e`. -/
def floorLog10 (m : Nat) (e : Int) : Int :=
  let guess : Int := Int.fdiv (((Nat.log2 m : Int) + e) * 30102999566) 100000000000
  let next := guess + 1
  if powerUp 10 next * powerUp 2 (-e) ≤ m * powerUp 2 e * powerUp 10 (-next) then next else guess

/-- The decimal with a given exponent that is nearest to positive finite bits and rounds back
to them, if there is one. -/
def onGrid (bits : Nat) (exponent : Int) : Option Decimal :=
  let (m, e) := f.parts bits
  let value := 4 * m
  let above := value + 2
  let below :=
    if m = 1 <<< (f.precision - 1) && f.leastExponent < e then value - 1 else value - 2
  let up := powerUp 2 (e - 2) * powerUp 10 (-exponent)
  let down := powerUp 2 (2 - e) * powerUp 10 exponent
  let inside (c : Nat) : Bool :=
    if m % 2 = 0 then below * up ≤ c * down && c * down ≤ above * up
    else below * up < c * down && c * down < above * up
  let low := value * up / down
  let nearest := divNearest (value * up) down
  let other := if nearest = low then low + 1 else low
  if inside nearest then some ⟨nearest, exponent⟩
  else if inside other then some ⟨other, exponent⟩
  else none

/-- The shortest decimal that rounds to positive finite bits, the nearest of those. Seventeen
digits always suffice. -/
def shortest (bits : Nat) : Decimal :=
  let (m, e) := f.parts bits
  let lead := floorLog10 m e
  ((List.range 17).findSome? fun (n : Nat) => f.onGrid bits (lead - n)).getD ⟨m, e⟩

end Format

end Accord
