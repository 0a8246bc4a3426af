/-
# Double-precision numbers

A double is kept as its bits, so that every operation on it is exact arithmetic on
natural numbers. Comparison is total: a NaN equals itself and comes after every
other value, and the two zeros are equal.

## Main definitions

* `Double`: the bits of a double-precision number;
* `Double.equal`, `Double.compare`: equality and the total order;
* `Double.toInt?`: the integer that a double denotes, if it denotes one.
-/

import Accord.Double.Format

namespace Accord

/-- A double-precision number, kept as its bits. -/
structure Double where
  bits : UInt64
  deriving DecidableEq, Repr, Inhabited

namespace Double

/-- The sign bit. -/
def signBit : Nat := 1 <<< 63

/-- The number with a sign and bits without the sign. -/
def ofMagnitude (negative : Bool) (magnitude : Nat) : Double :=
  ⟨(magnitude + if negative then signBit else 0).toUInt64⟩

/-- Whether the sign bit is set. -/
def negative (d : Double) : Bool := signBit ≤ d.bits.toNat

/-- The bits without the sign. -/
def magnitude (d : Double) : Nat := d.bits.toNat % signBit

/-- Positive zero. -/
def zero : Double := ⟨0⟩

/-- Not a number. -/
def nan : Double := ofMagnitude false (Format.binary64.infinity + (1 <<< 51))

/-- Infinity with a sign. -/
def infinity (negative : Bool) : Double := ofMagnitude negative Format.binary64.infinity

/-- Whether this is not a number. -/
def isNaN (d : Double) : Bool := Format.binary64.infinity < d.magnitude

/-- Whether this is an infinity. -/
def isInfinite (d : Double) : Bool := d.magnitude = Format.binary64.infinity

/-- Whether this is a finite number. -/
def isFinite (d : Double) : Bool := d.magnitude < Format.binary64.infinity

/-- The place of a number in the order of numbers; both zeros have place zero. -/
def rank (d : Double) : Int := if d.negative then -(d.magnitude : Int) else d.magnitude

/-- Equality in which a NaN equals itself. -/
def equal (a b : Double) : Bool :=
  if a.isNaN then b.isNaN else !b.isNaN && a.rank = b.rank

/-- The total order: negative, zero or positive as `a` comes before, with or after `b`. -/
def compare (a b : Double) : Int :=
  match a.isNaN, b.isNaN with
  | true, true => 0
  | true, false => 1
  | false, true => -1
  | false, false => if a.rank < b.rank then -1 else if b.rank < a.rank then 1 else 0

/-- The number nearest to an integer. -/
def ofInt (n : Int) : Double :=
  ofMagnitude (n < 0) (Format.binary64.round n.natAbs 1)

/-- The integer that a finite double denotes, if it denotes one. -/
def toInt? (d : Double) : Option Int :=
  if d.isFinite then
    let (m, e) := Format.binary64.parts d.magnitude
    let up := m * Format.powerUp 2 e
    let down := Format.powerUp 2 (-e)
    if up % down = 0 then
      let n : Int := (up / down : Nat)
      some (if d.negative then -n else n)
    else none
  else none

/-- The double with the value of single-precision bits without the sign. -/
def widen (negative : Bool) (single : Nat) : Double :=
  if Format.binary32.infinity < single then nan
  else if single = Format.binary32.infinity then infinity negative
  else
    let (m, e) := Format.binary32.parts single
    ofMagnitude negative
      (Format.binary64.round (m * Format.powerUp 2 e) (Format.powerUp 2 (-e)))

/-- The single-precision bits without the sign nearest to a double. -/
def narrow (d : Double) : Nat :=
  if d.isNaN then Format.binary32.infinity + 1
  else if d.isInfinite then Format.binary32.infinity
  else
    let (m, e) := Format.binary64.parts d.magnitude
    Format.binary32.round (m * Format.powerUp 2 e) (Format.powerUp 2 (-e))

end Double

end Accord
