/-
# Numbers as text

The shortest digits that round back are laid out positionally while the leading
digit's power of ten lies in a window, and with an exponent outside it. Plain text
and JSON differ in the window only.

## Main definitions

* `Layout`: the window of positional notation;
* `Double.text`: the plain text form, with words for the values that are not finite;
* `Double.json`: the JSON form of a finite number.
-/

import Accord.Double.Basic

namespace Accord

/-- The powers of ten of the leading digit for which a number is written positionally. -/
structure Layout where
  least : Int
  bound : Int

namespace Layout

/-- Plain text: positional from `0.0001` up to but not including a million. -/
def plain : Layout := ⟨-4, 6⟩

/-- JSON: positional from `0.000001` up to but not including `1e21`. -/
def json : Layout := ⟨-6, 21⟩

/-- Drops trailing zeros of a decimal. -/
def dropZeros (digits : Text) : Text := Text.dropRightWhile (· = Text.byte '0') digits

/-- The exponent with its sign and at least two digits. -/
def exponent (x : Int) : Text :=
  let mark : Text := if x < 0 then "e-" else "e+"
  mark ++ Text.ofNatPadded 2 x.natAbs

/-- Lays out digits whose first stands at the power `x` of ten. -/
def write (layout : Layout) (digits : Text) (x : Int) : Text :=
  let zeros (n : Nat) : Text := List.replicate n (Text.byte '0')
  if layout.least ≤ x && x < layout.bound then
    if x < 0 then "0." ++ zeros (-x - 1).toNat ++ digits
    else
      let whole := x.toNat + 1
      if digits.length ≤ whole then digits ++ zeros (whole - digits.length)
      else digits.take whole ++ "." ++ digits.drop whole
  else
    let rest := digits.drop 1
    let fraction : Text := if rest.isEmpty then [] else "." ++ rest
    digits.take 1 ++ fraction ++ exponent x

/-- Writes finite bits of a format, with a sign. -/
def number (layout : Layout) (format : Format) (negative : Bool) (magnitude : Nat) : Text :=
  let body :=
    if magnitude = 0 then ("0" : Text)
    else
      let d := format.shortest magnitude
      let digits := Text.ofNat d.digits
      layout.write (dropZeros digits) (d.exponent + (digits.length - 1))
  if negative then "-" ++ body else body

end Layout

namespace Double

/-- A finite number in a layout. -/
def write (layout : Layout) (d : Double) : Text :=
  layout.number Format.binary64 d.negative d.magnitude

/-- The plain text form. -/
def text (d : Double) : Text :=
  if d.isNaN then "NaN"
  else if d.isInfinite then (if d.negative then "-Infinity" else "Infinity")
  else d.write Layout.plain

/-- The JSON form of a finite number. -/
def json (d : Double) : Text := d.write Layout.json

end Double

end Accord
