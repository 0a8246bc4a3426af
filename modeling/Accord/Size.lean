/-
# Sizes of data

A size is a number and a unit: powers of a thousand, or with an `i` powers of 1024.
The product is computed in double precision and cut to whole bytes. Sizes are shown
in binary units with two significant digits or whole.

## Main definitions

* `Size.parse`: the number of bytes that a size literal stands for;
* `Size.format`: a number of bytes in binary units.
-/

import Accord.Double.Reader
import Accord.Fault
import Accord.Text.CaseMap

namespace Accord.Size

/-- Why a text is no size. -/
inductive Error where
  | noNumber (input : Text)
  | unknownUnit (input unit : Text)
  | badNumber (input number : Text) (cause : NumberError)
  | tooLarge (input literal : Text)
  | overflow (input : Text)
  deriving DecidableEq, Repr

/-- The message of an error. -/
def Error.message : Error → Text
  | noNumber input => "size " ++ input.quote ++ " has no number"
  | unknownUnit input unit => "size " ++ input.quote ++ " has unknown unit " ++ unit.quote
  | badNumber input number cause =>
    "parse size " ++ input.quote ++ ": " ++ cause.message "ParseFloat" number
  | tooLarge input literal => "parse size " ++ input.quote ++ ": too large: " ++ literal
  | overflow input => "size " ++ input.quote ++ " overflows"

/-- The fault of a text that is no size. -/
def Error.fault (e : Error) : Fault := .mark .invalidSize e.message

/-- The units and their numbers of bytes. -/
def units : List (Text × Nat) :=
  [("", 1), ("b", 1),
   ("k", 1000), ("kb", 1000), ("ki", 1024), ("kib", 1024),
   ("m", 1000000), ("mb", 1000000), ("mi", 1 <<< 20), ("mib", 1 <<< 20),
   ("g", 1000000000), ("gb", 1000000000), ("gi", 1 <<< 30), ("gib", 1 <<< 30),
   ("t", 1000000000000), ("tb", 1000000000000), ("ti", 1 <<< 40), ("tib", 1 <<< 40)]

/-- A byte of the number of a size. -/
def isNumberByte (b : UInt8) : Bool := Text.isDigitByte b || b = Text.byte '.'

/-- The whole part of the double nearest to the product of a double and a number of bytes. -/
def product (d : Double) (unit : Nat) : Nat :=
  let whole (bits : Nat) : Nat :=
    let (m, e) := Format.binary64.parts bits
    m * Format.powerUp 2 e / Format.powerUp 2 (-e)
  let (m, e) := Format.binary64.parts d.magnitude
  whole (Format.binary64.round (m * unit * Format.powerUp 2 e) (Format.powerUp 2 (-e)))

/-- The number of bytes that a size literal stands for. -/
def parse (s : Text) : Except Error Nat := do
  let trimmed := s.trim
  let number := trimmed.takeWhile isNumberByte
  let unit := Text.lower (Text.trim (trimmed.dropWhile isNumberByte))
  if number.isEmpty || 1 < number.count (Text.byte '.') then throw (.noNumber s)
  match units.lookup unit with
  | none => throw (.unknownUnit s unit)
  | some bytes =>
    match Double.read number with
    | .error cause => throw (.badNumber s number cause)
    | .ok d =>
      let n := product d bytes
      if UInt64.size ≤ n then throw (.tooLarge s (number ++ unit))
      else if 1 <<< 63 ≤ n then throw (.overflow s)
      else return n

/-- The binary units with their sizes. The logarithm that chooses the unit is rounded, so that
sizes a few parts in 10^15 below a large unit already count as one. -/
def binaryUnits : List (Text × Nat × Nat) :=
  [("EiB", 1 <<< 60, 6208), ("PiB", 1 <<< 50, 3), ("TiB", 1 <<< 40, 0), ("GiB", 1 <<< 30, 0),
   ("MiB", 1 <<< 20, 0), ("KiB", 1 <<< 10, 0)]

/-- A number of tenths: with its fraction below ten, else rounded to a whole number, a half to
the even neighbour. -/
def tenths (n : Nat) : Text :=
  if n < 100 then Text.ofNat (n / 10) ++ "." ++ Text.ofNat (n % 10)
  else Text.ofNat (Format.divNearest n 10)

/-- The tenths of a unit in a number of bytes, rounded half up after a product and a sum in
double precision. -/
def tenthsOf (n unit : Nat) : Nat :=
  let value (bits : Nat) : Nat × Nat :=
    let (m, e) := Format.binary64.parts bits
    (m * Format.powerUp 2 e, Format.powerUp 2 (-e))
  let (a, b) := value (Format.binary64.round n 1)
  let (c, d) := value (Format.binary64.round (a * 10) (b * unit))
  let (p, q) := value (Format.binary64.round (2 * c + d) (2 * d))
  p / q

/-- A number of bytes in binary units. -/
def formatNat (n : Nat) : Text :=
  match binaryUnits.find? fun (_, unit, slack) => unit ≤ n + slack with
  | some (name, unit, _) => tenths (tenthsOf n unit) ++ " " ++ name
  | none => Text.ofNat n ++ " B"

/-- A number of bytes in binary units, with a sign. -/
def format (n : Int) : Text :=
  if n < 0 then "-" ++ formatNat n.natAbs else formatNat n.natAbs

end Accord.Size
