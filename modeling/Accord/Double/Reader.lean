/-
# Numbers from text

Decimal and hexadecimal spellings of numbers, signed words for infinity and an
unsigned one for NaN. A spelling may have underscores between digits. Reading rounds
to the nearest value; a number beyond the greatest finite value is out of range.

## Main definitions

* `NumberError`: why a spelling is no number;
* `Integer.read`: an integer of a given width;
* `Double.read`: a double-precision number.
-/

import Accord.Double.Basic
import Accord.Text.Quoted

namespace Accord

/-- Why a text spells no number. -/
inductive NumberError where
  | syntaxError
  | outOfRange
  deriving DecidableEq, Repr

namespace NumberError

/-- The message for a reader, its input and what went wrong. -/
def message (reader : Text) (input : Text) : NumberError → Text
  | syntaxError => "strconv." ++ reader ++ ": parsing " ++ input.quote ++ ": invalid syntax"
  | outOfRange => "strconv." ++ reader ++ ": parsing " ++ input.quote ++ ": value out of range"

end NumberError

namespace Integer

/-- Reads decimal digits into a number of at most `width` bits. The first digit that does not
fit ends the reading, even if something else than a digit follows. -/
def digits (width : Nat) : (sofar : Nat) → Text → Except NumberError Nat
  | n, [] => .ok n
  | n, b :: rest =>
    if Text.isDigitByte b then
      let next := 10 * n + (b.toNat - 48)
      if next < 1 <<< width then digits width next rest else .error .outOfRange
    else .error .syntaxError

/-- Reads an unsigned integer of `width` bits. -/
def readUnsigned (width : Nat) (t : Text) : Except NumberError Nat :=
  if t.isEmpty then .error .syntaxError else digits width 0 t

/-- Reads a signed integer of `width` bits. -/
def read (width : Nat) (t : Text) : Except NumberError Int := do
  let (negative, body) := match t with
    | b :: rest =>
      if b = Text.byte '-' then (true, rest)
      else if b = Text.byte '+' then (false, rest)
      else (false, t)
    | [] => (false, t)
  let n ← readUnsigned width body
  let limit := 1 <<< (width - 1)
  if negative then
    if n ≤ limit then return -(n : Int) else throw .outOfRange
  else if n < limit then return n else throw .outOfRange

end Integer

namespace Double

/-- The state of a check that every underscore stands between two digits. -/
inductive Separator where
  | digit | underscore | other

/-- Checks that underscores stand between digits; a base mark counts as a digit. -/
def underscoresOk (isDigit : UInt8 → Bool) : Separator → Text → Bool
  | .underscore, [] => false
  | _, [] => true
  | last, b :: rest =>
    if isDigit b then underscoresOk isDigit .digit rest
    else if b = Text.byte '_' then
      match last with
      | .digit => underscoresOk isDigit .underscore rest
      | _ => false
    else match last with
      | .underscore => false
      | _ => underscoresOk isDigit .other rest

/-- What was read of a significand: the digits as a number, how many stand after the point,
and whether there were a point and a digit. -/
structure Significand where
  value : Nat := 0
  places : Nat := 0
  point : Bool := false
  any : Bool := false

/-- Reads the digits, point and underscores of a significand in a base. -/
def significand (base : Nat) : Significand → Text → Significand × Text
  | s, [] => (s, [])
  | s, b :: rest =>
    if b = Text.byte '_' then significand base s rest
    else if b = Text.byte '.' then
      if s.point then (s, b :: rest) else significand base { s with point := true } rest
    else match Text.hexValue? b with
      | some v =>
        if v < base then
          significand base
            { s with
              value := s.value * base + v
              places := if s.point then s.places + 1 else s.places
              any := true } rest
        else (s, b :: rest)
      | none => (s, b :: rest)

/-- Reads an exponent of which only the first few digits count: beyond those the number is
zero or infinite anyway. -/
def exponentDigits : (sofar : Nat) → Text → Nat × Text
  | n, [] => (n, [])
  | n, b :: rest =>
    if b = Text.byte '_' then exponentDigits n rest
    else if Text.isDigitByte b then
      exponentDigits (if n < 10000 then 10 * n + (b.toNat - 48) else n) rest
    else (n, b :: rest)

/-- Reads an exponent after its mark. -/
def exponent? (t : Text) : Option (Int × Text) :=
  let (sign, body) : Int × Text := match t with
    | b :: rest =>
      if b = Text.byte '-' then (-1, rest)
      else if b = Text.byte '+' then (1, rest)
      else (1, t)
    | [] => (1, t)
  match body with
  | b :: _ =>
    if Text.isDigitByte b then
      let (n, rest) := exponentDigits 0 body
      some (sign * n, rest)
    else none
  | [] => none

/-- The bits nearest to `value * base ^ exponent`, for a number whose size is out of the
question when the exponent is far from zero. -/
def scale (format : Format) (base value : Nat) (exponent : Int) : Nat :=
  if value = 0 then 0
  else
    let size := exponent + (Nat.toDigits base value).length
    if 1200 < size then format.infinity
    else if size < -1200 then 0
    else format.round (value * Format.powerUp base exponent) (Format.powerUp base (-exponent))

/-- The words for values that are not finite, without regard to case. -/
def word? (t : Text) : Option (Bool × Nat) :=
  let inf : List Text := ["inf", "infinity"]
  let top := Format.binary64.infinity
  match t with
  | [] => none
  | b :: rest =>
    if b = Text.byte '-' then
      if inf.contains (Text.lowerAscii rest) then some (true, top) else none
    else if b = Text.byte '+' then
      if inf.contains (Text.lowerAscii rest) then some (false, top) else none
    else if inf.contains t.lowerAscii then some (false, top)
    else if t.lowerAscii = "nan" then some (false, top + (1 <<< 51))
    else none

/-- The sign and bits of a finite spelling, in a format. -/
def spelled? (format : Format) (t : Text) : Option (Bool × Nat) :=
  let (negative, unsigned) := match t with
    | b :: rest =>
      if b = Text.byte '-' then (true, rest)
      else if b = Text.byte '+' then (false, rest)
      else (false, t)
    | [] => (false, t)
  let (hex, body) := match unsigned with
    | z :: x :: rest =>
      if z = Text.byte '0' && Text.lowerByte x = Text.byte 'x' && !rest.isEmpty then (true, rest)
      else (false, unsigned)
    | _ => (false, unsigned)
  let isDigit (b : UInt8) : Bool :=
    if hex then (Text.hexValue? b).isSome else Text.isDigitByte b
  let (s, rest) := significand (if hex then 16 else 10) {} body
  if !s.any then none
  else if !underscoresOk isDigit (if hex then .digit else .other) body then none
  else match rest with
    | [] =>
      if hex then none else some (negative, scale format 10 s.value (-(s.places : Int)))
    | mark :: rest =>
      if Text.lowerByte mark = (if hex then Text.byte 'p' else Text.byte 'e') then
        match exponent? rest with
        | some (e, []) =>
          if hex then some (negative, scale format 2 s.value (e - 4 * (s.places : Int)))
          else some (negative, scale format 10 s.value (e - s.places))
        | _ => none
      else none

/-- Reads the sign and bits of a number in a format. -/
def readBits (format : Format) (t : Text) : Except NumberError (Bool × Nat) :=
  match word? t with
  | some (negative, top) =>
    let extra := if top = Format.binary64.infinity then 0 else 1
    .ok (negative, format.infinity + extra)
  | none =>
    match spelled? format t with
    | none => .error .syntaxError
    | some (negative, bits) =>
      if bits = format.infinity then .error .outOfRange else .ok (negative, bits)

/-- Reads a double-precision number. -/
def read (t : Text) : Except NumberError Double := do
  let (negative, bits) ← readBits Format.binary64 t
  return if Format.binary64.infinity < bits then nan else ofMagnitude negative bits

/-- Reads a single-precision number, and widens it. -/
def readSingle (t : Text) : Except NumberError Double := do
  let (negative, bits) ← readBits Format.binary32 t
  return widen negative bits

end Double

end Accord
