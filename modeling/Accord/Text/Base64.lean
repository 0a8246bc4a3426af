/-
# Base64

The standard alphabet with padding. Reading passes over line ends, requires the
padding and reports the offset of the first byte that does not fit; bits that the
last digit holds too many are dropped.

## Main definitions

* `Base64.encode`: the padded form of some bytes;
* `Base64.decode`: the bytes, or the offset at which the text goes wrong.
-/

import Accord.Text.Basic

namespace Accord.Base64

/-- The digit of a value below sixty-four. -/
def digit (n : Nat) : UInt8 :=
  if n < 26 then (65 + n).toUInt8
  else if n < 52 then (71 + n).toUInt8
  else if n < 62 then (n - 4).toUInt8
  else if n = 62 then Text.byte '+'
  else Text.byte '/'

/-- The value of a digit. -/
def value? (b : UInt8) : Option Nat :=
  if Text.isUpperByte b then some (b.toNat - 65)
  else if Text.isLowerByte b then some (b.toNat - 71)
  else if Text.isDigitByte b then some (b.toNat + 4)
  else if b = Text.byte '+' then some 62
  else if b = Text.byte '/' then some 63
  else none

/-- The padding byte. -/
def pad : UInt8 := Text.byte '='

/-- The padded form of some bytes. -/
def encode : Text → Text
  | [] => []
  | [a] => [digit (a.toNat / 4), digit (a.toNat % 4 * 16), pad, pad]
  | [a, b] =>
    [digit (a.toNat / 4), digit (a.toNat % 4 * 16 + b.toNat / 16), digit (b.toNat % 16 * 4), pad]
  | a :: b :: c :: rest =>
    digit (a.toNat / 4) :: digit (a.toNat % 4 * 16 + b.toNat / 16) ::
      digit (b.toNat % 16 * 4 + c.toNat / 64) :: digit (c.toNat % 64) :: encode rest

/-- A line end, which reading passes over. -/
def isLineEnd (b : UInt8) : Bool := b = 10 || b = 13

/-- The whole bytes that the digits of a last group carry. -/
def group : List Nat → Text
  | [a, b] => [(a * 4 + b / 16).toUInt8]
  | [a, b, c] => [(a * 4 + b / 16).toUInt8, (b % 16 * 16 + c / 4).toUInt8]
  | [a, b, c, d] =>
    [(a * 4 + b / 16).toUInt8, (b % 16 * 16 + c / 4).toUInt8, (c % 4 * 64 + d).toUInt8]
  | _ => []

/-- What follows the padding of the last group: line ends only. -/
def trailer (offset : Nat) (t : Text) : Except Nat Unit :=
  let blank := t.takeWhile isLineEnd
  if blank.length = t.length then .ok () else .error (offset + blank.length)

/-- Checks what follows the first padding byte, which stands just before `offset`. -/
def padding (digits : Nat) (offset : Nat) (t : Text) : Except Nat Unit :=
  if digits = 2 then
    let blank := t.takeWhile isLineEnd
    let offset := offset + blank.length
    match t.dropWhile isLineEnd with
    | [] => .error offset
    | b :: rest => if b = pad then trailer (offset + 1) rest else .error (offset - 1)
  else trailer offset t

/-- Reads from `offset` on; `held` are the digits of the group that was begun. -/
def decodeFrom (held : List Nat) : (offset : Nat) → Text → Except Nat Text
  | offset, [] =>
    if held.isEmpty then .ok [] else .error (offset - held.length)
  | offset, b :: rest =>
    match value? b with
    | some v =>
      if held.length = 3 then
        (decodeFrom [] (offset + 1) rest).map (group (held ++ [v]) ++ ·)
      else decodeFrom (held ++ [v]) (offset + 1) rest
    | none =>
      if isLineEnd b then decodeFrom held (offset + 1) rest
      else if b = pad && 2 ≤ held.length then
        (padding held.length (offset + 1) rest).map fun _ => group held
      else .error offset

/-- The bytes of a padded form, or the offset at which it goes wrong. -/
def decode (t : Text) : Except Nat Text := decodeFrom [] 0 t

end Accord.Base64
