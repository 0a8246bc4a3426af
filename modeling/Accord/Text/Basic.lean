/-
# Byte texts

Everything that crosses the wire is a string of bytes. Most of them are UTF-8,
but none has to be: a path segment, a file name or an enumeration value may hold
any byte, and it comes out again as it went in. A text is therefore a list of
bytes, and the characters are a view of it.

## Main definitions

* `Text`: a string of bytes, with string literals coerced to their UTF-8 bytes;
* `Text.split`, `Text.join`: cutting at a byte and putting back together;
* `Text.le`: the order by bytes, in which all sorted output is sorted.
-/

namespace Accord

/-- A string of bytes. -/
abbrev Text := List UInt8

namespace Text

/-- The UTF-8 bytes of a character string. -/
def ofString (s : String) : Text := s.toList.flatMap String.utf8EncodeChar

instance : Coe String Text := ⟨ofString⟩

/-- The bytes of a list of characters. -/
def ofChars (cs : List Char) : Text := cs.flatMap String.utf8EncodeChar

/-- The byte of an ASCII character. -/
abbrev byte (c : Char) : UInt8 := c.toUInt8

/-! ### Cutting and joining -/

/-- Cuts at every occurrence of a byte; `n` cuts give `n + 1` pieces. -/
def split (sep : UInt8) : Text → List Text
  | [] => [[]]
  | b :: rest =>
    if b = sep then [] :: split sep rest
    else match split sep rest with
      | [] => [[b]]
      | piece :: pieces => (b :: piece) :: pieces

/-- Cuts at the first occurrence of a byte. -/
def cut? (sep : UInt8) : Text → Option (Text × Text)
  | [] => none
  | b :: rest =>
    if b = sep then some ([], rest) else (cut? sep rest).map fun (l, r) => (b :: l, r)

/-- Cuts at the last occurrence of a byte. -/
def cutLast? (sep : UInt8) : Text → Option (Text × Text)
  | [] => none
  | b :: rest =>
    match cutLast? sep rest with
    | some (l, r) => some (b :: l, r)
    | none => if b = sep then some ([], rest) else none

/-- Cuts into at most `n` pieces, the last of which keeps the remaining separators. -/
def splitAtMost (sep : UInt8) : Nat → Text → List Text
  | 0, _ => []
  | 1, t => [t]
  | n + 2, t =>
    match cut? sep t with
    | none => [t]
    | some (l, r) => l :: splitAtMost sep (n + 1) r

/-- Puts pieces together with a separator between them. -/
def join (sep : Text) : List Text → Text
  | [] => []
  | [t] => t
  | t :: rest => t ++ sep ++ join sep rest

/-- What follows a given beginning. -/
def dropStart? : (start t : Text) → Option Text
  | [], t => some t
  | _ :: _, [] => none
  | a :: start, b :: t => if a = b then dropStart? start t else none

/-- What precedes a given ending. -/
def dropEnd? (ending t : Text) : Option Text :=
  (dropStart? ending.reverse t.reverse).map List.reverse

/-- Whether a text begins with another. -/
def startsWith (t start : Text) : Bool := (dropStart? start t).isSome

/-- Whether a text ends with another. -/
def endsWith (t ending : Text) : Bool := (dropEnd? ending t).isSome

/-- Cuts at the first occurrence of a text. -/
def cutAt? (sep : Text) : Text → Option (Text × Text)
  | [] => if sep.isEmpty then some ([], []) else none
  | b :: rest =>
    match dropStart? sep (b :: rest) with
    | some after => some ([], after)
    | none => (cutAt? sep rest).map fun (l, r) => (b :: l, r)

/-- Whether a text occurs inside another. -/
def hasInfix (part t : Text) : Bool := (cutAt? part t).isSome

/-- Replaces every occurrence of a nonempty text, from the left; `skip` bytes of an
occurrence that was replaced are still to be passed over. -/
def replaceFrom (old new : Text) : (skip : Nat) → Text → Text
  | _, [] => []
  | k + 1, _ :: rest => replaceFrom old new k rest
  | 0, b :: rest =>
    if startsWith (b :: rest) old then new ++ replaceFrom old new (old.length - 1) rest
    else b :: replaceFrom old new 0 rest

/-- Replaces every occurrence of a nonempty text, from the left. -/
def replace (old new t : Text) : Text := replaceFrom old new 0 t

/-! ### Trimming -/

/-- Drops bytes of a class at the end. -/
def dropRightWhile (p : UInt8 → Bool) (t : Text) : Text :=
  (t.reverse.dropWhile p).reverse

/-- Drops bytes of a class at both ends. -/
def trimWhile (p : UInt8 → Bool) (t : Text) : Text := dropRightWhile p (t.dropWhile p)

/-! ### ASCII letters and digits -/

/-- An ASCII upper-case letter. -/
def isUpperByte (b : UInt8) : Bool := byte 'A' ≤ b && b ≤ byte 'Z'

/-- An ASCII lower-case letter. -/
def isLowerByte (b : UInt8) : Bool := byte 'a' ≤ b && b ≤ byte 'z'

/-- An ASCII digit. -/
def isDigitByte (b : UInt8) : Bool := byte '0' ≤ b && b ≤ byte '9'

/-- An ASCII letter. -/
def isLetterByte (b : UInt8) : Bool := isUpperByte b || isLowerByte b

/-- The lower-case form of an ASCII letter; any other byte is left alone. -/
def lowerByte (b : UInt8) : UInt8 := if isUpperByte b then b + 32 else b

/-- The upper-case form of an ASCII letter; any other byte is left alone. -/
def upperByte (b : UInt8) : UInt8 := if isLowerByte b then b - 32 else b

/-- Lower-cases ASCII letters only. -/
def lowerAscii (t : Text) : Text := t.map lowerByte

/-- Equality up to the case of ASCII letters. -/
def sameFold (a b : Text) : Bool := lowerAscii a == lowerAscii b

/-- The value of a hexadecimal digit. -/
def hexValue? (b : UInt8) : Option Nat :=
  if isDigitByte b then some (b.toNat - 48)
  else if byte 'a' ≤ b && b ≤ byte 'f' then some (b.toNat - 87)
  else if byte 'A' ≤ b && b ≤ byte 'F' then some (b.toNat - 55)
  else none

/-- The lower-case hexadecimal digit of a value below sixteen. -/
def hexDigit (n : Nat) : UInt8 := (if n < 10 then 48 + n else 87 + n).toUInt8

/-- The upper-case hexadecimal digit of a value below sixteen. -/
def hexDigitUpper (n : Nat) : UInt8 := (if n < 10 then 48 + n else 55 + n).toUInt8

/-- A number in hexadecimal, with at least `width` digits. -/
def hex (width n : Nat) : Text :=
  let digits := (Nat.toDigits 16 n).map byte
  List.replicate (width - digits.length) (byte '0') ++ digits

/-! ### Decimal numbers -/

/-- A natural number in decimal. -/
def ofNat (n : Nat) : Text := (Nat.toDigits 10 n).map byte

/-- An integer in decimal. -/
def ofInt (n : Int) : Text := if n < 0 then byte '-' :: ofNat n.natAbs else ofNat n.natAbs

/-- The number spelled by decimal digits. -/
def digitsToNat (t : Text) : Nat := t.foldl (fun n b => 10 * n + (b.toNat - 48)) 0

/-- Reads a nonempty run of decimal digits. -/
def toNat? (t : Text) : Option Nat :=
  if !t.isEmpty && t.all isDigitByte then some (digitsToNat t) else none

/-- A number with leading zeros up to a width. -/
def ofNatPadded (width n : Nat) : Text :=
  let digits := ofNat n
  List.replicate (width - digits.length) (byte '0') ++ digits

/-! ### Order -/

/-- The order by bytes: a proper beginning comes first. -/
def le : Text → Text → Bool
  | [], _ => true
  | _ :: _, [] => false
  | a :: s, b :: t => if a = b then le s t else a < b

/-- The strict order by bytes. -/
def lt (a b : Text) : Bool := le a b && a != b

/-- Sorts texts by bytes. -/
def sort (ts : List Text) : List Text := ts.mergeSort le

/-- Drops repetitions, keeping the first of each. -/
def distinct (ts : List Text) : List Text :=
  ts.foldl (fun seen t => if t ∈ seen then seen else seen ++ [t]) []

/-- Sorts entries by their keys; entries of one key keep their order. -/
def sortKeys {α : Type} (entries : List (Text × α)) : List (Text × α) :=
  entries.mergeSort fun a b => le a.1 b.1

/-- Sets the value of a key in an association list, in place if the key is there. -/
def upsert {α : Type} (key : Text) (value : α) : List (Text × α) → List (Text × α)
  | [] => [(key, value)]
  | (k, v) :: rest => if k = key then (k, value) :: rest else (k, v) :: upsert key value rest

end Text

end Accord
