/-
# The characters of a byte text

A text is read as a sequence of symbols: the well-formed UTF-8 sequences are
characters, and every byte that is part of none is a stray byte. Reading never
fails, and putting the symbols back together gives the text again. Where only
characters make sense a stray byte is read as the replacement character.

## Main definitions

* `Text.symbols`: the characters and stray bytes of a text;
* `Text.chars`: the same with U+FFFD for every stray byte;
* `Text.isUtf8`: no stray byte occurs.
-/

import Accord.Text.Basic

namespace Accord

/-- What stands at one place of a text: a character, or a byte that is part of none. -/
inductive Symbol where
  | char (c : Char)
  | stray (b : UInt8)
  deriving DecidableEq, Repr

namespace Symbol

/-- The bytes that a symbol was read from. -/
def bytes : Symbol → Text
  | char c => String.utf8EncodeChar c
  | stray b => [b]

/-- The character shown for a symbol. -/
def shown : Symbol → Char
  | char c => c
  | stray _ => Char.ofNat 0xFFFD

end Symbol

namespace Text

/-- A byte that continues a sequence, with the six bits it carries. -/
def tail? (b : UInt8) : Option Nat :=
  if 0x80 ≤ b && b < 0xC0 then some (b.toNat - 0x80) else none

/-- The character with a code point in a range, if there is one. -/
def scalar? (least most code : Nat) : Option Char :=
  if least ≤ code && code ≤ most && !(0xD800 ≤ code && code < 0xE000)
  then some (Char.ofNat code) else none

/-- The well-formed sequence that starts with byte `b`, with the number of bytes of `rest`
that belong to it. -/
def sequence? (b : UInt8) (rest : Text) : Option (Char × Nat) :=
  if b < 0x80 then some (Char.ofNat b.toNat, 0)
  else if b < 0xC0 then none
  else if b < 0xE0 then
    match rest with
    | b₁ :: _ => do
      let x ← tail? b₁
      let c ← scalar? 0x80 0x7FF ((b.toNat - 0xC0) * 64 + x)
      return (c, 1)
    | _ => none
  else if b < 0xF0 then
    match rest with
    | b₁ :: b₂ :: _ => do
      let x ← tail? b₁
      let y ← tail? b₂
      let c ← scalar? 0x800 0xFFFF (((b.toNat - 0xE0) * 64 + x) * 64 + y)
      return (c, 2)
    | _ => none
  else if b < 0xF8 then
    match rest with
    | b₁ :: b₂ :: b₃ :: _ => do
      let x ← tail? b₁
      let y ← tail? b₂
      let z ← tail? b₃
      let c ← scalar? 0x10000 0x10FFFF ((((b.toNat - 0xF0) * 64 + x) * 64 + y) * 64 + z)
      return (c, 3)
    | _ => none
  else none

/-- The symbols of a text after `skip` bytes of it. -/
def symbolsFrom : (skip : Nat) → Text → List Symbol
  | _, [] => []
  | k + 1, _ :: rest => symbolsFrom k rest
  | 0, b :: rest =>
    match sequence? b rest with
    | some (c, k) => .char c :: symbolsFrom k rest
    | none => .stray b :: symbolsFrom 0 rest

/-- The symbols of a text. -/
def symbols (t : Text) : List Symbol := symbolsFrom 0 t

/-- The characters of a text, U+FFFD standing for each stray byte. -/
def chars (t : Text) : List Char := t.symbols.map Symbol.shown

/-- Whether a text is well-formed UTF-8. -/
def isUtf8 (t : Text) : Bool :=
  t.symbols.all fun | .char _ => true | .stray _ => false

/-- The number of symbols, by which columns are counted. -/
def width (t : Text) : Nat := t.symbols.length

/-- The same text with every stray byte replaced by U+FFFD. -/
def scrub (t : Text) : Text := ofChars t.chars

end Text

end Accord
