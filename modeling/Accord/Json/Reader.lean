/-
# Reading JSON

A recursive reader over the bytes of a text. Every part returns the value it read,
the bytes it took and the bytes that are left; the fuel is the length of the input,
which bounds the nesting.

## Main definitions

* `Json.unescape`: the text that the inside of a string literal denotes;
* `Json.readFirst`: the first value of a text and what follows it;
* `Json.read`: the value of a text that holds nothing else.
-/

import Accord.Json.Basic

namespace Accord.Json

/-- White space between tokens. -/
def isSpace (b : UInt8) : Bool := b = 0x20 || b = 0x09 || b = 0x0A || b = 0x0D

/-- The white space a text begins with, and the rest. -/
def spaces (t : Text) : Text × Text := (t.takeWhile isSpace, t.dropWhile isSpace)

/-! ### Strings -/

/-- The inside of a string literal up to its closing quote, and what follows the quote. -/
def stringBody : Text → Option (Text × Text)
  | [] => none
  | b :: rest =>
    if b = Text.byte '"' then some ([], rest)
    else if b = 0 then none
    else if b = Text.byte '\\' then
      match rest with
      | [] => none
      | e :: rest => (stringBody rest).map fun (body, after) => (b :: e :: body, after)
    else (stringBody rest).map fun (body, after) => (b :: body, after)

/-- The number spelled by four hexadecimal digits. -/
def hex4? (a b c d : UInt8) : Option Nat := do
  let a ← Text.hexValue? a
  let b ← Text.hexValue? b
  let c ← Text.hexValue? c
  let d ← Text.hexValue? d
  return ((a * 16 + b) * 16 + c) * 16 + d

/-- The byte that a short escape stands for. -/
def shortEscape? (e : UInt8) : Option UInt8 :=
  if e = Text.byte '"' || e = Text.byte '\\' || e = Text.byte '/' then some e
  else if e = Text.byte 'b' then some 8
  else if e = Text.byte 'f' then some 12
  else if e = Text.byte 'n' then some 10
  else if e = Text.byte 'r' then some 13
  else if e = Text.byte 't' then some 9
  else none

/-- The first half of a pair of code units. -/
def isHigh (u : Nat) : Bool := 0xD800 ≤ u && u < 0xDC00

/-- The second half of a pair of code units. -/
def isLow (u : Nat) : Bool := 0xDC00 ≤ u && u < 0xE000

/-- The low half that an escape at the start of a text spells. -/
def lowHalf? : Text → Option Nat
  | s :: u :: a :: b :: c :: d :: _ =>
    if s = Text.byte '\\' && u = Text.byte 'u' then
      (hex4? a b c d).bind fun n => if isLow n then some n else none
    else none
  | _ => none

/-- The bytes of a code unit that stands alone. -/
def unitBytes (u : Nat) : Text :=
  String.utf8EncodeChar (if isHigh u || isLow u then Char.ofNat 0xFFFD else Char.ofNat u)

/-- The text denoted by the inside of a string literal; `skip` bytes were already read as the
second half of a pair. -/
def unescapeFrom : (skip : Nat) → Text → Option Text
  | _, [] => some []
  | k + 1, _ :: rest => unescapeFrom k rest
  | 0, b :: rest =>
    if b = Text.byte '\\' then
      match rest with
      | [] => none
      | e :: rest =>
        if e = Text.byte 'u' then
          match rest with
          | h₁ :: h₂ :: h₃ :: h₄ :: rest =>
            (hex4? h₁ h₂ h₃ h₄).bind fun u =>
              match (if isHigh u then lowHalf? rest else none) with
              | some low =>
                let code := 0x10000 + (u - 0xD800) * 0x400 + (low - 0xDC00)
                (unescapeFrom 6 rest).map (String.utf8EncodeChar (Char.ofNat code) ++ ·)
              | none => (unescapeFrom 0 rest).map (unitBytes u ++ ·)
          | _ => none
        else (shortEscape? e).bind fun c => (unescapeFrom 0 rest).map (c :: ·)
    else (unescapeFrom 0 rest).map (b :: ·)

/-- The text denoted by the inside of a string literal. -/
def unescape (body : Text) : Option Text := unescapeFrom 0 body

/-- Reads a string literal after its opening quote. -/
def stringAfterQuote (t : Text) : Option (Text × Text × Text) := do
  let (body, rest) ← stringBody t
  let value ← unescape body
  return (value, "\"" ++ body ++ "\"", rest)

/-! ### Numbers -/

/-- A byte that can occur in a number. -/
def isNumberByte (b : UInt8) : Bool :=
  Text.isDigitByte b || b = Text.byte '.' || b = Text.byte 'e' || b = Text.byte 'E' ||
    b = Text.byte '+' || b = Text.byte '-'

/-- Reads a number: the longest run of bytes that occur in numbers. -/
def numberLiteral (t : Text) : Option (Json × Text × Text) :=
  let literal := t.takeWhile isNumberByte
  match Double.read literal with
  | .error .syntaxError => none
  | _ => some (.number literal, literal, t.dropWhile isNumberByte)

/-! ### Values -/

/-- Reads a word. -/
def word (w : Text) (j : Json) (t : Text) : Option (Json × Text × Text) :=
  (Text.dropStart? w t).map fun rest => (j, w, rest)

mutual

/-- Reads a value at the start of a text. -/
def value : (fuel : Nat) → Text → Option (Json × Text × Text)
  | 0, _ => none
  | fuel + 1, t =>
    match t with
    | [] => none
    | b :: rest =>
      if b = Text.byte '"' then do
        let (v, source, rest) ← stringAfterQuote rest
        return (.string source v, source, rest)
      else if b = Text.byte '[' then do
        let (before, rest) := spaces rest
        match rest with
        | [] => none
        | c :: after =>
          if c = Text.byte ']' then
            let source := b :: before ++ [c]
            return (.array source [], source, after)
          else
            let (items, source, rest) ← elements fuel rest
            let source := b :: before ++ source
            return (.array source items, source, rest)
      else if b = Text.byte '\x7b' then do
        let (before, rest) := spaces rest
        match rest with
        | [] => none
        | c :: after =>
          if c = Text.byte '\x7d' then
            let source := b :: before ++ [c]
            return (.object source [], source, after)
          else
            let (members, source, rest) ← members fuel rest
            let source := b :: before ++ source
            return (.object source members, source, rest)
      else if b = Text.byte 'n' then word "null" .null t
      else if b = Text.byte 't' then word "true" (.bool true) t
      else if b = Text.byte 'f' then word "false" (.bool false) t
      else if b = Text.byte '-' || Text.isDigitByte b then numberLiteral t
      else none

/-- Reads the elements of an array up to its closing bracket. -/
def elements : (fuel : Nat) → Text → Option (List Json × Text × Text)
  | 0, _ => none
  | fuel + 1, t => do
    let (j, source, rest) ← value fuel t
    let (gap, rest) := spaces rest
    match rest with
    | [] => none
    | c :: rest =>
      if c = Text.byte ']' then return ([j], source ++ gap ++ [c], rest)
      else if c = Text.byte ',' then
        let (gap', rest) := spaces rest
        let (items, more, rest) ← elements fuel rest
        return (j :: items, source ++ gap ++ c :: gap' ++ more, rest)
      else none

/-- Reads the members of an object up to its closing brace. -/
def members : (fuel : Nat) → Text → Option (List (Text × Json) × Text × Text)
  | 0, _ => none
  | fuel + 1, t =>
    match t with
    | [] => none
    | q :: rest =>
      if q = Text.byte '"' then do
        let (key, keySource, rest) ← stringAfterQuote rest
        let (gap₁, rest) := spaces rest
        match rest with
        | [] => none
        | colon :: rest =>
          if colon = Text.byte ':' then
            let (gap₂, rest) := spaces rest
            let (j, source, rest) ← value fuel rest
            let (gap₃, rest) := spaces rest
            let sofar := keySource ++ gap₁ ++ colon :: gap₂ ++ source ++ gap₃
            match rest with
            | [] => none
            | c :: rest =>
              if c = Text.byte '\x7d' then return ([(key, j)], sofar ++ [c], rest)
              else if c = Text.byte ',' then
                let (gap₄, rest) := spaces rest
                let (more, source, rest) ← members fuel rest
                return ((key, j) :: more, sofar ++ c :: gap₄ ++ source, rest)
              else none
          else none
      else none

end

/-- The first value of a text, and what follows it. -/
def readFirst (t : Text) : Except Error (Json × Text) :=
  match value (t.length + 1) (spaces t).2 with
  | some (j, _, rest) => .ok (j, rest)
  | none => .error .mismatch

/-- The value of a text that holds one value and white space around it. -/
def read (t : Text) : Except Error Json := do
  let (j, rest) ← readFirst t
  if rest.all isSpace then return j else throw .mismatch

/-- Whether a text holds one value. -/
def valid (t : Text) : Bool := (read t).isOk

end Accord.Json
