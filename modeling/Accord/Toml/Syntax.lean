/-
# The syntax of TOML

A document is a list of lines: headers of tables, and keys with values. Reading the lines
does not yet tell which tables they make up; that a key is given twice is found later.

## Main definitions

* `Toml.Raw`: a value as it is written;
* `Toml.Statement`: a header, or a key with a value;
* `Toml.statements?`: the statements of a text.
-/

import Accord.Double.Reader
import Accord.Primitive.Timestamp
import Accord.Toml.Basic

namespace Accord.Toml

/-- A value as it is written. The keys of a table in braces may have several names. -/
inductive Raw where
  | text (t : Text)
  | integer (n : Int)
  | decimal (spelling : Text)
  | flag (b : Bool)
  | time (spelling : Text)
  | list (items : List Raw)
  | table (entries : List (Key × Nat × Raw))
  deriving Repr, Inhabited

/-- A header, or a key with a value, with the line it stands on. -/
inductive Statement where
  | header (key : Key) (line : Nat)
  /-- A header that starts the next of a list of tables. -/
  | listHeader (key : Key) (line : Nat)
  | assign (key : Key) (value : Raw) (line : Nat)
  deriving Repr

/-- A place in a document: what is left, and the line. -/
structure Cursor where
  rest : List Char
  line : Nat := 1
  deriving Repr

/-! ### Blanks and comments -/

/-- A character that stands nowhere but in escapes. -/
def isControl (c : Char) : Bool :=
  (c.toNat < 0x20 && c != '\t' && c != '\n' && c != '\r') || c.toNat = 0x7F

/-- Passes over the blanks of a line. -/
def blanks (cs : List Char) : List Char := cs.dropWhile fun c => c = ' ' || c = '\t'

/-- Passes over a comment, if one starts here. -/
def comment? (cs : List Char) : Option (List Char) :=
  match cs with
  | '#' :: rest =>
    if (rest.takeWhile (· != '\n')).any isControl then none
    else some (rest.dropWhile (· != '\n'))
  | _ => some cs

/-- Passes over what may follow a statement, up to the next line. -/
def lineEnd? (c : Cursor) : Option Cursor := do
  match ← comment? (blanks c.rest) with
  | [] => some ⟨[], c.line⟩
  | '\n' :: rest => some ⟨rest, c.line + 1⟩
  | _ => none

/-- Passes over blanks, comments and line ends. The fuel bounds the number of lines. -/
def gap? : (fuel : Nat) → Cursor → Option Cursor
  | 0, c => some c
  | fuel + 1, c => do
    match ← comment? (blanks c.rest) with
    | '\n' :: rest => gap? fuel ⟨rest, c.line + 1⟩
    | rest => some ⟨rest, c.line⟩

/-- Passes over all blanks, comments and line ends. -/
def gap (c : Cursor) : Option Cursor := gap? (c.rest.length + 1) c

/-! ### Texts -/

/-- The character of a short escape. -/
def shortEscape? (c : Char) : Option Char :=
  (([('b', 8), ('t', 9), ('n', 10), ('f', 12), ('r', 13), ('e', 27), ('"', 34), ('\\', 92)] :
    List (Char × Nat)).lookup c).map Char.ofNat

/-- The number of digits of an escape by number. -/
def escapeWidth? (c : Char) : Option Nat :=
  ([('x', 2), ('u', 4), ('U', 8)] : List (Char × Nat)).lookup c

/-- The character with a number in hexadecimal. -/
def numbered? (digits : List Char) (width : Nat) : Option Char := do
  let values ← digits.mapM fun d => if d.toNat < 0x80 then Text.hexValue? d.toUInt8 else none
  let code := values.foldl (fun n v => 16 * n + v) 0
  if values.length = width && code < 0x110000 && !(0xD800 ≤ code && code < 0xE000)
  then some (Char.ofNat code) else none

/-- The number of quotes that a text begins with. -/
def quotes (quote : Char) (cs : List Char) : Nat := (cs.takeWhile (· = quote)).length

/-- The inside of a text in quotes, and what follows it. A long text stands between three
quotes, may go on over several lines and may hold one or two quotes before the closing ones.
The fuel bounds its length. -/
def body (quote : Char) (long : Bool) : (fuel : Nat) → Cursor → Option (List Char × Cursor)
  | 0, _ => none
  | fuel + 1, c =>
    let more (ch : List Char) (c : Cursor) : Option (List Char × Cursor) :=
      (body quote long fuel c).map fun (cs, after) => (ch ++ cs, after)
    match c.rest with
    | [] => none
    | ch :: rest =>
      if ch = quote then
        if !long then some ([], ⟨rest, c.line⟩)
        else
          let n := quotes quote c.rest
          if n < 3 then more (List.replicate n quote) ⟨c.rest.drop n, c.line⟩
          else if n ≤ 5 then some (List.replicate (n - 3) quote, ⟨c.rest.drop n, c.line⟩)
          else none
      else if ch = '\n' then if long then more [ch] ⟨rest, c.line + 1⟩ else none
      else if isControl ch || ch = '\r' then none
      else if ch = '\\' && quote = '"' then
        match rest with
        | [] => none
        | e :: rest' =>
          match shortEscape? e, escapeWidth? e with
          | some s, _ => more [s] ⟨rest', c.line⟩
          | none, some width => do
            let s ← numbered? (rest'.take width) width
            more [s] ⟨rest'.drop width, c.line⟩
          | none, none =>
            let isSpace (s : Char) : Bool := s = ' ' || s = '\t' || s = '\n'
            let run := rest.takeWhile isSpace
            if long && (blanks rest).head? = some '\n' then
              more [] ⟨rest.drop run.length, c.line + run.count '\n'⟩
            else none
      else more [ch] ⟨rest, c.line⟩

/-- A text in quotes, from the first quote on. -/
def quoted (c : Cursor) : Option (Text × Cursor) :=
  match c.rest with
  | quote :: rest =>
    let fuel := c.rest.length + 1
    let result :=
      if 3 ≤ quotes quote c.rest then
        match c.rest.drop 3 with
        | '\n' :: rest => body quote true fuel ⟨rest, c.line + 1⟩
        | rest => body quote true fuel ⟨rest, c.line⟩
      else body quote false fuel ⟨rest, c.line⟩
    result.map fun (cs, after) => (Text.ofChars cs, after)
  | [] => none

/-! ### Keys -/

/-- A name: bare, or a short text in quotes. -/
def name (c : Cursor) : Option (Text × Cursor) :=
  match c.rest with
  | [] => none
  | ch :: rest =>
    if ch = '"' || ch = '\'' then
      (body ch false (c.rest.length + 1) ⟨rest, c.line⟩).map fun (cs, after) =>
        (Text.ofChars cs, after)
    else
      let bare := c.rest.takeWhile Key.isBareChar
      if bare.isEmpty then none
      else some (Text.ofChars bare, ⟨c.rest.drop bare.length, c.line⟩)

/-- Names with dots between them, and the blanks after them. The fuel bounds their number. -/
def key : (fuel : Nat) → Cursor → Option (Key × Cursor)
  | 0, _ => none
  | fuel + 1, c => do
    let (first, after) ← name ⟨blanks c.rest, c.line⟩
    match blanks after.rest with
    | '.' :: rest =>
      let (more, after) ← key fuel ⟨rest, after.line⟩
      return (first :: more, after)
    | rest => return ([first], ⟨rest, after.line⟩)

/-! ### Numbers, truth values and times -/

/-- A number of two digits in a range. -/
def twoDigits (most : Nat) (t : Text) : Bool :=
  t.length = 2 && match Text.toNat? t with | some n => n ≤ most | none => false

/-- A date. -/
def isDate (t : Text) : Bool :=
  match Text.split (Text.byte '-') t with
  | [year, month, day] =>
    year.length = 4 && twoDigits 12 month && day.length = 2 &&
      match Text.toNat? year, Text.toNat? month, Text.toNat? day with
      | some y, some m, some d => 1 ≤ m && 1 ≤ d && d ≤ Calendar.monthLength y m
      | _, _, _ => false
  | _ => false

/-- A time of day; the seconds may be left out. -/
def isClock (t : Text) : Bool :=
  match Text.split (Text.byte ':') t with
  | [h, m] => twoDigits 23 h && twoDigits 59 m
  | [h, m, s] =>
    twoDigits 23 h && twoDigits 59 m && match Text.cut? (Text.byte '.') s with
      | none => twoDigits 59 s
      | some (s, fraction) => twoDigits 59 s && (Text.toNat? fraction).isSome
  | _ => false

/-- A time of day with a time zone, or without one. -/
def isZonedClock (t : Text) : Bool :=
  let zone (sign : Char) : Bool := match Text.cutLast? (Text.byte sign) t with
    | some (clock, z) => isClock clock && match Text.split (Text.byte ':') z with
      | [h, m] => twoDigits 24 h && twoDigits 59 m
      | _ => false
    | none => false
  isClock t || ((Text.dropEnd? "Z" t).any isClock) || ((Text.dropEnd? "z" t).any isClock) ||
    zone '+' || zone '-'

/-- A date, a time or both. -/
def isTime (t : Text) : Bool :=
  isDate t || isClock t ||
    (isDate (t.take 10) && match t.drop 10 with
      | sep :: clock => [Text.byte 'T', Text.byte 't', Text.byte ' '].contains sep &&
          isZonedClock clock
      | [] => false)

/-- Whether underscores stand between digits only. -/
def underscoresFit : (accept : Bool) → Text → Bool
  | accept, [] => accept
  | accept, b :: rest =>
    (b != Text.byte '_' || accept) && underscoresFit (Text.hexValue? b).isSome rest

/-- Digits in a base after a mark. -/
def based? (mark : Text) (base : Nat) (t : Text) : Option Nat := do
  let digits ← Text.dropStart? mark t
  let values ← digits.mapM Text.hexValue?
  if values.isEmpty || !values.all (· < base) then none
  else some (values.foldl (fun n v => base * n + v) 0)

/-- Whether a number starts with a zero that is not all of it. -/
def hasLeadingZero (digits : Text) : Bool :=
  1 < digits.length && digits.head? = some (Text.byte '0')

/-- A number with a fraction or an exponent, without its sign. -/
def isDecimal (t : Text) : Bool :=
  let digits (t : Text) : Bool := (Text.toNat? t).isSome
  let (mantissa, power?) := match Text.cut? (Text.byte 'e') (Text.lowerAscii t) with
    | some (m, e) => (m, some e)
    | none => (t, none)
  let powerFits := power?.all fun e =>
    digits (((Text.dropStart? "+" e).orElse fun _ => Text.dropStart? "-" e).getD e)
  powerFits && match Text.cut? (Text.byte '.') mantissa with
    | some (whole, fraction) => digits whole && digits fraction && !hasLeadingZero whole
    | none => digits mantissa && !hasLeadingZero mantissa && power?.isSome

/-- A value without quotes or brackets. -/
def literal? (t : Text) : Option Raw :=
  if t = "true" then some (.flag true)
  else if t = "false" then some (.flag false)
  else if isTime t then some (.time t)
  else
    let (sign, magnitude) := match t with
      | b :: rest => if b = Text.byte '-' then (some true, rest)
          else if b = Text.byte '+' then (some false, rest) else (none, t)
      | [] => (none, t)
    if magnitude = "inf" || magnitude = "nan" then some (.decimal t)
    else if !underscoresFit false magnitude then none
    else
      let spelled := magnitude.filter (· != Text.byte '_')
      let marked := (based? "0x" 16 spelled).orElse fun _ =>
        (based? "0o" 8 spelled).orElse fun _ => based? "0b" 2 spelled
      let limit : Nat := if sign = some true then 1 <<< 63 else (1 <<< 63) - 1
      match marked, Text.toNat? spelled with
      | some n, _ => if sign.isNone && n ≤ limit then some (.integer n) else none
      | none, some n =>
        if hasLeadingZero spelled || limit < n then none
        else some (.integer (if sign = some true then -n else n))
      | none, none =>
        if isDecimal spelled && (Double.read spelled).toOption.isSome then some (.decimal t)
        else none

/-- A character of such a value. -/
def isLiteralChar (c : Char) : Bool := c.isAlphanum || ['_', '+', '-', '.', ':'].contains c

/-- A value without quotes or brackets, and what follows it. A date and a time may have a blank
between them. -/
def literal (c : Cursor) : Option (Raw × Cursor) :=
  let run := c.rest.takeWhile isLiteralChar
  let run := match c.rest.drop run.length with
    | ' ' :: d :: rest =>
      if isDate (Text.ofChars run) && d.isDigit
      then run ++ [' '] ++ (d :: rest).takeWhile isLiteralChar else run
    | _ => run
  (literal? (Text.ofChars run)).map fun v => (v, ⟨c.rest.drop run.length, c.line⟩)

/-! ### Values -/

mutual

/-- A value, and what follows it. -/
def value : (fuel : Nat) → Cursor → Option (Raw × Cursor)
  | 0, _ => none
  | fuel + 1, c =>
    match c.rest with
    | [] => none
    | ch :: rest =>
      if ch = '"' || ch = '\'' then (quoted c).map fun (t, after) => (.text t, after)
      else if ch = '[' then items fuel [] ⟨rest, c.line⟩
      else if ch = '{' then entries fuel [] ⟨rest, c.line⟩
      else literal c

/-- The rest of a list in brackets. -/
def items : (fuel : Nat) → (done : List Raw) → Cursor → Option (Raw × Cursor)
  | 0, _, _ => none
  | fuel + 1, done, c => do
    let c ← gap c
    if c.rest.head? = some ']' then return (.list done, ⟨c.rest.drop 1, c.line⟩)
    let (item, after) ← value fuel c
    let after ← gap after
    match after.rest with
    | ',' :: rest => items fuel (done ++ [item]) ⟨rest, after.line⟩
    | ']' :: rest => some (.list (done ++ [item]), ⟨rest, after.line⟩)
    | _ => none

/-- The rest of a table in braces. -/
def entries : (fuel : Nat) → (done : List (Key × Nat × Raw)) → Cursor → Option (Raw × Cursor)
  | 0, _, _ => none
  | fuel + 1, done, c => do
    let c ← gap c
    if c.rest.head? = some '}' then return (.table done, ⟨c.rest.drop 1, c.line⟩)
    let (k, after) ← key (c.rest.length + 1) c
    match after.rest with
    | '=' :: rest =>
      let (v, after) ← value fuel ⟨blanks rest, after.line⟩
      let done := done ++ [(k, c.line, v)]
      let after ← gap after
      match after.rest with
      | ',' :: rest => entries fuel done ⟨rest, after.line⟩
      | '}' :: rest => some (.table done, ⟨rest, after.line⟩)
      | _ => none
    | _ => none

end

/-! ### Statements -/

/-- A statement, and the lines after it. -/
def statement (c : Cursor) : Option (Statement × Cursor) := do
  let fuel := 2 * c.rest.length + 2
  match c.rest with
  | '[' :: '[' :: rest =>
    let (k, after) ← key fuel ⟨rest, c.line⟩
    match after.rest with
    | ']' :: ']' :: rest => return (.listHeader k c.line, ← lineEnd? ⟨rest, after.line⟩)
    | _ => none
  | '[' :: rest =>
    let (k, after) ← key fuel ⟨rest, c.line⟩
    match after.rest with
    | ']' :: rest => return (.header k c.line, ← lineEnd? ⟨rest, after.line⟩)
    | _ => none
  | _ =>
    let (k, after) ← key fuel c
    match after.rest with
    | '=' :: rest =>
      let (v, after) ← value fuel ⟨blanks rest, after.line⟩
      return (.assign k v c.line, ← lineEnd? after)
    | _ => none

/-- The statements of the rest of a text. The fuel bounds their number. -/
def statementsFrom : (fuel : Nat) → Cursor → Option (List Statement)
  | 0, _ => none
  | fuel + 1, c => do
    let c ← gap c
    if c.rest.isEmpty then return []
    let (s, after) ← statement c
    return s :: (← statementsFrom fuel after)

/-- Spells all line ends alike. -/
def plainLines : List Char → List Char
  | [] => []
  | '\r' :: '\n' :: rest => '\n' :: plainLines rest
  | c :: rest => c :: plainLines rest

/-- The statements of a text. -/
def statements? (t : Text) : Option (List Statement) :=
  let chars := t.chars
  let chars := if chars.head? = some (Char.ofNat 0xFEFF) then chars.drop 1 else chars
  if !t.isUtf8 then none else statementsFrom (chars.length + 1) ⟨plainLines chars, 1⟩

end Accord.Toml
