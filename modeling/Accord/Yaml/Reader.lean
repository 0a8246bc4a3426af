/-
# Reading YAML

Maps and lists are written in lines, where the column says what belongs to what, or in
brackets. Scalars stand bare or in quotes and may go on over several lines. Anchors, tags,
explicit keys and block scalars are not read.

The reader keeps the column and the line of its place, and whether a key may start there:
at the start of a line and after the dash of a list item.

## Main definitions

* `Yaml.Cursor`: a place in a document;
* `Yaml.Cursor.skip`: passes over what separates tokens;
* `Yaml.node`: a value with all lines that belong to it;
* `Yaml.read`: the first document of a text.
-/

import Accord.Text.Utf8
import Accord.Yaml.Basic

namespace Accord.Yaml

/-- A place in a document. -/
structure Cursor where
  rest : List Char
  column : Nat := 0
  line : Nat := 0
  /-- Whether a key may start here. -/
  fresh : Bool := true
  deriving Repr

/-- Why a text is no document. -/
inductive Error where
  /-- There is nothing but blanks and comments. -/
  | noDocument
  | malformed
  deriving DecidableEq, Repr

/-- A blank or the end of a line. -/
def isBlank (c : Char) : Bool := c = ' ' || c = '\t' || c = '\n'

/-- Whether a token ends here. -/
def startsBlank : List Char → Bool
  | [] => true
  | c :: _ => isBlank c

namespace Cursor

/-- The place after a number of characters of the line. -/
def advance (c : Cursor) (n : Nat) : Cursor :=
  { c with rest := c.rest.drop n, column := c.column + n, fresh := false }

/-- Passes over blanks, comments and line ends. A tab is no blank where a key may start, except
inside brackets. -/
def skipFrom (inBrackets : Bool) :
    (inComment : Bool) → (column line : Nat) → (fresh : Bool) → List Char → Cursor
  | _, column, line, fresh, [] => ⟨[], column, line, fresh⟩
  | inComment, column, line, fresh, c :: rest =>
    if c = '\n' then skipFrom inBrackets false 0 (line + 1) (fresh || !inBrackets) rest
    else if inComment then skipFrom inBrackets true (column + 1) line fresh rest
    else if c = '#' then skipFrom inBrackets true (column + 1) line fresh rest
    else if c = ' ' || (c = '\t' && (inBrackets || !fresh)) then
      skipFrom inBrackets false (column + 1) line fresh rest
    else ⟨c :: rest, column, line, fresh⟩

/-- The next token. -/
def skip (c : Cursor) (inBrackets : Bool := false) : Cursor :=
  skipFrom inBrackets false c.column c.line c.fresh c.rest

/-- Passes over the blanks of a line. -/
def skipBlanks (c : Cursor) : Cursor :=
  c.advance (c.rest.takeWhile fun ch => ch = ' ' || ch = '\t').length

/-- Whether the line starts with three given characters that stand alone. -/
def isMark (c : Cursor) (mark : List Char) : Bool :=
  c.column = 0 && c.rest.take 3 == mark && startsBlank (c.rest.drop 3)

/-- Whether the document ends here. -/
def atEnd (c : Cursor) : Bool :=
  c.rest.isEmpty || c.isMark ['-', '-', '-'] || c.isMark ['.', '.', '.']

/-- Whether a list item starts here. -/
def isDash (c : Cursor) : Bool :=
  match c.rest with
  | '-' :: rest => startsBlank rest
  | _ => false

/-- The place after a colon that makes what precedes it a key. -/
def afterColon? (c : Cursor) : Option Cursor :=
  match c.skipBlanks.rest with
  | ':' :: rest => if startsBlank rest then some (c.skipBlanks.advance 1) else none
  | _ => none

end Cursor

/-! ### Bare scalars -/

/-- Whether a bare scalar ends before a character. -/
def endsBare (inBrackets : Bool) (c : Char) (rest : List Char) : Bool :=
  (c = ':' && startsBlank rest) || (inBrackets && [',', '?', '[', ']', '{', '}'].contains c)

/-- The characters that mean something at the start of a token. -/
def indicators : List Char :=
  [',', '[', ']', '{', '}', '#', '&', '*', '!', '|', '>', '\'', '"', '%', '@', Char.ofNat 0x60]

/-- Whether a bare scalar may start with a character. -/
def startsBare (inBrackets : Bool) (c : Char) (rest : List Char) : Bool :=
  if c = '-' then match rest with | [] => true | r :: _ => r != ' ' && r != '\t'
  else if c = '?' || c = ':' then !inBrackets && !startsBlank rest
  else !isBlank c && !(indicators.contains c)

/-- A word of a bare scalar, and what follows it. -/
def word (inBrackets : Bool) : List Char → List Char × List Char
  | [] => ([], [])
  | c :: rest =>
    if isBlank c || endsBare inBrackets c rest then ([], c :: rest)
    else
      let (more, after) := word inBrackets rest
      (c :: more, after)

/-- What stands between two words: one line end is a blank, and more of them are one line end
less. -/
def joint (blanks : List Char) : List Char :=
  match blanks.count '\n' with
  | 0 => blanks
  | 1 => [' ']
  | n + 2 => List.replicate (n + 1) '\n'

/-- Whether a tab stands where a line has to be indented with blanks. -/
def hasEarlyTab (least : Nat) : (column : Option Nat) → List Char → Bool
  | _, [] => false
  | column, c :: rest =>
    if c = '\n' then hasEarlyTab least (some 0) rest
    else match column with
      | none => hasEarlyTab least none rest
      | some k => (c = '\t' && k < least) || hasEarlyTab least (some (k + 1)) rest

/-- The place after a run of characters that may hold line ends. -/
def Cursor.past (c : Cursor) (run : List Char) : Cursor :=
  let lines := run.count '\n'
  { rest := c.rest.drop run.length
    column := if lines = 0 then c.column + run.length
      else (run.reverse.takeWhile (· != '\n')).length
    line := c.line + lines
    fresh := false }

/-- A bare scalar. It goes on in lines that are indented by `least` columns. The fuel bounds
the number of its words. -/
def bare (inBrackets : Bool) (least : Nat) : (fuel : Nat) → Cursor → Option (List Char × Cursor)
  | 0, _ => none
  | fuel + 1, c => do
    let (first, _) := word inBrackets c.rest
    let here := c.advance first.length
    let blanks := here.rest.takeWhile isBlank
    if hasEarlyTab least none blanks then none
    let next := here.past blanks
    let goesOn := match next.rest with
      | [] => false
      | ch :: rest => !blanks.isEmpty && ch != '#' && !endsBare inBrackets ch rest &&
          (next.line = c.line || ((inBrackets || least ≤ next.column) && !next.atEnd))
    if goesOn then
      let (more, after) ← bare inBrackets least fuel next
      return (first ++ joint blanks ++ more, after)
    else return (first, here)

/-! ### Quoted scalars -/

/-- The inside of a scalar in single quotes, up to the closing one. -/
def singleBody : List Char → Option (List Char × List Char)
  | [] => none
  | '\'' :: '\'' :: rest => (singleBody rest).map fun (b, r) => ('\'' :: '\'' :: b, r)
  | '\'' :: rest => some ([], rest)
  | c :: rest => (singleBody rest).map fun (b, r) => (c :: b, r)

/-- The inside of a scalar in double quotes, up to the closing one. -/
def doubleBody : List Char → Option (List Char × List Char)
  | [] => none
  | '\\' :: c :: rest => (doubleBody rest).map fun (b, r) => ('\\' :: c :: b, r)
  | '"' :: rest => some ([], rest)
  | c :: rest => (doubleBody rest).map fun (b, r) => (c :: b, r)

/-- The character of a short escape. -/
def shortEscape? (c : Char) : Option Char :=
  (([('0', 0), ('a', 7), ('b', 8), ('t', 9), ('\t', 9), ('n', 10), ('v', 11), ('f', 12),
    ('r', 13), ('e', 27), (' ', 32), ('"', 34), ('/', 47), ('\\', 92), ('N', 0x85),
    ('_', 0xA0), ('L', 0x2028), ('P', 0x2029)] : List (Char × Nat)).lookup c).map Char.ofNat

/-- The number of digits of an escape by number. -/
def escapeWidth? (c : Char) : Option Nat :=
  ([('x', 2), ('u', 4), ('U', 8)] : List (Char × Nat)).lookup c

/-- The character with a number in hexadecimal. -/
def numbered? (digits : List Char) (width : Nat) : Option Char := do
  let values ← digits.mapM fun d => if d.toNat < 0x80 then Text.hexValue? d.toUInt8 else none
  let code := values.foldl (fun n v => 16 * n + v) 0
  if values.length = width && code < 0x110000 && !(0xD800 ≤ code && code < 0xE000)
  then some (Char.ofNat code) else none

/-- The text that the inside of a quoted scalar denotes. The fuel bounds its length. -/
def unquote (double : Bool) : (fuel : Nat) → List Char → Option (List Char)
  | 0, cs => if cs.isEmpty then some [] else none
  | _, [] => some []
  | fuel + 1, c :: rest =>
    if isBlank c then
      let blanks := (c :: rest).takeWhile isBlank
      (unquote double fuel ((c :: rest).dropWhile isBlank)).map (joint blanks ++ ·)
    else if !double then
      if c = '\'' then (unquote double fuel (rest.drop 1)).map ('\'' :: ·)
      else (unquote double fuel rest).map (c :: ·)
    else if c != '\\' then (unquote double fuel rest).map (c :: ·)
    else match rest with
      | [] => none
      | '\n' :: rest =>
        let blanks := rest.takeWhile isBlank
        (unquote double fuel (rest.dropWhile isBlank)).map
          (List.replicate (blanks.count '\n') '\n' ++ ·)
      | e :: rest =>
        match shortEscape? e, escapeWidth? e with
        | some ch, _ => (unquote double fuel rest).map (ch :: ·)
        | none, some width => do
          let ch ← numbered? (rest.take width) width
          (unquote double fuel (rest.drop width)).map (ch :: ·)
        | none, none => none

/-- Whether a line of a quoted scalar looks like the end of the document. -/
def hasMark : List Char → Bool
  | [] => false
  | c :: rest => (c = '\n' && (⟨rest, 0, 0, true⟩ : Cursor).atEnd && !rest.isEmpty) || hasMark rest

/-- A quoted scalar, from its opening quote on. -/
def quoted (c : Cursor) : Option (Yaml × Cursor) := do
  let (double, body) ← match c.rest with
    | '"' :: rest => (doubleBody rest).map fun (b, _) => (true, b)
    | '\'' :: rest => (singleBody rest).map fun (b, _) => (false, b)
    | _ => none
  if hasMark body then none
  let text ← unquote double body.length body
  return (.scalar false (Text.ofChars text), ((c.advance 1).past body).advance 1)

/-! ### Values -/

mutual

/-- A scalar, or a list or map in brackets. -/
def atom : (fuel : Nat) → (inBrackets : Bool) → (least : Nat) → Cursor → Option (Yaml × Cursor)
  | 0, _, _, _ => none
  | fuel + 1, inBrackets, least, c =>
    match c.rest with
    | [] => none
    | ch :: rest =>
      if ch = '"' || ch = '\'' then quoted c
      else if ch = '[' then listInBrackets fuel least [] (c.advance 1)
      else if ch = '{' then mapInBrackets fuel least [] (c.advance 1)
      else if startsBare inBrackets ch rest then
        (bare inBrackets least (c.rest.length + 1) c).map fun (text, after) =>
          (.scalar true (Text.ofChars text), after)
      else none

/-- A value in brackets after a colon; it may be left out. -/
def valueInBrackets : (fuel : Nat) → (least : Nat) → Cursor → Option (Yaml × Cursor)
  | 0, _, _ => none
  | fuel + 1, least, c =>
    let next := c.skip true
    match next.rest with
    | [] => none
    | ch :: _ =>
      if ch = ',' || ch = ']' || ch = '}' then some (.null, next) else atom fuel true least next

/-- The rest of a list in brackets. An item may be a single entry of a map. -/
def listInBrackets : (fuel : Nat) → (least : Nat) → (done : List Yaml) → Cursor →
    Option (Yaml × Cursor)
  | 0, _, _, _ => none
  | fuel + 1, least, done, c => do
    let next := c.skip true
    if next.rest.head? = some ']' then return (.list done, next.advance 1)
    let (item, after) ← atom fuel true least next
    let after := after.skip true
    let (item, after) ← match after.rest with
      | ':' :: _ => (valueInBrackets fuel least (after.advance 1)).map fun (v, a) =>
          (.map [(item, v)], a.skip true)
      | _ => some (item, after)
    match after.rest with
    | ',' :: _ => listInBrackets fuel least (done ++ [item]) (after.advance 1)
    | ']' :: _ => some (.list (done ++ [item]), after.advance 1)
    | _ => none

/-- The rest of a map in brackets. -/
def mapInBrackets : (fuel : Nat) → (least : Nat) → (done : List (Yaml × Yaml)) → Cursor →
    Option (Yaml × Cursor)
  | 0, _, _, _ => none
  | fuel + 1, least, done, c => do
    let next := c.skip true
    if next.rest.head? = some '}' then return (.map done, next.advance 1)
    let (key, after) ← atom fuel true least next
    let after := after.skip true
    let (value, after) ← match after.rest with
      | ':' :: _ => (valueInBrackets fuel least (after.advance 1)).map fun (v, a) =>
          (v, a.skip true)
      | _ => some (.null, after)
    match after.rest with
    | ',' :: _ => mapInBrackets fuel least (done ++ [(key, value)]) (after.advance 1)
    | '}' :: _ => some (.map (done ++ [(key, value)]), after.advance 1)
    | _ => none

end

mutual

/-- A value with all lines that belong to it, which are indented by `least` columns. -/
def node : (fuel : Nat) → (least : Nat) → Cursor → Option (Yaml × Cursor)
  | 0, _, _ => none
  | fuel + 1, least, c =>
    if c.isDash then
      if c.fresh then listInLines fuel c.column [] c else none
    else do
      let (value, after) ← atom (2 * c.rest.length + 2) false least c
      match after.afterColon? with
      | none => some (value, after)
      | some next =>
        if c.fresh && after.line = c.line then mapInLines fuel c.column [] value next else none

/-- The rest of a list whose dashes stand in a column, from one of them on. -/
def listInLines : (fuel : Nat) → (column : Nat) → (done : List Yaml) → Cursor →
    Option (Yaml × Cursor)
  | 0, _, _, _ => none
  | fuel + 1, column, done, c => do
    let next := { c.advance 1 with fresh := true }.skip
    let (item, after) ←
      if next.atEnd || (c.line < next.line && next.column ≤ column) then some (.null, next)
      else node fuel (column + 1) next
    let next := after.skip
    let done := done ++ [item]
    if next.atEnd then some (.list done, next)
    else if !next.fresh || column < next.column then none
    else if next.column = column && next.isDash then listInLines fuel column done next
    else some (.list done, next)

/-- The rest of a map whose keys stand in a column, from what follows one of them on. A list
that is a value may have its dashes in the column of the keys. -/
def mapInLines : (fuel : Nat) → (column : Nat) → (done : List (Yaml × Yaml)) → (key : Yaml) →
    Cursor → Option (Yaml × Cursor)
  | 0, _, _, _, _ => none
  | fuel + 1, column, done, key, c => do
    let next := c.skip
    let (value, after) ←
      if next.atEnd ||
          (next.fresh && (next.column < column || (next.column = column && !next.isDash)))
      then some (.null, next)
      else node fuel (column + 1) next
    let next := after.skip
    let done := done ++ [(key, value)]
    if next.atEnd then some (.map done, next)
    else if !next.fresh || column < next.column then none
    else if next.column < column then some (.map done, next)
    else if next.isDash then none
    else
      let (key, after) ← atom (2 * next.rest.length + 2) false (column + 1) next
      if after.line ≠ next.line then none
      mapInLines fuel column done key (← after.afterColon?)

end

/-! ### Documents -/

/-- A character that a document may hold. -/
def isAllowed (c : Char) : Bool :=
  let n := c.toNat
  n = 9 || n = 10 || n = 13 || (0x20 ≤ n && n ≤ 0x7E) || n = 0x85 ||
    (0xA0 ≤ n && n ≤ 0xFFFD) || 0x10000 ≤ n

/-- Spells all line ends alike. -/
def plainLines : List Char → List Char
  | [] => []
  | '\r' :: '\n' :: rest => '\n' :: plainLines rest
  | '\r' :: rest => '\n' :: plainLines rest
  | c :: rest => c :: plainLines rest

/-- The first document of a text. -/
def read (t : Text) : Except Error Yaml :=
  let chars := t.chars
  let chars := if chars.head? = some (Char.ofNat 0xFEFF) then chars.drop 1 else chars
  if !t.isUtf8 || !chars.all isAllowed then .error .malformed
  else
    let start := Cursor.skip ⟨plainLines chars, 0, 0, true⟩
    if start.rest.isEmpty then .error .noDocument
    else
      let start := if start.isMark ['-', '-', '-'] then (start.advance 3).skip else start
      if start.atEnd then .ok .null
      else match node (2 * start.rest.length + 2) 0 start with
        | some (value, after) => if after.skip.atEnd then .ok value else .error .malformed
        | none => .error .malformed

end Accord.Yaml
