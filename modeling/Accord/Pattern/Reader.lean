/-
# Reading patterns

The concrete form of patterns: literals, classes, groups, alternatives,
repetitions, anchors, escapes and flags that change the meaning of what follows in
their group. A repetition directly after a repetition, a repetition of nothing, more
than a thousand copies, an unknown escape or an unclosed group make a pattern
malformed.

## Main definitions

* `Pattern.Flags`: what the flags of a pattern say;
* `Pattern.read?`: the pattern that a text spells, if it spells one.
-/

import Accord.Pattern.Basic
import Accord.Text.Script

namespace Accord.Pattern

/-- The flags in force at a place of a pattern. -/
structure Flags where
  /-- Case is disregarded. -/
  fold : Bool := false
  /-- The line anchors hold at the ends of the text only. -/
  oneLine : Bool := true
  /-- The dot also stands for a line end. -/
  dotAll : Bool := false

/-! ### Named classes -/

/-- The digits. -/
def digitRanges : List (Nat × Nat) := [(48, 57)]

/-- The blanks of the short class of white space. -/
def spaceRanges : List (Nat × Nat) := [(9, 10), (12, 13), (32, 32)]

/-- The letters, digits and underscore. -/
def wordRanges : List (Nat × Nat) := [(48, 57), (65, 90), (95, 95), (97, 122)]

/-- The class of a letter after a backslash. -/
def shortClass? (c : Char) : Option (Bool × CharGroup) :=
  match c with
  | 'd' => some (false, .ranges digitRanges)
  | 'D' => some (true, .ranges digitRanges)
  | 's' => some (false, .ranges spaceRanges)
  | 'S' => some (true, .ranges spaceRanges)
  | 'w' => some (false, .ranges wordRanges)
  | 'W' => some (true, .ranges wordRanges)
  | _ => none

/-- The classes with a name between colons. -/
def namedClasses : List (String × List (Nat × Nat)) :=
  [("alnum", [(48, 57), (65, 90), (97, 122)]),
   ("alpha", [(65, 90), (97, 122)]),
   ("ascii", [(0, 127)]),
   ("blank", [(9, 9), (32, 32)]),
   ("cntrl", [(0, 31), (127, 127)]),
   ("digit", [(48, 57)]),
   ("graph", [(33, 126)]),
   ("lower", [(97, 122)]),
   ("print", [(32, 126)]),
   ("punct", [(33, 47), (58, 64), (91, 96), (123, 126)]),
   ("space", [(9, 13), (32, 32)]),
   ("upper", [(65, 90)]),
   ("word", [(48, 57), (65, 90), (95, 95), (97, 122)]),
   ("xdigit", [(48, 57), (65, 70), (97, 102)])]

/-- The class with a name between colons, with a caret in front for its negation. -/
def namedClass? (name : List Char) : Option (Bool × CharGroup) :=
  let (negated, name) := match name with
    | '^' :: rest => (true, rest)
    | _ => (false, name)
  (namedClasses.lookup (String.ofList name)).map fun rs => (negated, .ranges rs)

/-- The general categories with their names, short and long. -/
def categoryNames : List (List String × List Category) :=
  [(["c", "other"], [.cc, .cf, .cs, .co, .cn]),
   (["cc", "control", "cntrl"], [.cc]),
   (["cf", "format"], [.cf]),
   (["cn", "unassigned"], [.cn]),
   (["co", "privateuse"], [.co]),
   (["cs", "surrogate"], [.cs]),
   (["l", "letter"], [.lu, .ll, .lt, .lm, .lo]),
   (["lc", "casedletter"], [.lu, .ll, .lt]),
   (["ll", "lowercaseletter"], [.ll]),
   (["lm", "modifierletter"], [.lm]),
   (["lo", "otherletter"], [.lo]),
   (["lt", "titlecaseletter"], [.lt]),
   (["lu", "uppercaseletter"], [.lu]),
   (["m", "mark", "combiningmark"], [.mn, .mc, .me]),
   (["mc", "spacingmark"], [.mc]),
   (["me", "enclosingmark"], [.me]),
   (["mn", "nonspacingmark"], [.mn]),
   (["n", "number"], [.nd, .nl, .no]),
   (["nd", "decimalnumber", "digit"], [.nd]),
   (["nl", "letternumber"], [.nl]),
   (["no", "othernumber"], [.no]),
   (["p", "punctuation", "punct"], [.pc, .pd, .ps, .pe, .pi, .pf, .po]),
   (["pc", "connectorpunctuation"], [.pc]),
   (["pd", "dashpunctuation"], [.pd]),
   (["pe", "closepunctuation"], [.pe]),
   (["pf", "finalpunctuation"], [.pf]),
   (["pi", "initialpunctuation"], [.pi]),
   (["po", "otherpunctuation"], [.po]),
   (["ps", "openpunctuation"], [.ps]),
   (["s", "symbol"], [.sm, .sc, .sk, .so]),
   (["sc", "currencysymbol"], [.sc]),
   (["sk", "modifiersymbol"], [.sk]),
   (["sm", "mathsymbol"], [.sm]),
   (["so", "othersymbol"], [.so]),
   (["z", "separator"], [.zs, .zl, .zp]),
   (["zl", "lineseparator"], [.zl]),
   (["zp", "paragraphseparator"], [.zp]),
   (["zs", "spaceseparator"], [.zs])]

/-- The group of a property name, a general category or a script, read without regard to
case, blanks, dashes and underscores. -/
def propertyGroup? (name : List Char) : Option (Bool × CharGroup) :=
  let (negated, name) := match name with
    | '^' :: rest => (true, rest)
    | _ => (false, name)
  let plain := String.ofList ((name.filter fun c => !(c = ' ' || c = '-' || c = '_')).map Char.toLower)
  if plain = "any" then some (negated, .ranges [(0, 0x10FFFF)])
  else if plain = "ascii" then some (negated, .ranges [(0, 127)])
  else if plain = "assigned" then some (!negated, .categories [.cn])
  else match categoryNames.find? fun (names, _) => names.contains plain with
    | some (_, cs) => some (negated, .categories cs)
    | none => (Script.ranges? plain).map fun rs => (negated, .ranges rs)

/-! ### Escapes -/

/-- The value of a hexadecimal digit. -/
def hexChar? (c : Char) : Option Nat := if c.toNat < 128 then Text.hexValue? c.toUInt8 else none

/-- Hexadecimal digits up to a closing brace, at least one and none beyond the last code
point. -/
def bracedHex? (sofar : Nat) (any : Bool) : List Char → Option (Nat × List Char)
  | [] => none
  | c :: rest =>
    if c = '\x7d' then (if any then some (sofar, rest) else none)
    else (hexChar? c).bind fun v =>
      let next := sofar * 16 + v
      if next ≤ 0x10FFFF then bracedHex? next true rest else none

/-- An octal digit. -/
def isOctal (c : Char) : Bool := '0' ≤ c && c ≤ '7'

/-- The code point of an octal escape with its first digit, and what follows: up to two more
digits. -/
def octal (first : Char) (rest : List Char) : Nat × List Char :=
  let more := (rest.take 2).takeWhile isOctal
  (more.foldl (fun n c => n * 8 + (c.toNat - 48)) (first.toNat - 48), rest.drop more.length)

/-- The code point of an escape, after its backslash. -/
def escape? : List Char → Option (Nat × List Char)
  | [] => none
  | c :: rest =>
    if c = 'x' then
      match rest with
      | [] => none
      | d :: rest =>
        if d = '\x7b' then bracedHex? 0 false rest
        else match rest with
          | [] => none
          | e :: rest => do
            let x ← hexChar? d
            let y ← hexChar? e
            return (x * 16 + y, rest)
    else if c = '0' then some (octal c rest)
    else if '1' ≤ c && c ≤ '7' then
      match rest with
      | d :: _ => if isOctal d then some (octal c rest) else none
      | [] => none
    else if c = 'a' then some (7, rest)
    else if c = 'f' then some (12, rest)
    else if c = 'n' then some (10, rest)
    else if c = 'r' then some (13, rest)
    else if c = 't' then some (9, rest)
    else if c = 'v' then some (11, rest)
    else if c.toNat < 128 && !c.isAlphanum then some (c.toNat, rest)
    else none

/-- The name of a property after `\p` or `\P`: one character, or what stands in braces. -/
def propertyName? : List Char → Option (List Char × List Char)
  | [] => none
  | c :: rest =>
    if c = '\x7b' then
      let name := rest.takeWhile (· != '\x7d')
      match rest.drop name.length with
      | _ :: after => some (name, after)
      | [] => none
    else some ([c], rest)

/-- What a scan finds at a place: nothing of the kind, something malformed, or a result. -/
inductive Found (α : Type) where
  | absent
  | malformed
  | found (a : α)

/-- A class escape after a backslash: a property or one of the short classes. -/
def classEscape (t : List Char) : Found ((Bool × CharGroup) × List Char) :=
  match t with
  | [] => .absent
  | c :: rest =>
    if c = 'p' || c = 'P' then
      match propertyName? rest with
      | none => .malformed
      | some (name, after) =>
        match propertyGroup? name with
        | none => .malformed
        | some (negated, g) => .found (((c = 'P') != negated, g), after)
    else
      match shortClass? c with
      | some g => .found (g, rest)
      | none => .absent

/-! ### Bracketed classes -/

/-- The code point of a member of a class. -/
def classChar? : List Char → Option (Nat × List Char)
  | [] => none
  | '\\' :: rest => escape? rest
  | c :: rest => some (c.toNat, rest)

/-- The name of a class between colons, if the text goes on with one: what stands before the
next colon and bracket. -/
def colonName? : List Char → Option (List Char × List Char)
  | [] => none
  | ':' :: ']' :: rest => some ([], rest)
  | c :: rest => (colonName? rest).map fun (name, after) => (c :: name, after)

/-- Reads the members of a class up to its closing bracket. A bracket that comes first is a
member. -/
def classMembers : (fuel : Nat) → (first : Bool) → List (Bool × CharGroup) → List Char →
    Option (List (Bool × CharGroup) × List Char)
  | 0, _, _, _ => none
  | fuel + 1, first, groups, t =>
    match t with
    | [] => none
    | c :: rest =>
      if c = ']' && !first then some (groups, rest)
      else
        let named := match rest with
          | ':' :: inner => if c = '[' then colonName? inner else none
          | _ => none
        match named with
        | some (name, after) =>
          (namedClass? name).bind fun g => classMembers fuel false (g :: groups) after
        | none =>
          match (if c = '\\' then classEscape rest else .absent) with
          | .malformed => none
          | .found (g, after) => classMembers fuel false (g :: groups) after
          | .absent =>
            (classChar? t).bind fun (lo, after) =>
              match after with
              | '-' :: d :: more =>
                if d = ']' then
                  classMembers fuel false ((false, .ranges [(lo, lo)]) :: groups) after
                else
                  (classChar? (d :: more)).bind fun (hi, after) =>
                    if hi < lo then none
                    else classMembers fuel false ((false, .ranges [(lo, hi)]) :: groups) after
              | _ => classMembers fuel false ((false, .ranges [(lo, lo)]) :: groups) after

/-- Reads a class after its opening bracket. -/
def bracketed (flags : Flags) (t : List Char) : Option (Pattern × List Char) :=
  let (negated, body) := match t with
    | '^' :: rest => (true, rest)
    | _ => (false, t)
  (classMembers (body.length + 1) true [] body).map fun (groups, rest) =>
    (.chars ⟨groups, flags.fold, negated⟩, rest)

/-! ### Repetitions -/

/-- A decimal number without leading zeros; one too large counts as a million. -/
def count? (t : List Char) : Option (Nat × List Char) :=
  let digits := t.takeWhile Char.isDigit
  match digits with
  | [] => none
  | '0' :: _ :: _ => none
  | _ =>
    let n := if 7 < digits.length then 1000000
      else digits.foldl (fun n c => n * 10 + (c.toNat - 48)) 0
    some (n, t.drop digits.length)

/-- The bounds of a counted repetition after its opening brace. -/
def bounds? (t : List Char) : Option (Nat × Option Nat × List Char) := do
  let (least, rest) ← count? t
  match rest with
  | '\x7d' :: rest => return (least, some least, rest)
  | ',' :: '\x7d' :: rest => return (least, none, rest)
  | ',' :: rest =>
    let (most, rest) ← count? rest
    match rest with
    | '\x7d' :: rest => return (least, some most, rest)
    | _ => none
  | _ => none

/-! ### Groups -/

/-- A group that is being read: the flags to restore after it, the alternatives that are
finished, and the parts of the current one, the last first. -/
structure Group where
  restored : Flags
  alternatives : List Pattern
  parts : List Pattern

/-- The pattern of some parts, the last first. -/
def sequence (parts : List Pattern) : Pattern :=
  match parts.reverse with
  | [] => .empty
  | p :: rest => rest.foldl .seq p

/-- The pattern of a finished group. -/
def Group.pattern (g : Group) : Pattern :=
  g.alternatives.foldl (fun later earlier => .alt earlier later) (sequence g.parts)

/-- The state of reading a pattern. -/
structure Reading where
  flags : Flags
  current : Group
  outer : List Group
  /-- The part just read was a repetition. -/
  repeatedJustNow : Bool

/-- Adds a part to the current group. -/
def Reading.push (r : Reading) (p : Pattern) : Reading :=
  { r with current := { r.current with parts := p :: r.current.parts }, repeatedJustNow := false }

/-- Opens a group. -/
def Reading.openGroup (r : Reading) (flags : Flags) : Reading :=
  ⟨flags, ⟨r.flags, [], []⟩, r.current :: r.outer, false⟩

/-- Closes a group. -/
def Reading.closeGroup? (r : Reading) : Option Reading :=
  match r.outer with
  | [] => none
  | g :: outer =>
    some (Reading.push ⟨r.current.restored, g, outer, false⟩ r.current.pattern)

/-- Repeats the last part. -/
def Reading.repeat? (r : Reading) (least : Nat) (most : Option Nat) : Option Reading :=
  if r.repeatedJustNow then none
  else match r.current.parts with
    | [] => none
    | p :: parts =>
      some { r with
        current := { r.current with parts := .repeated least most p :: parts }
        repeatedJustNow := true }

/-- Drops the mark of a reluctant repetition, which matches the same texts. -/
def dropReluctant : List Char → List Char
  | '?' :: rest => rest
  | t => t

/-- Flags after `(?` up to a colon or parenthesis; with `off` they are switched off. The
result says whether a group is opened. -/
def flags? (flags : Flags) (off any : Bool) : List Char → Option (Flags × Bool × List Char)
  | [] => none
  | c :: rest =>
    match c with
    | 'i' => flags? { flags with fold := !off } off true rest
    | 'm' => flags? { flags with oneLine := off } off true rest
    | 's' => flags? { flags with dotAll := !off } off true rest
    | 'U' => flags? flags off true rest
    | '-' => if off then none else flags? flags true false rest
    | ':' => if off && !any then none else some (flags, true, rest)
    | ')' => if off && !any then none else some (flags, false, rest)
    | _ => none

/-- A name of a group: letters, digits and underscores, at least one. -/
def isGroupName (name : List Char) : Bool :=
  !name.isEmpty && name.all fun c => c.isAlphanum || c = '_'

/-- What follows the name of a group and its closing angle bracket. -/
def afterName? (t : List Char) : Option (List Char) :=
  let name := t.takeWhile (· != '>')
  match t.drop name.length with
  | _ :: rest => if isGroupName name then some rest else none
  | [] => none

/-- Reads what follows `(?`. -/
def special? (r : Reading) (t : List Char) : Option (Reading × List Char) :=
  match t with
  | 'P' :: '<' :: rest => (afterName? rest).map fun rest => (r.openGroup r.flags, rest)
  | '<' :: rest => (afterName? rest).map fun rest => (r.openGroup r.flags, rest)
  | _ =>
    (flags? r.flags false false t).map fun (flags, opens, rest) =>
      if opens then (r.openGroup flags, rest)
      else ({ r with flags, repeatedJustNow := false }, rest)

/-! ### Whole patterns -/

/-- The literal text after `\Q`, up to `\E` or the end. -/
def literalRun : List Char → List Char × List Char
  | [] => ([], [])
  | '\\' :: 'E' :: rest => ([], rest)
  | c :: rest => let (run, after) := literalRun rest; (c :: run, after)

/-- Reads an escape outside a class, after its backslash. -/
def escaped? (r : Reading) (t : List Char) : Option (Reading × List Char) :=
  match t with
  | [] => none
  | c :: rest =>
    if c = 'A' then some (r.push (.anchor .beginText), rest)
    else if c = 'z' then some (r.push (.anchor .endText), rest)
    else if c = 'b' then some (r.push (.anchor .wordBoundary), rest)
    else if c = 'B' then some (r.push (.anchor .noWordBoundary), rest)
    else if c = 'Q' then
      let (run, after) := literalRun rest
      let r := run.foldl (fun r c => r.push (.chars (CharSet.single r.flags.fold c.toNat)))
        { r with repeatedJustNow := false }
      some (r, after)
    else
      match classEscape t with
      | .malformed => none
      | .found (g, after) => some (r.push (.chars ⟨[g], r.flags.fold, false⟩), after)
      | .absent =>
        (escape? t).map fun (code, after) =>
          (r.push (.chars (CharSet.single r.flags.fold code)), after)

/-- Reads one element of a pattern. -/
def element? (r : Reading) (c : Char) (rest : List Char) : Option (Reading × List Char) :=
  match c with
  | '(' =>
    match rest with
    | '?' :: inner => special? r inner
    | _ => some (r.openGroup r.flags, rest)
  | ')' => r.closeGroup?.map (·, rest)
  | '|' =>
    let g := r.current
    some ({ r with
      current := ⟨g.restored, sequence g.parts :: g.alternatives, []⟩
      repeatedJustNow := false }, rest)
  | '^' => some (r.push (.anchor (if r.flags.oneLine then .beginText else .beginLine)), rest)
  | '$' => some (r.push (.anchor (if r.flags.oneLine then .endText else .endLine)), rest)
  | '.' => some (r.push (if r.flags.dotAll then .anyChar else .anyButNewline), rest)
  | '[' => (bracketed r.flags rest).map fun (p, after) => (r.push p, after)
  | '*' => (r.repeat? 0 none).map (·, dropReluctant rest)
  | '+' => (r.repeat? 1 none).map (·, dropReluctant rest)
  | '?' => (r.repeat? 0 (some 1)).map (·, dropReluctant rest)
  | '\\' => escaped? r rest
  | _ =>
    if c = '\x7b' then
      match bounds? rest with
      | none => some (r.push (.chars (CharSet.single r.flags.fold c.toNat)), rest)
      | some (least, most, after) =>
        if 1000 < least || most.any (1000 < ·) || most.any (· < least) then none
        else
          (r.repeat? least most).bind fun r =>
            let big := 2 ≤ least || most.any (2 ≤ ·)
            if big && !(r.current.parts.head?.all (countsWithin · 1000)) then none
            else some (r, dropReluctant after)
    else some (r.push (.chars (CharSet.single r.flags.fold c.toNat)), rest)

/-- Reads the elements of a pattern. -/
def elements? : (fuel : Nat) → Reading → List Char → Option Reading
  | _, r, [] => some r
  | 0, _, _ => none
  | fuel + 1, r, c :: rest => (element? r c rest).bind fun (r, rest) => elements? fuel r rest

/-- The pattern that a text spells, if it spells one. -/
def read? (t : Text) : Option Pattern :=
  if !t.isUtf8 then none
  else
    let cs := t.chars
    (elements? cs.length ⟨{}, ⟨{}, [], []⟩, [], false⟩ cs).bind fun r =>
      if r.outer.isEmpty then some r.current.pattern else none

/-- The pattern of a text that has to match as a whole. -/
def readAnchored? (t : Text) : Option Pattern := read? ("^(?:" ++ t ++ ")$")

end Accord.Pattern
