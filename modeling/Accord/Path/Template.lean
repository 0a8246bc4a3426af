/-
# Path templates

A template such as `/things/{id}/{rest:.*}` is a sequence of segments: fixed
texts and parameters, of which some carry a pattern for their values. Filling in
values gives a path, and matching a path gives the values back. A parameter with a
pattern that comes last stands for the whole rest of the path.

## Main definitions

* `Template`: a sequence of segments;
* `Template.parse`: the template that a text spells, or why it spells none;
* `Template.parseWith`: the same for any notion of a pattern;
* `Template.text`: the canonical spelling;
* `Template.expand`, `Template.matchPath?`: from values to a path and back;
* `Template.matchPathWith?`: the way back for any notion of a match.
-/

import Accord.Pattern.Reader
import Accord.Text.Percent
import Accord.Text.Quoted

namespace Accord

/-- A parameter of a template: its name, and the pattern its values have to match. -/
structure Parameter where
  name : Text
  pattern : Option Text
  deriving DecidableEq, Repr

namespace Parameter

/-- The spelling of a parameter. -/
def text (p : Parameter) : Text :=
  match p.pattern with
  | some pattern => "\x7b" ++ p.name ++ ":" ++ pattern ++ "\x7d"
  | none => "\x7b" ++ p.name ++ "\x7d"

end Parameter

/-- A segment of a template. -/
inductive Segment where
  | fixed (t : Text)
  | parameter (p : Parameter)
  deriving DecidableEq, Repr

namespace Segment

/-- The spelling of a segment. -/
def text : Segment → Text
  | fixed t => t
  | parameter p => p.text

/-- The parameter of a segment that is one. -/
def parameter? : Segment → Option Parameter
  | fixed _ => none
  | parameter p => some p

end Segment

/-- A path template. -/
abbrev Template := List Segment

namespace Template

/-! ### Reading -/

/-- What is wrong with a component of a template. -/
inductive Flaw where
  | noLeadingSlash
  | emptySegment
  | unbalancedBraces
  | notWholeSegment
  | nestedBraces
  | emptyName
  | badPattern
  deriving DecidableEq, Repr

/-- The message of a flaw. -/
def Flaw.message : Flaw → Text
  | noLeadingSlash => "template must start with /"
  | emptySegment => "empty segment"
  | unbalancedBraces => "unbalanced braces"
  | notWholeSegment => "parameter must be the whole segment"
  | nestedBraces => "nested braces"
  | emptyName => "empty parameter name"
  | badPattern => "bad regex"

/-- Why a text is no template: a component and its flaw. -/
structure Error where
  component : Text
  flaw : Flaw
  deriving DecidableEq, Repr

/-- The message of an error. -/
def Error.message (e : Error) : Text :=
  "invalid path component " ++ e.component.quote ++ ": " ++ e.flaw.message

/-- The opening brace. -/
def opening : UInt8 := Text.byte '\x7b'

/-- The closing brace. -/
def closing : UInt8 := Text.byte '\x7d'

/-- Whether a byte is a brace. -/
def isBrace (b : UInt8) : Bool := b = opening || b = closing

/-- Whether every brace is closed in order, `depth` being open. -/
def balancedFrom : (depth : Nat) → Text → Bool
  | depth, [] => depth = 0
  | depth, b :: rest =>
    if b = opening then balancedFrom (depth + 1) rest
    else if b = closing then depth != 0 && balancedFrom (depth - 1) rest
    else balancedFrom depth rest

/-- The flaw of the braces inside a pattern, in which braces may be balanced but not nested. -/
def braceFlaw? : (isOpen : Bool) → Text → Option Flaw
  | true, [] => some .unbalancedBraces
  | false, [] => none
  | isOpen, b :: rest =>
    if b = opening then (if isOpen then some .nestedBraces else braceFlaw? true rest)
    else if b = closing then (if isOpen then braceFlaw? false rest else some .unbalancedBraces)
    else braceFlaw? isOpen rest

section Reading

-- What the braces of a template mean does not depend on which texts are patterns.
variable (isPattern : Text → Bool)

/-- The flaw of a pattern. -/
def patternFlaw? (pattern : Text) : Option Flaw :=
  match braceFlaw? false pattern with
  | some flaw => some flaw
  | none => if isPattern pattern then none else some .badPattern

/-- Reads what stands between the braces of a parameter. -/
def parseInner (inner : Text) : Except Flaw Parameter :=
  let (name, pattern) := match Text.cut? (Text.byte ':') inner with
    | some (name, pattern) => (name, some pattern)
    | none => (inner, none)
  if name.any isBrace then .error .nestedBraces
  else if name.isEmpty then .error .emptyName
  else match pattern.bind (patternFlaw? isPattern) with
    | some flaw => .error flaw
    | none => .ok ⟨name, pattern⟩

/-- Reads a segment that is not empty. -/
def parseSegment (part : Text) : Except Error Segment :=
  if !part.any isBrace then .ok (.fixed part)
  else if !balancedFrom 0 part then .error ⟨part, .unbalancedBraces⟩
  else if part.head? != some opening || part.getLast? != some closing then
    .error ⟨part, .notWholeSegment⟩
  else match parseInner isPattern ((part.drop 1).dropLast) with
    | .ok p => .ok (.parameter p)
    | .error flaw => .error ⟨part, flaw⟩

/-- Reads the segments of a template in order. An empty one is an error of the whole template,
unless it is the last and not the first, which a final slash leaves. -/
def parseSegments (template : Text) : (isFirst : Bool) → List Text → Except Error Template
  | _, [] => .ok []
  | isFirst, part :: rest =>
    if part.isEmpty then
      if rest.isEmpty && !isFirst then .ok [] else .error ⟨template, .emptySegment⟩
    else do
      let segment ← parseSegment isPattern part
      let more ← parseSegments template false rest
      return segment :: more

/-- The separator of segments. -/
def slash : UInt8 := Text.byte '/'

/-- The template that a text spells, given which texts are patterns. -/
def parseWith (template : Text) : Except Error Template :=
  match template with
  | [] => .ok []
  | b :: rest =>
    if b != slash then .error ⟨template, .noLeadingSlash⟩
    else if rest.isEmpty then .ok []
    else parseSegments isPattern template true (Text.split slash rest)

end Reading

/-- The template that a text spells. -/
def parse (template : Text) : Except Error Template :=
  parseWith (fun pattern => (Pattern.read? pattern).isSome) template

/-! ### Views -/

/-- The parameters in order. -/
def parameters (t : Template) : List Parameter := t.filterMap Segment.parameter?

/-- The names of the parameters in order. -/
def names (t : Template) : List Text := t.parameters.map (·.name)

/-- The first parameter of a name. -/
def parameter? (t : Template) (name : Text) : Option Parameter :=
  t.parameters.find? (·.name = name)

/-- The canonical spelling. -/
def text : Template → Text
  | [] => "/"
  | segments => segments.flatMap fun s => slash :: s.text

/-! ### Paths -/

/-- The values of parameters. -/
abbrev Values := List (Text × Text)

/-- A value that is missing. -/
inductive ExpandError where
  | missing (name : Text)
  deriving DecidableEq, Repr

/-- The message of a missing value. -/
def ExpandError.message : ExpandError → Text
  | missing name => "missing value for path parameter " ++ name.quote

/-- The escaped value of a parameter: of one that stands for the rest of the path each segment
is escaped on its own. -/
def escapeValue (isRest : Bool) (v : Text) : Text :=
  if isRest then Text.join "/" ((Text.split slash v).map Percent.escapeSegment)
  else Percent.escapeSegment v

/-- The parts of a path for the segments of a template. -/
def expandSegments (values : Values) : Template → Except ExpandError Text
  | [] => .ok []
  | s :: rest => do
    let part ← match s with
      | .fixed t => .ok t
      | .parameter p =>
        match values.lookup p.name with
        | none => .error (.missing p.name)
        | some v => .ok (escapeValue (rest.isEmpty && p.pattern.isSome) v)
    let more ← expandSegments values rest
    return slash :: part ++ more

/-- The path with values filled in. -/
def expand (t : Template) (values : Values) : Except ExpandError Text :=
  if t.isEmpty then .ok "/" else expandSegments values t

/-- Whether the last segment stands for the rest of the path. -/
def endsInRest (t : Template) : Bool :=
  match t.getLast? with
  | some (.parameter p) => p.pattern.isSome
  | _ => false

/-- The value of an escaped part, each segment of it unescaped on its own. -/
def unescapeValue? (part : Text) : Option Text :=
  ((Text.split slash part).mapM Percent.unescape?).map (Text.join "/")

section Matching

-- What the segments of a template stand for does not depend on which values match a pattern.
variable (fullMatch : Text → Text → Bool)

/-- Whether a parameter takes a value: one with a pattern if the whole value matches it, one
without if the value is not empty. -/
def takesWith (p : Parameter) (v : Text) : Bool :=
  match p.pattern with
  | some pattern => fullMatch pattern v
  | none => !v.isEmpty

/-- Matches segments with the parts of a path. A parameter that occurs twice has its last
value. -/
def matchPartsWith? : Values → Template → List Text → Option Values
  | values, [], [] => some values
  | values, .fixed t :: rest, part :: parts =>
    if part = t then matchPartsWith? values rest parts else none
  | values, .parameter p :: rest, part :: parts =>
    match unescapeValue? part with
    | some v =>
      if takesWith fullMatch p v then matchPartsWith? (Text.upsert p.name v values) rest parts
      else none
    | none => none
  | _, _, _ => none

end Matching

/-- The parts of a path, without the slash it may end in. -/
def partsOf? (path : Text) : Option (List Text) :=
  match (Text.dropEnd? "/" path).getD path with
  | [] => some []
  | b :: rest => if b = slash then some (Text.split slash rest) else none

/-- The parts of a path, as many as there are segments: what the last segment stands for is put
together. -/
def fit? (t : Template) (parts : List Text) : Option (List Text) :=
  if parts.length = t.length then some parts
  else if !t.endsInRest then none
  else if t.length < parts.length then
    some (parts.take (t.length - 1) ++ [Text.join "/" (parts.drop (t.length - 1))])
  else if parts.length + 1 = t.length then some (parts ++ [[]])
  else none

/-- The values of the parameters in a path, if it matches, given which values match a pattern as a
whole. -/
def matchPathWith? (fullMatch : Text → Text → Bool) (t : Template) (path : Text) :
    Option Values := do
  let parts ← partsOf? path
  let parts ← t.fit? parts
  matchPartsWith? fullMatch [] t parts

/-- Whether a pattern matches a value as a whole. -/
def fullMatch (pattern v : Text) : Bool := (Pattern.readAnchored? pattern).any (·.matchesAll v)

/-- The values of the parameters in a path, if it matches. -/
def matchPath? (t : Template) (path : Text) : Option Values := t.matchPathWith? fullMatch path

end Template

end Accord
