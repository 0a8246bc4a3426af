/-
# Patterns

Regular expressions over code points, with anchors. A pattern is asked one question:
does it match a whole text? The answer is computed forward, as the set of places at
which a match that starts at a given place can end.

## Main definitions

* `CharSet`: a class of code points, possibly without regard to case;
* `Pattern`: a regular expression;
* `Pattern.ends`: the ends of the matches that start at a place;
* `Pattern.matchesAll`: whether some match spans the whole text.
-/

import Accord.Text.Category
import Accord.Text.CaseMap

namespace Accord

/-! ### Case folding -/

namespace Fold

/-- The representative of a code point among those that differ in case only. The dotted
capital I and the dotless small i stand alone. -/
def key (code : Nat) : Nat :=
  if code = 0x130 || code = 0x131 then code
  else if Nat.isValidChar code then (Text.toLower (Text.toUpper (Char.ofNat code))).toNat
  else code

/-- The code points that are neither the representative of their class nor its upper-case
form. -/
def extras : List Nat :=
  [0xB5, 0x17F, 0x1C5, 0x1C8, 0x1CB, 0x1F2, 0x345, 0x3C2, 0x3D0, 0x3D1, 0x3D5, 0x3D6, 0x3F0,
   0x3F1, 0x3F4, 0x3F5, 0x1C80, 0x1C81, 0x1C82, 0x1C83, 0x1C84, 0x1C85, 0x1C86, 0x1C87, 0x1C88,
   0x1E9B, 0x1E9E, 0x1FBE, 0x2126, 0x212A, 0x212B]

/-- The code points that differ from a given one in case only, itself included. -/
def orbit (code : Nat) : List Nat :=
  let k := key code
  let upper := if Nat.isValidChar k then (Text.toUpper (Char.ofNat k)).toNat else k
  let near := if key upper = k then [code, k, upper] else [code, k]
  near ++ extras.filter fun e => key e = k

end Fold

/-! ### Classes of code points -/

/-- A set of code points: ranges, or all of some general categories. -/
inductive CharGroup where
  | ranges (rs : List (Nat × Nat))
  | categories (cs : List Category)

namespace CharGroup

/-- Whether a code point belongs to a group. -/
def has (code : Nat) : CharGroup → Bool
  | ranges rs => rs.any fun (lo, hi) => lo ≤ code && code ≤ hi
  | categories cs => cs.contains (Category.ofCode code)

/-- Whether a code point belongs to a group, if asked without regard to case. -/
def hasFolded (fold : Bool) (code : Nat) (g : CharGroup) : Bool :=
  if fold then (Fold.orbit code).any (g.has ·) else g.has code

end CharGroup

/-- A class of code points: the union of groups, each possibly negated, and possibly negated as
a whole. -/
structure CharSet where
  groups : List (Bool × CharGroup)
  fold : Bool
  negated : Bool

namespace CharSet

/-- Whether a code point belongs to a class. -/
def has (s : CharSet) (code : Nat) : Bool :=
  s.negated != s.groups.any fun (negated, g) => negated != g.hasFolded s.fold code

/-- The class of one code point. -/
def single (fold : Bool) (code : Nat) : CharSet := ⟨[(false, .ranges [(code, code)])], fold, false⟩

end CharSet

/-! ### Patterns -/

/-- A place at which a pattern can hold without consuming anything. -/
inductive Anchor where
  | beginText
  | endText
  | beginLine
  | endLine
  | wordBoundary
  | noWordBoundary
  deriving DecidableEq

/-- A regular expression. -/
inductive Pattern where
  | empty
  | chars (s : CharSet)
  | anyChar
  | anyButNewline
  | anchor (a : Anchor)
  | seq (p q : Pattern)
  | alt (p q : Pattern)
  | repeated (least : Nat) (most : Option Nat) (p : Pattern)

namespace Pattern

/-- An ASCII letter, digit or underscore. -/
def isWord (code : Nat) : Bool :=
  (48 ≤ code && code ≤ 57) || (65 ≤ code && code ≤ 90) || code = 95 || (97 ≤ code && code ≤ 122)

/-- Whether an anchor holds at a place of a text. -/
def holds (text : List Nat) (a : Anchor) (i : Nat) : Bool :=
  let before := if i = 0 then none else text[i - 1]?
  let after := text[i]?
  let boundary := before.any isWord != after.any isWord
  match a with
  | .beginText => i = 0
  | .endText => i = text.length
  | .beginLine => i = 0 || before = some 10
  | .endLine => i = text.length || after = some 10
  | .wordBoundary => boundary
  | .noWordBoundary => !boundary

/-- The place after a code point of a kind. -/
def advance (text : List Nat) (p : Nat → Bool) (i : Nat) : List Nat :=
  match text[i]? with
  | some code => if p code then [i + 1] else []
  | none => []

/-- The union of two sets of places. -/
def union (xs ys : List Nat) : List Nat := xs ++ ys.filter (!xs.contains ·)

/-- The places that one step reaches from a set of places. -/
def stepAll (step : Nat → List Nat) (xs : List Nat) : List Nat :=
  xs.foldl (fun reached x => union reached (step x)) []

/-- The places that exactly `n` steps reach. -/
def exactly (step : Nat → List Nat) : Nat → List Nat → List Nat
  | 0, xs => xs
  | n + 1, xs => exactly step n (stepAll step xs)

/-- The places that at most `n` steps reach. -/
def upTo (step : Nat → List Nat) : Nat → List Nat → List Nat
  | 0, xs => xs
  | n + 1, xs => upTo step n (union xs (stepAll step xs))

/-- The places at which a match that starts at place `i` can end. A repetition without an upper
bound needs no more rounds than there are places. -/
def ends (text : List Nat) : Pattern → Nat → List Nat
  | empty, i => [i]
  | chars s, i => advance text s.has i
  | anyChar, i => advance text (fun _ => true) i
  | anyButNewline, i => advance text (· != 10) i
  | anchor a, i => if holds text a i then [i] else []
  | seq p q, i => stepAll (fun j => ends text q j) (ends text p i)
  | alt p q, i => union (ends text p i) (ends text q i)
  | repeated least most p, i =>
    let step := fun j => ends text p j
    let rounds := match most with
      | some m => m - least
      | none => text.length + 1
    upTo step rounds (exactly step least [i])

/-- Whether some match spans the whole text. -/
def matchesAll (p : Pattern) (text : Text) : Bool :=
  let codes := text.chars.map Char.toNat
  (p.ends codes 0).contains codes.length

/-- Whether nested counted repetitions multiply to at most `n` copies. -/
def countsWithin : Pattern → Nat → Bool
  | seq p q, n => countsWithin p n && countsWithin q n
  | alt p q, n => countsWithin p n && countsWithin q n
  | repeated least most p, n =>
    match most with
    | some 0 => true
    | some m => m ≤ n && countsWithin p (n / m)
    | none => least ≤ n && countsWithin p (if least = 0 then n else n / least)
  | _, _ => true

end Pattern

end Accord
