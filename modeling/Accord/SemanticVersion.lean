/-
# Semantic versions

Three numbers, then what precedes a release after a hyphen, then remarks after a plus.

## Main definitions

* `SemanticVersion`: a version;
* `SemanticVersion.ofText?`: reads a version, all of whose parts have to be there;
* `SemanticVersion.text`: writes a version.
-/

import Accord.Text.Basic

namespace Accord

/-- A semantic version. -/
structure SemanticVersion where
  major : Nat
  minor : Nat
  patch : Nat
  /-- What precedes the release; empty for a release. -/
  prerelease : Text := []
  metadata : Text := []
  deriving DecidableEq, Repr

namespace SemanticVersion

/-- A number without a leading zero that fits sixty-four bits. -/
def number? (t : Text) : Option Nat := do
  let n ← Text.toNat? t
  if (t.length > 1 && t.head? = some (Text.byte '0')) || UInt64.size ≤ n then none else some n

/-- A byte of an identifier. -/
def isIdentifierByte (b : UInt8) : Bool :=
  Text.isLetterByte b || Text.isDigitByte b || b = Text.byte '-'

/-- An identifier of the remarks. -/
def isIdentifier (t : Text) : Bool := !t.isEmpty && t.all isIdentifierByte

/-- An identifier of what precedes a release: a number has no leading zero. -/
def isPrereleaseIdentifier (t : Text) : Bool :=
  isIdentifier t &&
    !(t.all Text.isDigitByte && 1 < t.length && t.head? = some (Text.byte '0'))

/-- Whether all parts between dots are of a kind. -/
def dotted (p : Text → Bool) (t : Text) : Bool := (Text.split (Text.byte '.') t).all p

/-- Reads a version. -/
def ofText? (t : Text) : Option SemanticVersion := do
  let [major, minor, rest] := Text.splitAtMost (Text.byte '.') 3 t | none
  let (rest, metadata?) := match Text.cut? (Text.byte '+') rest with
    | some (l, r) => (l, some r)
    | none => (rest, none)
  let (patch, prerelease?) := match Text.cut? (Text.byte '-') rest with
    | some (l, r) => (l, some r)
    | none => (rest, none)
  if !(metadata?.all (dotted isIdentifier)) then none
  if !(prerelease?.all (dotted isPrereleaseIdentifier)) then none
  return {
    major := ← number? major
    minor := ← number? minor
    patch := ← number? patch
    prerelease := prerelease?.getD []
    metadata := metadata?.getD [] }

/-- Writes a version. -/
def text (v : SemanticVersion) : Text :=
  let pre : Text := if v.prerelease.isEmpty then [] else "-" ++ v.prerelease
  let remarks : Text := if v.metadata.isEmpty then [] else "+" ++ v.metadata
  Text.ofNat v.major ++ "." ++ Text.ofNat v.minor ++ "." ++ Text.ofNat v.patch ++ pre ++ remarks

end SemanticVersion

end Accord
