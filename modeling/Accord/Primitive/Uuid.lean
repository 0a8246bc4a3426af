/-
# Universally unique identifiers

A number of 128 bits, written as 32 hexadecimal digits in five groups. Reading also
takes the digits without dashes, the form with a URN in front, and the groups
between any two characters that stand for braces.

## Main definitions

* `Uuid`: an identifier;
* `Uuid.text`: the canonical lower-case form;
* `Uuid.ofText`: reading any of the four forms.
-/

import Accord.Text.Quoted

namespace Accord

/-- A universally unique identifier. -/
structure Uuid where
  value : BitVec 128
  deriving DecidableEq, Repr, Inhabited

namespace Uuid

/-- The identifier that stands for none. -/
def zero : Uuid := ⟨0⟩

/-- The canonical form: groups of 8, 4, 4, 4 and 12 digits. -/
def text (u : Uuid) : Text :=
  let digits := Text.hex 32 u.value.toNat
  let group (start size : Nat) : Text := (digits.drop start).take size
  Text.join "-" [group 0 8, group 8 4, group 12 4, group 16 4, group 20 12]

/-- Why a text spells no identifier. -/
inductive Error where
  | badLength (input : Text)
  | badFormat (input : Text)
  | badUrn (input : Text)
  deriving DecidableEq, Repr

/-- The message of an error. -/
def Error.message : Error → Text
  | badLength input =>
    "invalid uuid " ++ input.quote ++ ": invalid UUID length: " ++ Text.ofNat input.length
  | badFormat input => "invalid uuid " ++ input.quote ++ ": invalid UUID format"
  | badUrn input =>
    "invalid uuid " ++ input.quote ++ ": invalid urn prefix: " ++ Text.quote (input.take 9)

/-- The number spelled by hexadecimal digits. -/
def hexNumber? : Text → Option Nat :=
  List.foldlM (fun n b => (Text.hexValue? b).map (16 * n + ·)) 0

/-- The identifier spelled by 32 digits. -/
def ofDigits? (t : Text) : Option Uuid := (hexNumber? t).map fun n => ⟨BitVec.ofNat 128 n⟩

/-- The identifier spelled by the grouped form. -/
def ofGroups? (t : Text) : Option Uuid :=
  match Text.split (Text.byte '-') t with
  | [a, b, c, d, e] =>
    if a.length = 8 && b.length = 4 && c.length = 4 && d.length = 4 && e.length = 12
    then ofDigits? (a ++ b ++ c ++ d ++ e) else none
  | _ => none

/-- Reads any of the four forms, told apart by their lengths. -/
def ofText (t : Text) : Except Error Uuid :=
  let orBad (u : Option Uuid) : Except Error Uuid :=
    match u with
    | some u => .ok u
    | none => .error (.badFormat t)
  if t.length = 36 then orBad (ofGroups? t)
  else if t.length = 45 then
    if Text.lowerAscii (t.take 9) = "urn:uuid:" then orBad (ofGroups? (t.drop 9))
    else .error (.badUrn t)
  else if t.length = 38 then orBad (ofGroups? ((t.drop 1).take 36))
  else if t.length = 32 then orBad (ofDigits? t)
  else .error (.badLength t)

end Uuid

end Accord
