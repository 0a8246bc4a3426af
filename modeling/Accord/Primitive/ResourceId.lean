/-
# Resource identifiers

`ri.<service>.<instance>.<type>.<locator>`: four parts with an alphabet each, of
which the last may hold dots. An instance may be empty.

## Main definitions

* `ResourceId`: the four parts, valid if each keeps to its alphabet;
* `ResourceId.text`, `ResourceId.ofText`: writing and reading.
-/

import Accord.Text.Quoted

namespace Accord

/-- A resource identifier. -/
structure ResourceId where
  service : Text
  container : Text
  type : Text
  locator : Text
  deriving DecidableEq, Repr, Inhabited

namespace ResourceId

/-- A byte of a name after its first. -/
def isNameByte (b : UInt8) : Bool :=
  Text.isLowerByte b || Text.isDigitByte b || b = Text.byte '-'

/-- A service or type: a lower-case letter, then name bytes. -/
def isName : Text → Bool
  | [] => false
  | b :: rest => Text.isLowerByte b && rest.all isNameByte

/-- An instance: empty, or a lower-case letter or digit, then name bytes. -/
def isInstance : Text → Bool
  | [] => true
  | b :: rest => (Text.isLowerByte b || Text.isDigitByte b) && rest.all isNameByte

/-- A byte of a locator. -/
def isLocatorByte (b : UInt8) : Bool :=
  Text.isLetterByte b || Text.isDigitByte b || b = Text.byte '_' || b = Text.byte '-' ||
    b = Text.byte '.'

/-- A locator: one locator byte or more. -/
def isLocator (t : Text) : Bool := !t.isEmpty && t.all isLocatorByte

/-- A part that does not keep to its alphabet. -/
inductive Flaw where
  | service (part : Text)
  | container (part : Text)
  | type (part : Text)
  | locator (part : Text)
  deriving DecidableEq, Repr

/-- The message of a flaw. -/
def Flaw.message : Flaw → Text
  | service part => "bad service " ++ part.quote
  | container part => "bad instance " ++ part.quote
  | type part => "bad type " ++ part.quote
  | locator part => "bad locator " ++ part.quote

/-- The first flaw of an identifier, if it has one. -/
def flaw? (r : ResourceId) : Option Flaw :=
  if !isName r.service then some (.service r.service)
  else if !isInstance r.container then some (.container r.container)
  else if !isName r.type then some (.type r.type)
  else if !isLocator r.locator then some (.locator r.locator)
  else none

/-- Why a text is no resource identifier, or an identifier cannot be written. -/
inductive Error where
  | shape (input : Text)
  | part (input : Text) (flaw : Flaw)
  | unwritable (flaw : Flaw)
  deriving DecidableEq, Repr

/-- The message of an error. -/
def Error.message : Error → Text
  | shape input =>
    "invalid rid " ++ input.quote ++ ": expected ri.<service>.<instance>.<type>.<locator>"
  | part input flaw => "invalid rid " ++ input.quote ++ ": " ++ flaw.message
  | unwritable flaw => "invalid rid: " ++ flaw.message

/-- The parts joined by dots, also of an invalid identifier. -/
def text (r : ResourceId) : Text :=
  "ri." ++ r.service ++ "." ++ r.container ++ "." ++ r.type ++ "." ++ r.locator

/-- The text of a valid identifier. -/
def text? (r : ResourceId) : Except Error Text :=
  match r.flaw? with
  | none => .ok r.text
  | some flaw => .error (.unwritable flaw)

/-- Reads an identifier: four dots divide it, and the locator keeps any others. -/
def ofText (t : Text) : Except Error ResourceId :=
  match Text.splitAtMost (Text.byte '.') 5 t with
  | [ri, service, container, type, locator] =>
    if ri = "ri" then
      let r : ResourceId := ⟨service, container, type, locator⟩
      match r.flaw? with
      | none => .ok r
      | some flaw => .error (.part t flaw)
    else .error (.shape t)
  | _ => .error (.shape t)

end ResourceId

end Accord
