/-
# Safe integers

An integer that a double represents exactly together with all smaller ones: its
size is below 2^53. Plain text is a decimal integer; JSON may also spell it with a
point or an exponent as long as the value is whole.

## Main definitions

* `SafeLong`: an integer, valid if it lies in the safe range;
* `SafeLong.ofText`, `SafeLong.ofJson`: reading the two spellings;
* `SafeLong.text?`: writing, which refuses an invalid value.
-/

import Accord.Double.Reader
import Accord.Text.Category

namespace Accord

/-- An integer meant to lie in the safe range. -/
structure SafeLong where
  value : Int
  deriving DecidableEq, Repr, Inhabited

namespace SafeLong

/-- The greatest safe integer, the last one below the fifty-third power of two. -/
def most : Int := 9007199254740991

/-- Whether a value lies in the safe range. -/
def valid (s : SafeLong) : Bool := -most ≤ s.value && s.value ≤ most

/-- Why a text spells no safe integer. -/
inductive Error where
  /-- The spelled number lies outside the safe range, or is not whole. -/
  | outOfRange (spelled : Text)
  /-- The text spells no integer. -/
  | notInteger (input : Text) (cause : NumberError)
  /-- The JSON text spells no number. -/
  | notNumber (input : Text) (cause : NumberError)
  deriving DecidableEq, Repr

/-- The message of a value outside the safe range. -/
def rangeMessage (spelled : Text) : Text :=
  "safelong " ++ spelled ++ " is outside [" ++ Text.ofInt (-most) ++ ", " ++ Text.ofInt most ++ "]"

/-- The message of an error. -/
def Error.message : Error → Text
  | outOfRange spelled => rangeMessage spelled
  | notInteger input cause =>
    "invalid safelong " ++ input.quote ++ ": " ++ cause.message "ParseInt" input
  | notNumber input cause =>
    "invalid safelong " ++ input ++ ": " ++ cause.message "ParseFloat" input

/-- The safe integer with a value. -/
def ofInt (n : Int) : Except Error SafeLong :=
  if (SafeLong.mk n).valid then .ok ⟨n⟩ else .error (.outOfRange (Text.ofInt n))

/-- The decimal form, also of an invalid value. -/
def text (s : SafeLong) : Text := Text.ofInt s.value

/-- The decimal form of a valid value; plain text and JSON agree. -/
def text? (s : SafeLong) : Except Error Text :=
  if s.valid then .ok s.text else .error (.outOfRange s.text)

/-- Reads the plain text form. -/
def ofText (t : Text) : Except Error SafeLong :=
  match Integer.read 64 t with
  | .ok n => ofInt n
  | .error .outOfRange => .error (.outOfRange t)
  | .error cause => .error (.notInteger t cause)

/-- Whether a JSON text spells a number with a point or an exponent. -/
def hasFraction (t : Text) : Bool :=
  t.any fun b => b = Text.byte '.' || b = Text.byte 'e' || b = Text.byte 'E'

/-- Reads the JSON form. -/
def ofJson (json : Text) : Except Error SafeLong :=
  let t := json.trim
  if hasFraction t then
    match Double.read t with
    | .error cause => .error (.notNumber t cause)
    | .ok d =>
      match d.toInt? with
      | some n => if (SafeLong.mk n).valid then .ok ⟨n⟩ else .error (.outOfRange t)
      | none => .error (.outOfRange t)
  else ofText t

end SafeLong

end Accord
