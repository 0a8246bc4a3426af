/-
# Booleans, binary data and doubles on the wire

The plain text and JSON forms of three primitives. A boolean is one of two words.
Binary data is base64 text, in JSON between quotes and taken as it stands there. A
double is a number, or in JSON a string for the values that no number spells.

## Main definitions

* `Boolean.ofText`, `Boolean.ofJson`;
* `Binary.ofText`, `Binary.ofJson`;
* `Double.ofText`, `Double.ofJson`, `Double.wire`.
-/

import Accord.Json.Writer
import Accord.Text.Base64

namespace Accord

namespace Boolean

/-- The word for a truth value. -/
def text : Bool → Text
  | true => "true"
  | false => "false"

/-- A text that is neither of the two words. -/
inductive Error where
  | notBoolean (input : Text)
  deriving DecidableEq, Repr

/-- The message of an error. -/
def Error.message : Error → Text
  | notBoolean input => "invalid boolean " ++ input.quote

/-- Reads the plain text form. -/
def ofText (t : Text) : Except Error Bool :=
  if t = "true" then .ok true
  else if t = "false" then .ok false
  else .error (.notBoolean t)

/-- Reads the JSON form. -/
def ofJson (json : Text) : Except Error Bool := ofText json.trim

end Boolean

namespace Binary

/-- Why a text spells no binary data. -/
inductive Error where
  /-- The text is not base64; the offset is where it goes wrong. -/
  | notBase64 (offset : Nat)
  /-- The JSON text is no string. -/
  | notString (input : Text)
  deriving DecidableEq, Repr

/-- The message of an error. -/
def Error.message : Error → Text
  | notBase64 offset =>
    "invalid base64 binary: illegal base64 data at input byte " ++ Text.ofNat offset
  | notString input => "invalid binary: expected base64 string, got " ++ input

/-- Reads the plain text form. -/
def ofText (t : Text) : Except Error Text :=
  match Base64.decode t with
  | .ok bytes => .ok bytes
  | .error offset => .error (.notBase64 offset)

/-- Reads the JSON form: what stands between the quotes is taken as it is. -/
def ofJson (json : Text) : Except Error Text :=
  let t := json.trim
  let quote := some (Text.byte '"')
  if t.length < 2 || t.head? != quote || t.getLast? != quote then .error (.notString t)
  else ofText ((t.drop 1).dropLast)

/-- The JSON form. -/
def json (bytes : Text) : Text := "\"" ++ Base64.encode bytes ++ "\""

end Binary

namespace Double

/-- Why a text spells no double. -/
inductive WireError where
  /-- The plain text spells no number. -/
  | notNumber (input : Text) (cause : NumberError)
  /-- The JSON string is none of the words. -/
  | notWord (input : Text)
  /-- The JSON text is no number. -/
  | notJsonNumber (input : Text)
  /-- The JSON string is malformed. -/
  | malformed
  deriving DecidableEq, Repr

/-- The message of an error. -/
def WireError.message : WireError → Text
  | notNumber input cause =>
    "invalid double " ++ input.quote ++ ": " ++ cause.message "ParseFloat" input
  | notWord input => "invalid double " ++ input
  | notJsonNumber input => "invalid double " ++ input ++ ": " ++ Json.Error.mismatch.message
  | malformed => Json.Error.mismatch.message

/-- The words of the values that are not finite. -/
def ofWord? (t : Text) : Option Double :=
  if t = "NaN" then some nan
  else if t = "Infinity" then some (infinity false)
  else if t = "-Infinity" then some (infinity true)
  else none

/-- Reads the plain text form. -/
def ofText (t : Text) : Except WireError Double :=
  match ofWord? t with
  | some d => .ok d
  | none =>
    match read t with
    | .ok d => .ok d
    | .error cause => .error (.notNumber t cause)

/-- Reads the JSON form. A `null` leaves the number at zero. -/
def ofJson (json : Text) : Except WireError Double :=
  let t := json.trim
  if t.head? = some (Text.byte '"') then
    match (Json.read t).bind Json.text? with
    | .error _ => .error .malformed
    | .ok s =>
      match ofWord? s with
      | some d => .ok d
      | none => .error (.notWord t)
  else
    match Json.read t with
    | .ok .null => .ok zero
    | .ok j =>
      match j.double? with
      | .ok d => .ok d
      | .error _ => .error (.notJsonNumber t)
    | .error _ => .error (.notJsonNumber t)

/-- The JSON form: a number, or a string for the values that are not finite. -/
def wire (d : Double) : Text := if d.isFinite then d.json else "\"" ++ d.text ++ "\""

end Double

end Accord
