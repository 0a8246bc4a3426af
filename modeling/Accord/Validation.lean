/-
# Rules for the fields of a record

A field has a list of rules, which are tried in order; the first that does not hold
is the field's violation. A rule may also say that the others are not tried on an
empty field.

## Main definitions

* `Rule`, `FieldValue`: a rule, and what it is tried on;
* `Rule.holds`: whether a value keeps a rule;
* `Rule.firstBroken?`, `Rule.violations`: the violations of a field and of a record.
-/

import Accord.Fault
import Accord.Text.Utf8

namespace Accord

/-- The value of a field. -/
inductive FieldValue where
  | text (t : Text)
  | number (n : Int)
  deriving DecidableEq, Repr

namespace FieldValue

/-- Whether a field is empty. -/
def isEmpty : FieldValue → Bool
  | text t => t.isEmpty
  | number n => n = 0

/-- What limits are compared with: the characters of a text are counted. -/
def size : FieldValue → Int
  | text t => t.width
  | number n => n

/-- The text of a value. -/
def shown : FieldValue → Text
  | text t => t
  | number n => Text.ofInt n

end FieldValue

/-- A rule for a field. -/
inductive Rule where
  /-- The field is not empty. -/
  | required
  /-- The rules that follow are for a field that is not empty. -/
  | ifPresent
  | atLeast (n : Int)
  | atMost (n : Int)
  | oneOf (words : List Text)
  /-- A text of ASCII letters and digits. -/
  | alphanumeric
  | ofSize (n : Int)
  deriving DecidableEq, Repr

namespace Rule

/-- The name of a rule. -/
def name : Rule → Text
  | required => "required"
  | ifPresent => "omitempty"
  | atLeast _ => "min"
  | atMost _ => "max"
  | oneOf _ => "oneof"
  | alphanumeric => "alphanum"
  | ofSize _ => "len"

/-- The parameter of a rule. -/
def param : Rule → Text
  | atLeast n => Text.ofInt n
  | atMost n => Text.ofInt n
  | oneOf words => Text.join " " words
  | ofSize n => Text.ofInt n
  | _ => []

/-- Whether a value keeps a rule. -/
def holds (v : FieldValue) : Rule → Bool
  | required => !v.isEmpty
  | ifPresent => true
  | atLeast n => n ≤ v.size
  | atMost n => v.size ≤ n
  | oneOf words => words.contains v.shown
  | alphanumeric =>
    match v with
    | .text t => !t.isEmpty && t.all fun b => Text.isLetterByte b || Text.isDigitByte b
    | .number _ => false
  | ofSize n => v.size = n

/-- The first rule that a value does not keep. -/
def firstBroken? (v : FieldValue) : List Rule → Option Rule
  | [] => none
  | r :: rest =>
    if r = ifPresent && v.isEmpty then none
    else if r.holds v then firstBroken? v rest
    else some r

/-- The violations of a record: at most one for each field, in their order. -/
def violations (fields : List (Text × FieldValue × List Rule)) : List Violation :=
  fields.filterMap fun (name, v, rules) =>
    (firstBroken? v rules).map fun r => ⟨name, r.name, r.param⟩

end Rule

end Accord
