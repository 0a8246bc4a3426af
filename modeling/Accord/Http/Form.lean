/-
# Forms

The fields of a form are read from a query. Keys are matched without regard to case,
the last value of a key counts, and a field that no key names keeps its initial
value. Reading goes on after a value that cannot be converted, so that a form
complains about all its values at once.

## Main definitions

* `Form`: a reading that collects complaints;
* `Converter`: how the values of a key become the value of a field;
* `Form.field`, `Form.required`: reading a field;
* `Form.run`: the outcome of a reading.
-/

import Accord.Http.Query
import Accord.Text.CaseMap
import Accord.Wire.Plain

namespace Accord

/-- How the values of a key become the value of a field. -/
structure Converter (α : Type) where
  /-- The value of a field without values. -/
  initial : α
  /-- The value of a field after values came, or what is said about them. -/
  convert : α → List Text → Except Text α
  /-- Whether values count as none when one is required. -/
  blank : List Text → Bool := List.isEmpty

namespace Converter

/-- The value that counts. -/
def counted (values : List Text) : Text := values.getLast?.getD []

/-- A scalar: an empty value leaves it as it is, and nothing is said about a value that cannot be
read. -/
def scalar {α : Type} (initial : α) (read : Text → Option α) : Converter α where
  initial := initial
  convert held values :=
    if (counted values).isEmpty then .ok held
    else match read (counted values) with
      | some a => .ok a
      | none => .error []
  blank values := (values.headD []).isEmpty

/-- A string. -/
def text : Converter Text := scalar [] some

/-- A truth value, which may also be the state of a switch. -/
def flag : Converter Bool :=
  scalar false fun t => if t = "on" then some true else Boolean.ofWord? t

/-- An integer of a number of bits. -/
def integer (bits : Nat) : Converter Int := scalar 0 fun t => (Integer.read bits t).toOption

/-- A primitive with a text form of its own. -/
def primitive (type : WireType) : Converter Wire where
  initial := Wire.zero type
  convert _ values := (Wire.ofPlain type (counted values)).mapError Fault.message

/-- A value that may be absent. -/
def optional {α : Type} (c : Converter α) : Converter (Option α) where
  initial := none
  convert held values := (c.convert (held.getD c.initial) values).map some

/-- All values of the key but the empty ones. -/
def texts : Converter (List Text) where
  initial := []
  convert _ values := .ok (values.filter fun v => !v.isEmpty)

end Converter

/-- A reading that collects what is wrong, by key. -/
abbrev Form := StateM (List (Text × Text))

namespace Form

/-- Says something about a key of which nothing was said yet. -/
def complain (key text : Text) : Form Unit :=
  modify fun cs => if (cs.lookup key).isSome then cs else cs ++ [(key, text)]

/-- What is said about a value that cannot be converted. -/
def conversionText (key details : Text) : Text :=
  let text : Text := "schema: error converting value for " ++ key.quote
  if details.isEmpty then text else text ++ ". Details: " ++ details

/-- Takes the values of a key into a field. -/
def take {α : Type} (c : Converter α) (held : α) (entry : Text × List Text) : Form α :=
  match c.convert held entry.2 with
  | .ok a => pure a
  | .error details => do
    complain entry.1 (conversionText entry.1 details)
    return held

/-- Reads a field. -/
def field {α : Type} (q : Query) (name : Text) (c : Converter α) : Form α :=
  (q.filter fun (key, _) => Text.sameLetters key name).foldlM (take c) c.initial

/-- Whether a key brings a value that a required field asks for: the key of that very name, or
one that names a part of it. -/
def brings {α : Type} (name : Text) (c : Converter α) (entry : Text × List Text) : Bool :=
  !c.blank entry.2 &&
    (entry.1 = name || (entry.1.contains (Text.byte '.') && Text.startsWith entry.1 name))

/-- Reads a field that has to have a value. -/
def required {α : Type} (q : Query) (name : Text) (c : Converter α) : Form α := do
  let a ← field q name c
  unless q.any (brings name c) do complain name (name ++ " is empty")
  return a

/-- The outcome of a reading. -/
def run {α : Type} (form : Form α) : Except Fault α :=
  match StateT.run form [] with
  | (a, []) => .ok a
  | (_, cs) => .error (.complaints cs)

end Form

end Accord
