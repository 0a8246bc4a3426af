/-
# Logs

A log is the list of what was reported, the oldest first.

## Main definitions

* `LogEntry`: a message with its level and its fields;
* `Log`: a list of entries;
* `LogEntry.outline`: an entry as untyped data.
-/

import Accord.Contract.Outline

namespace Accord

/-- How much an entry matters. -/
inductive LogLevel where
  | debug
  | info
  | warn
  | error
  deriving DecidableEq, Repr

/-- The word for a level. -/
def LogLevel.text : LogLevel → Text
  | debug => "debug"
  | info => "info"
  | warn => "warn"
  | error => "error"

/-- The value of a field. -/
inductive LogValue where
  | text (t : Text)
  | count (n : Nat)
  deriving DecidableEq, Repr

/-- A name with a value. -/
structure LogField where
  name : Text
  value : LogValue
  deriving DecidableEq, Repr

namespace LogField

/-- A field with a text. -/
def text (name value : Text) : LogField := ⟨name, .text value⟩

/-- A field with a number. -/
def count (name : Text) (n : Nat) : LogField := ⟨name, .count n⟩

end LogField

/-- A message with its level and its fields. -/
structure LogEntry where
  level : LogLevel
  message : Text
  fields : List LogField
  deriving DecidableEq, Repr

/-- An entry as untyped data. -/
def LogEntry.outline (e : LogEntry) : Any :=
  .map [("level", .string e.level.text), ("msg", .string e.message),
    ("fields", .map (e.fields.map fun x => (x.name, match x.value with
      | .text t => .string t
      | .count n => .ofInt n)))]

/-- The entries of a log, the oldest first. -/
abbrev Log := List LogEntry

end Accord
