/-
# Genres

An enumeration of which later versions may have more values: a value that is not
declared is kept as it came, and counts as unknown.

## Main definitions

* `Genre`: a declared or unknown value;
* `Genre.parse`: the genre of a declared name;
* `Genre.ofJson`, `Genre.json`.
-/

import Accord.Wire.Json

namespace Accord.Catalog

/-- A genre by its name on the wire. -/
structure Genre where
  name : Text
  deriving DecidableEq, Repr, Inhabited

namespace Genre

/-- The declared names in order. -/
def declared : List Text := ["FICTION", "NON_FICTION"]

/-- What stands for a name that is not declared. -/
def unknown : Text := "UNKNOWN"

variable (g : Genre)

/-- Whether the name is not declared. -/
def isUnknown : Bool := !declared.contains g.name

/-- The name, if it is declared. -/
def value : Text := if g.isUnknown then unknown else g.name

/-- The genre of a declared name. -/
def parse (name : Text) : Except Fault Genre :=
  if (Genre.mk name).isUnknown then .error (.unknownEnumValue "Genre" name) else .ok ⟨name⟩

/-- The order of genres by the bytes of their names. -/
def compare (a b : Genre) : Int :=
  if a.name = b.name then 0 else if Text.le a.name b.name then -1 else 1

/-- The JSON of a genre. -/
def json : Text := Json.quote g.name

/-- The genre in a JSON value. -/
def ofJson : Json → Except Fault Genre
  | .string _ name => .ok ⟨name⟩
  | .null => .ok ⟨[]⟩
  | _ => .error Fault.json

end Genre

end Accord.Catalog
