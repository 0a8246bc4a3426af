/-
# Objects, member by member

A writer builds a JSON object in the order in which its members are written, and
keeps the first failure. A reader gives access to the members of an object by name.

## Main definitions

* `ObjectWriter`: `field`, `raw` and `text`;
* `ObjectReader`: `ofText`, `required`, `optional`, `has`, `raw?` and `keys`;
* `ObjectReader.receive`: reads an object into a value that is held.
-/

import Accord.Wire.Json

namespace Accord

/-- An object that is being written: its members with their JSON, or the first failure. -/
structure ObjectWriter where
  members : List (Text × Text) := []
  failure : Option Fault := none
  deriving Inhabited

namespace ObjectWriter

/-- Writes a member whose JSON may not exist. -/
def field (w : ObjectWriter) (key : Text) (json : Except Fault Text) : ObjectWriter :=
  if w.failure.isSome then w
  else match json with
    | .ok t => { w with members := w.members ++ [(key, t)] }
    | .error e => { w with failure := some (.field key e) }

/-- Writes a member that is JSON already; blank JSON is written as `null`. -/
def raw (w : ObjectWriter) (key json : Text) : ObjectWriter :=
  if json.trim.isEmpty then w.field key (.ok "null")
  else if Json.valid json then w.field key (.ok (Json.compact json))
  else w.field key (.error (.plain "invalid raw JSON"))

/-- The text of the object, or the first failure. -/
def text (w : ObjectWriter) : Except Fault Text :=
  match w.failure with
  | some e => .error e
  | none => .ok (Json.objectOf w.members)

end ObjectWriter

/-- The members of an object that is read by name; each name stands once. -/
structure ObjectReader where
  members : List (Text × Json)
  deriving Inhabited

namespace ObjectReader

/-- The start of a text for a message. -/
def preview (t : Text) : Text :=
  if t.isEmpty then "empty input"
  else if 32 < t.length then t.take 32 ++ "..."
  else t

/-- What is said of a text that should be an object. -/
def notObject (t : Text) : Fault := .plain ("expected JSON object, got " ++ preview t)

/-- The members of an object. Of several with one name the last counts. -/
def ofMembers (members : List (Text × Json)) : ObjectReader :=
  ⟨members.foldl (fun sofar (k, j) => Text.upsert k j sofar) []⟩

/-- The members of a value that has to be an object. -/
def ofJson : Json → Except Fault ObjectReader
  | .object _ members => .ok (ofMembers members)
  | j => .error (notObject j.source)

/-- The members of a text that has to be an object. -/
def ofText (t : Text) : Except Fault ObjectReader :=
  let t := t.trim
  if t.head? != some (Text.byte '\x7b') then .error (notObject t)
  else match Json.read t with
    | .ok (.object _ members) => .ok (ofMembers members)
    | _ => .error (.context "decode JSON object" Fault.json)

variable (r : ObjectReader)

/-- The member of a name, if it is there and not `null`. -/
def value? (key : Text) : Option Json := (r.members.lookup key).filter (!·.isNull)

/-- Reads a member, if it is there and not `null`. -/
def optional {α : Type} (key : Text) (read : Json → Except Fault α) :
    Except Fault (Option α) :=
  match r.value? key with
  | none => .ok none
  | some j =>
    match read j with
    | .ok a => .ok (some a)
    | .error e => .error (.field key e)

/-- Reads a member that has to be there. -/
def required {α : Type} (key : Text) (read : Json → Except Fault α) : Except Fault α :=
  match r.value? key with
  | none => .error (.missingField key)
  | some j => (read j).mapError (.field key)

/-- Whether a member is there and not `null`. -/
def has (key : Text) : Bool := (r.value? key).isSome

/-- The JSON of a member. -/
def raw? (key : Text) : Option Text := (r.members.lookup key).map (·.source)

/-- The names of the members in order. -/
def keys : List Text := Text.sort (r.members.map (·.1))

/-- Reads an object into a value that is held. The value is made apart from the one that is held,
which it replaces when all of it is there. -/
def receive {α : Type} (read : ObjectReader → Except Fault α) (t : Text) :
    ExceptT Fault (StateM α) Unit := do
  let r ← liftExcept (ofText t)
  let made ← liftExcept (read r)
  set made

end ObjectReader

end Accord
