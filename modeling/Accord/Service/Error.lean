/-
# Service errors

An error that a service declares to its callers has a code, a qualified name and
parameters. A generic one carries any parameters; a declared one carries the fields
of its definition, of which some are safe to log. On the wire both travel in an
envelope with an instance identifier.

## Main definitions

* `ErrorCode.status`: the status of a response with an error code;
* `ServiceError`: a generic or declared error;
* `Envelope`: an error as it travels.
-/

import Accord.Json.Writer
import Accord.Primitive.Uuid

namespace Accord

namespace ErrorCode

/-- The codes with the status of their responses; any other code is an internal error. -/
def statuses : List (Text × Nat) :=
  [("PERMISSION_DENIED", 403), ("INVALID_ARGUMENT", 400), ("CUSTOM_CLIENT", 400),
   ("NOT_FOUND", 404), ("CONFLICT", 409), ("REQUEST_ENTITY_TOO_LARGE", 413)]

/-- The status of a response with an error code. -/
def status (code : Text) : Nat := (statuses.lookup code).getD 500

end ErrorCode

namespace Any

mutual

/-- An untyped value in a message. -/
def shown : Any → Text
  | .null => "<nil>"
  | .bool true => "true"
  | .bool false => "false"
  | .number d => d.text
  | .string t => t
  | .list items => "[" ++ Text.join " " (shownAll items) ++ "]"
  | .map entries =>
    "map[" ++ Text.join " " ((Text.sortKeys (shownEntries entries)).map fun (k, v) =>
      k ++ ":" ++ v) ++ "]"

/-- The elements of a list in a message. -/
def shownAll : List Any → List Text
  | [] => []
  | a :: rest => a.shown :: shownAll rest

/-- The entries of a map in a message. -/
def shownEntries : List (Text × Any) → List (Text × Text)
  | [] => []
  | (k, a) :: rest => (k, a.shown) :: shownEntries rest

end

end Any

/-- The value of a parameter of a generic error. -/
inductive ErrorParam where
  | value (a : Any)
  /-- A value that has no JSON form. -/
  | opaqueValue
  deriving Inhabited

namespace ErrorParam

/-- A parameter in a message. -/
def shown : ErrorParam → Text
  | value a => a.shown
  | opaqueValue => "\x7b\x7d"

/-- The JSON form, if there is one. -/
def json? : ErrorParam → Option Text
  | value a => if a.isWritable then some a.json else none
  | opaqueValue => none

end ErrorParam

/-- An error without a declared type. -/
structure GenericError where
  code : Text
  name : Text
  params : List (Text × ErrorParam) := []
  deriving Inhabited

namespace GenericError

/-- The same error with one more parameter, or with another value of it. -/
def withParam (e : GenericError) (key : Text) (value : Any) : GenericError :=
  { e with params := Text.upsert key (.value value) e.params }

/-- The parameters in the order of their keys. -/
def sorted (e : GenericError) : List (Text × ErrorParam) := Text.sortKeys e.params

/-- The message of an error. -/
def message (e : GenericError) : Text :=
  let head := e.code ++ " " ++ e.name
  if e.params.isEmpty then head
  else head ++ ": " ++ Text.join ", " (e.sorted.map fun (k, v) => k ++ "=" ++ v.shown)

/-- The JSON of the parameters, if all of them have one. -/
def json? (e : GenericError) : Option Text :=
  (e.sorted.mapM fun (entry : Text × ErrorParam) => entry.2.json?.map (entry.1, ·)).map Json.objectOf

end GenericError

/-- An error of a declared type: the fields that are present, with their JSON, in the order of
the declaration. -/
structure DeclaredError where
  code : Text
  name : Text
  safeArgs : List Text
  fields : List (Text × Text)
  deriving DecidableEq, Inhabited

/-- An error that a service declares to its callers. -/
inductive ServiceError where
  | generic (e : GenericError)
  | declared (e : DeclaredError)
  deriving Inhabited

namespace ServiceError

/-- The code of an error. -/
def code : ServiceError → Text
  | generic e => e.code
  | declared e => e.code

/-- The qualified name of an error. -/
def name : ServiceError → Text
  | generic e => e.name
  | declared e => e.name

/-- The name of the type of an error: what follows the namespace in a declared name. -/
def typeName : ServiceError → Text
  | generic _ => "generic"
  | declared e => ((Text.cut? (Text.byte ':') e.name).map (·.2)).getD e.name

/-- The message of an error; the parameters of a declared one are left out of it. -/
def message : ServiceError → Text
  | generic e => e.message
  | declared e => e.code ++ " " ++ e.name

/-- The parameters that are safe to log. -/
def safeArgs : ServiceError → List Text
  | generic _ => []
  | declared e => e.safeArgs

/-- The names of the parameters in order. -/
def keys : ServiceError → List Text
  | generic e => e.sorted.map (·.1)
  | declared e => Text.sort (e.fields.map (·.1))

/-- The JSON of the parameters, if there is one. -/
def json? : ServiceError → Option Text
  | generic e => e.json?
  | declared e => some (Json.objectOf e.fields)

end ServiceError

/-- An error as it travels: the parameters are JSON that nobody has read yet, and may be
missing. -/
structure Envelope where
  code : Text
  name : Text
  id : Uuid
  parameters : Text
  deriving DecidableEq, Inhabited

namespace Envelope

/-- The message of an envelope. -/
def message (e : Envelope) : Text :=
  e.code ++ " " ++ e.name ++ " (instance " ++ e.id.text ++ ")"

end Envelope

end Accord
