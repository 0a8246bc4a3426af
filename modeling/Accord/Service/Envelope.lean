/-
# Errors on the wire

An error travels in an envelope. Whatever a service fails with is put into one: an
error that the service declares keeps its code, name and parameters, a few classes of
faults become an error of their own, and all others are an internal error that tells
nothing about its cause. The receiver gets back the type of error that is registered
under the name in the envelope, or a generic one.

## Main definitions

* `Envelope.json`, `Envelope.ofText`: the envelope as JSON;
* `ErrorRegistry`: the declared errors that a receiver knows;
* `Envelope.unpack`: the error in an envelope;
* `Fault.serialize?`: the envelope of a fault, unless the attempt breaks down;
* `Fault.toEnvelope`: the envelope of a fault.
-/

import Accord.Fault
import Accord.Wire.Json

namespace Accord

/-! ### Envelopes as JSON -/

namespace Envelope

/-- The JSON of an envelope. Parameters that are missing are left out. -/
def json (e : Envelope) : Except Fault Text :=
  let head : List (Text × Text) :=
    [("errorCode", Json.quote e.code), ("errorName", Json.quote e.name),
     ("errorInstanceId", Json.quote e.id.text)]
  let last : Text × Text := ("parameters", Json.compact e.parameters)
  if e.parameters.isEmpty then .ok (Json.objectOf head)
  else if Json.valid e.parameters then .ok (Json.objectOf (head ++ [last]))
  else .error Fault.json

/-- An envelope without anything in it. -/
def empty : Envelope := ⟨[], [], .zero, []⟩

/-- The text of a member; a `null` leaves what is there. -/
def memberText (held : Text) : Json → Except Fault Text
  | .null => .ok held
  | j => j.text?.mapError fun _ => Fault.json

/-- The identifier of a member; a `null` leaves what is there. -/
def memberId (held : Uuid) (j : Json) : Except Fault Uuid :=
  if j.isNull then .ok held
  else match Wire.ofJson .uuid j with
    | .ok (.uuid id) => .ok id
    | .ok _ => .ok held
    | .error e => .error e

/-- Takes a member into an envelope. -/
def member (e : Envelope) : Text × Json → Except Fault Envelope
  | (key, j) =>
    if Text.sameFold key "errorCode" then do return { e with code := ← memberText e.code j }
    else if Text.sameFold key "errorName" then do return { e with name := ← memberText e.name j }
    else if Text.sameFold key "errorInstanceId" then do return { e with id := ← memberId e.id j }
    else if Text.sameFold key "parameters" then .ok { e with parameters := j.source }
    else .ok e

/-- The envelope in a JSON value. -/
def ofJson : Json → Except Fault Envelope
  | .null => .ok empty
  | .object _ members => members.foldlM member empty
  | _ => .error Fault.json

/-- The envelope that a text holds. -/
def ofText (t : Text) : Except Fault Envelope :=
  match Json.read t with
  | .ok j => ofJson j
  | .error _ => .error Fault.json

end Envelope

/-! ### Opening an envelope -/

/-- Reads the parameters of a declared error. -/
abbrev ErrorDecoder := Text → Except Fault ServiceError

/-- The declared errors that a receiver knows, by name. -/
structure ErrorRegistry where
  decoders : List (Text × ErrorDecoder) := []

namespace ErrorRegistry

/-- Two errors of one name. -/
inductive Conflict where
  | twice (name : Text)
  deriving DecidableEq, Repr

/-- The message of a conflict. -/
def Conflict.message : Conflict → Text
  | twice name => "conjure: error type " ++ name ++ " registered twice"

/-- Makes an error known. -/
def register (r : ErrorRegistry) (name : Text) (decode : ErrorDecoder) :
    Except Conflict ErrorRegistry :=
  if (r.decoders.lookup name).isSome then .error (.twice name)
  else .ok ⟨r.decoders ++ [(name, decode)]⟩

end ErrorRegistry

/-- The parameters of a generic error. -/
def GenericError.readParams (t : Text) : Except Fault (List (Text × ErrorParam)) :=
  match Json.read t with
  | .ok .null => .ok []
  | .ok (.object _ members) =>
    match Json.toEntries members with
    | .ok entries => .ok (entries.map fun (k, a) => (k, .value a))
    | .error _ => .error Fault.json
  | _ => .error Fault.json

/-- The error in an envelope: of the type that is registered under its name, or generic. -/
def Envelope.unpack (registry : ErrorRegistry) (e : Envelope) : Except Fault ServiceError :=
  match registry.decoders.lookup e.name with
  | some decode =>
    (decode (if e.parameters.isEmpty then "\x7b\x7d" else e.parameters)).mapError
      (.context ("decode " ++ e.name))
  | none =>
    if e.parameters.isEmpty then .ok (.generic ⟨e.code, e.name, []⟩)
    else match GenericError.readParams e.parameters with
      | .ok params => .ok (.generic ⟨e.code, e.name, params⟩)
      | .error f => .error (.context ("decode " ++ e.name ++ " parameters") f)

/-! ### Filling an envelope -/

/-- The envelope of a service error, if its parameters can be written. -/
def ServiceError.envelope? (id : Uuid) (e : ServiceError) : Option Envelope :=
  e.json?.map fun parameters => ⟨e.code, e.name, id, parameters⟩

namespace GenericError

/-- An error that tells nothing about its cause. -/
def internal : GenericError := ⟨"INTERNAL", "Default:Internal", []⟩

/-- A call that took too long. -/
def timeout : GenericError := ⟨"TIMEOUT", "Default:Timeout", []⟩

/-- A call without a valid credential. -/
def unauthorized : GenericError := ⟨"PERMISSION_DENIED", "Default:Unauthorized", []⟩

/-- A call with an argument that cannot be taken. -/
def invalidArgument : GenericError := ⟨"INVALID_ARGUMENT", "Default:InvalidArgument", []⟩

/-- A call to an address where nothing is served. -/
def notFound : GenericError := ⟨"NOT_FOUND", "Default:NotFound", []⟩

/-- The envelope of a generic error that has to be written. Where it cannot be, whoever asks for it
breaks down. -/
def envelope? (id : Uuid) (e : GenericError) : Option Envelope := (ServiceError.generic e).envelope? id

end GenericError

namespace Fault

/-- What is made of a fault that something is known about: the first of an envelope, a service
error, a deadline, violations, a missing credential and an invalid argument that occurs in it
decides. There is no envelope inside if making it breaks down. -/
def recognized? (id : Uuid) (f : Fault) : Option (Option Envelope) :=
  match f.envelope? with
  | some e => some (some e)
  | none =>
    match f.service? with
    | some e => some ((e.envelope? id).or (GenericError.internal.envelope? id))
    | none =>
      if f.hasDeadline then some (GenericError.timeout.envelope? id)
      else match f.violations? with
        | some vs =>
          some ((vs.foldl (fun e v => e.withParam v.field (.string v.message))
            GenericError.invalidArgument).envelope? id)
        | none =>
          if f.has .unauthorized then some (GenericError.unauthorized.envelope? id)
          else if f.has .invalidArgument then
            some ((GenericError.invalidArgument.withParam "message"
              (.string f.message)).envelope? id)
          else none

/-- The envelope of a fault, unless making it breaks down. A join that is laid open and about which
nothing is known is judged by its first part. -/
def serialize? (id : Uuid) : Fault → Option Envelope
  | .joined true (first :: rest) =>
    (recognized? id (.joined true (first :: rest))).getD (serialize? id first)
  | f => (recognized? id f).getD (GenericError.internal.envelope? id)

/-- The envelope of a fault. -/
def toEnvelope (id : Uuid) (f : Fault) : Envelope :=
  (f.serialize? id).getD ⟨GenericError.internal.code, GenericError.internal.name, id, "\x7b\x7d"⟩

end Fault

end Accord
