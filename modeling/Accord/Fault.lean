/-
# Faults

What can go wrong while a document is processed or a request is served. A fault is a
cause with the context it gathered on its way: texts put in front of the message,
marks that tell a class of faults apart whatever their wording, hints for the user,
and several faults joined into one.

## Main definitions

* `Mark`: the classes that faults are marked with;
* `Fault`: a cause with its context;
* `Fault.message`: the text of a fault;
* `Fault.has`: whether a fault carries a mark;
* `Fault.kind`: the word for the class of a fault;
* `Fault.envelope?`, `Fault.service?`, `Fault.violations?`: the first part of a kind.
-/

import Accord.Service.Error
import Accord.Primitive.SafeLong

namespace Accord

/-- The classes that faults are marked with. -/
inductive Mark where
  /-- A definition document that cannot be read. -/
  | parse
  /-- A reference to a type that is not defined. -/
  | unknownReference
  /-- A type that cannot be generated in its place. -/
  | unsupported
  /-- An identifier for which no free spelling is left. -/
  | nameCollision
  /-- A definition document that contradicts itself. -/
  | invalidDefinition
  /-- Generated packages that import each other. -/
  | importCycle
  /-- A file that was not generated and would be replaced. -/
  | handWritten
  /-- A malformed size. -/
  | invalidSize
  /-- A malformed path template. -/
  | invalidPathComponent
  /-- A request with a malformed argument. -/
  | invalidArgument
  /-- A request without a valid credential. -/
  | unauthorized
  deriving DecidableEq, Repr

/-- The marks with the word for each, in the order in which a fault is classed by them. -/
def Mark.words : List (Mark × Text) :=
  [(.parse, "parse"), (.unknownReference, "unknown_reference"), (.unsupported, "unsupported"),
   (.nameCollision, "name_collision"), (.invalidDefinition, "invalid_definition"),
   (.importCycle, "import_cycle"), (.handWritten, "hand_written"),
   (.invalidSize, "invalid_size"), (.invalidPathComponent, "invalid_path_component"),
   (.invalidArgument, "invalid_argument"), (.unauthorized, "unauthorized")]

/-- The text of the fault that stands for a class. -/
def Mark.text : Mark → Text
  | parse => "conjure definition parse error"
  | unknownReference => "unknown type reference"
  | unsupported => "unsupported type"
  | nameCollision => "identifier collision"
  | invalidDefinition => "invalid conjure definition"
  | importCycle => "import cycle"
  | handWritten => "refusing to overwrite hand-written file"
  | invalidSize => "invalid size"
  | invalidPathComponent => "invalid path component"
  | invalidArgument => "invalid argument"
  | unauthorized => "unauthorized"

/-- What a message shows of an error whose wording is left open. -/
inductive Foreign where
  | json
  | yaml
  | toml
  | file
  | source
  deriving DecidableEq, Repr

/-- The text that stands for such an error. -/
def Foreign.message : Foreign → Text
  | json => Json.Error.mismatch.message
  | yaml => "<yaml error>"
  | toml => "<toml error>"
  | file => "<os error>"
  | source => "<go syntax error>"

/-- A field of a record that does not keep a rule: the rule's name and its parameter. -/
structure Violation where
  field : Text
  rule : Text
  param : Text := []
  deriving DecidableEq, Repr

/-- What a caller is told about a violation. -/
def Violation.message (v : Violation) : Text :=
  if v.rule = "required" then "is required"
  else if v.rule = "min" then "must be at least " ++ v.param
  else if v.rule = "max" then "must be at most " ++ v.param
  else if v.rule = "oneof" then "must be one of: " ++ v.param
  else if v.param.isEmpty then "failed " ++ v.rule ++ " validation"
  else "failed " ++ v.rule ++ "=" ++ v.param ++ " validation"

/-- Something that went wrong. -/
inductive Fault where
  /-- A cause with a message of its own. -/
  | plain (message : Text)
  /-- An error whose wording is left open. -/
  | foreign (f : Foreign)
  /-- A value that could not be written as JSON, and why. -/
  | unwritable (cause : Fault)
  | missingField (field : Text)
  | field (field : Text) (cause : Fault)
  | unknownEnumValue (enum value : Text)
  | emptyUnion (union : Text)
  | safeLongRange (spelled : Text)
  | envelope (e : Envelope)
  | service (e : ServiceError)
  | deadline
  | canceled
  | violations (record : Text) (vs : List Violation)
  /-- What is wrong with the values of a form, by their keys. -/
  | complaints (cs : List (Text × Text))
  /-- A fault of a class. -/
  | marked (mark : Mark) (cause : Fault)
  /-- A fault with a text in front of its message. -/
  | context (text : Text) (cause : Fault)
  /-- A fault with advice for the user. -/
  | hinted (hint : Text) (cause : Fault)
  /-- Several faults; of those that are laid open the first stands for all when nothing else
  is known. -/
  | joined (laidOpen : Bool) (causes : List Fault)
  deriving Inhabited

namespace Fault

/-- Malformed JSON. -/
def json : Fault := .foreign .json

mutual

/-- The text of a fault. -/
def message : Fault → Text
  | plain message => message
  | foreign f => f.message
  | unwritable _ => Foreign.json.message
  | missingField f => "missing required field " ++ f.quote
  | field f cause => "field " ++ f.quote ++ ": " ++ cause.message
  | unknownEnumValue enum value => "unknown " ++ enum ++ " value " ++ value.quote
  | emptyUnion union => "union " ++ union ++ " has no variant set"
  | safeLongRange spelled => SafeLong.rangeMessage spelled
  | envelope e => e.message
  | service e => e.message
  | deadline => "context deadline exceeded"
  | canceled => "context canceled"
  | violations record vs =>
    Text.join "\n" (vs.map fun v => "Key: '" ++ record ++ "." ++ v.field ++
      "' Error:Field validation for '" ++ v.field ++ "' failed on the '" ++ v.rule ++ "' tag")
  | complaints cs =>
    match cs with
    | [] => "(0 errors)"
    | [(_, text)] => text
    | [(_, text), _] => text ++ " (and 1 other error)"
    | (_, text) :: rest => text ++ " (and " ++ Text.ofNat rest.length ++ " other errors)"
  | marked _ cause => cause.message
  | context text cause => text ++ ": " ++ cause.message
  | hinted _ cause => cause.message
  | joined _ causes => Text.join "\n" (messages causes)

/-- The texts of several faults. -/
def messages : List Fault → List Text
  | [] => []
  | f :: rest => f.message :: messages rest

end

mutual

/-- The fault and all its parts, from the outside inward and each join in order. -/
def parts : Fault → List Fault
  | unwritable cause => .unwritable cause :: cause.parts
  | field f cause => .field f cause :: cause.parts
  | marked m cause => .marked m cause :: cause.parts
  | context t cause => .context t cause :: cause.parts
  | hinted h cause => .hinted h cause :: cause.parts
  | joined o causes => .joined o causes :: partsAll causes
  | f => [f]

/-- The parts of several faults. -/
def partsAll : List Fault → List Fault
  | [] => []
  | f :: rest => f.parts ++ partsAll rest

end

/-- Whether a fault carries a mark. A cause with the text of the fault that stands for the class
is not told apart from it. -/
def has (f : Fault) (m : Mark) : Bool :=
  f.parts.any fun | .marked m' _ => m' = m | .plain t => t = m.text | _ => false

/-- Whether a deadline passed. -/
def hasDeadline (f : Fault) : Bool := f.parts.any fun | .deadline => true | _ => false

/-- Whether the work was cancelled. -/
def hasCanceled (f : Fault) : Bool := f.parts.any fun | .canceled => true | _ => false

/-- The first envelope in a fault. -/
def envelope? (f : Fault) : Option Envelope :=
  f.parts.findSome? fun | .envelope e => some e | _ => none

/-- The first service error in a fault. -/
def service? (f : Fault) : Option ServiceError :=
  f.parts.findSome? fun | .service e => some e | _ => none

/-- The first violations in a fault. -/
def violations? (f : Fault) : Option (List Violation) :=
  f.parts.findSome? fun | .violations _ vs => some vs | _ => none

/-- The hints of a fault, each once, the innermost first. -/
def hints (f : Fault) : List Text :=
  Text.distinct (f.parts.filterMap fun | .hinted h _ => some h | _ => none).reverse

/-- The word for the class of a fault: its first mark in the order of the marks, whether the
work was cancelled or came too late, or the outermost part of a kind that has a word. -/
def kind (f : Fault) : Text :=
  match Mark.words.find? fun (m, _) => f.has m with
  | some (_, word) => word
  | none =>
    if f.hasCanceled then "canceled"
    else if f.hasDeadline then "deadline"
    else (f.parts.findSome? fun
      | .missingField _ => some ("missing_field" : Text)
      | .field _ _ => some "field"
      | .unknownEnumValue _ _ => some "unknown_enum_value"
      | .emptyUnion _ => some "empty_union"
      | .safeLongRange _ => some "safelong_range"
      | .envelope _ => some "serializable_error"
      | _ => none).getD "error"

/-- A cause with a mark. -/
def mark (m : Mark) (message : Text) : Fault := .marked m (.plain message)

end Fault

/-- The fault of a safe integer that could not be read or written. -/
def SafeLong.Error.fault : SafeLong.Error → Fault
  | .outOfRange spelled => .safeLongRange spelled
  | e => .plain e.message

end Accord
