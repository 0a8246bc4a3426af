/-
# JSON values

A value read from a JSON text remembers the text it was read from: messages quote
it, and parts that nobody decodes travel on as they came. Object members keep their
order and their repetitions; which of several members counts is decided by whoever
reads the object.

## Main definitions

* `Json`: a value with its source text;
* `Json.Record`: the members of an object, looked up without regard to the case of
  ASCII letters, with `null` standing for an absent value;
* `Any`: a value without its source, as an untyped field holds it.
-/

import Accord.Double.Reader

namespace Accord

/-- A JSON value and the text it was read from. Literals are their own source. -/
inductive Json where
  | null
  | bool (b : Bool)
  | number (literal : Text)
  | string (source value : Text)
  | array (source : Text) (items : List Json)
  | object (source : Text) (members : List (Text × Json))
  deriving Inhabited, Repr

namespace Json

/-- The text that a value was read from, without white space around it. -/
def source : Json → Text
  | null => "null"
  | bool true => "true"
  | bool false => "false"
  | number literal => literal
  | string source _ => source
  | array source _ => source
  | object source _ => source

/-- Whether a value is `null`. -/
def isNull : Json → Bool
  | null => true
  | _ => false

/-- A text that is not JSON, or not JSON of the shape that was asked for. The wording of the
details is left open: a message shows the class of the error only. -/
inductive Error where
  | mismatch
  deriving DecidableEq, Repr

/-- What a message shows for malformed JSON. -/
def Error.message : Error → Text
  | mismatch => "<json error>"

/-- The text of a string. -/
def text? : Json → Except Error Text
  | string _ value => .ok value
  | _ => .error .mismatch

/-- The value of an integer literal of 64 bits. Nineteen digits are always taken, and wrap
around when the number is too large. -/
def int64? : Json → Except Error Int
  | number literal =>
    let (negative, digits) := match literal with
      | b :: rest => if b = Text.byte '-' then (true, rest) else (false, literal)
      | [] => (false, literal)
    let leadingZero := !negative && literal.head? = some (Text.byte '0') && 1 < literal.length
    if digits.isEmpty || !digits.all Text.isDigitByte || leadingZero || 19 < digits.length then
      .error .mismatch
    else
      let n : Int := Int.bmod (Text.digitsToNat digits) UInt64.size
      .ok (if negative then Int.bmod (-n) UInt64.size else n)
  | _ => .error .mismatch

/-- The value of an integer literal of 32 bits. -/
def int32? (j : Json) : Except Error Int := do
  let n ← j.int64?
  if -2147483648 ≤ n && n < 2147483648 then return n else throw .mismatch

/-- The value of a number. -/
def double? : Json → Except Error Double
  | number literal =>
    match Double.read literal with
    | .ok d => .ok d
    | .error _ => .error .mismatch
  | _ => .error .mismatch

/-! ### Records -/

/-- The members of an object. -/
abbrev Record := List (Text × Json)

/-- The members of a value, none unless it is an object. -/
def record : Json → Record
  | object _ members => members
  | _ => []

namespace Record

variable (r : Record)

/-- The values of all members of a name, in order. -/
def all (name : Text) : List Json :=
  r.filterMap fun (k, v) => if Text.sameFold k name then some v else none

/-- The last value of a member, also if it is `null`. -/
def last? (name : Text) : Option Json := (all r name).getLast?

/-- The last text of a member, empty if there is none. A `null` leaves what came before. -/
def text (name : Text) : Text :=
  ((all r name).filterMap fun | .string _ t => some t | _ => none).getLast?.getD []

/-- The last integer of a member, zero if there is none. A `null` leaves what came before. -/
def int (name : Text) : Int :=
  ((all r name).filterMap fun j => j.int64?.toOption).getLast?.getD 0

/-- The elements of the last array of a member; a `null` empties it. -/
def items (name : Text) : List Json :=
  match last? r name with
  | some (.array _ items) => items
  | _ => []

/-- The members of a nested object, which is always there: values that follow each other are
read into one object. -/
def nested (name : Text) : Record := (all r name).flatMap record

/-- The members of a nested object that may be absent. A `null` drops what came before. -/
def nested? (name : Text) : Option Record :=
  (all r name).foldl (fun sofar j =>
    match j with
    | .null => none
    | j => some (sofar.getD [] ++ j.record)) none

end Record

end Json

/-- A value of the untyped kind: what JSON denotes, with numbers as doubles. -/
inductive Any where
  | null
  | bool (b : Bool)
  | number (d : Double)
  | string (t : Text)
  | list (items : List Any)
  | map (entries : List (Text × Any))
  deriving Inhabited, Repr

mutual

/-- The untyped value of a JSON value; a number out of range has none. -/
def Json.toAny : Json → Except Json.Error Any
  | .null => .ok .null
  | .bool b => .ok (.bool b)
  | .number literal => do return .number (← (Json.number literal).double?)
  | .string _ value => .ok (.string value)
  | .array _ items => do return .list (← Json.toAnys items)
  | .object _ members => do return .map (← Json.toEntries members)

/-- The untyped values of the elements of an array. -/
def Json.toAnys : List Json → Except Json.Error (List Any)
  | [] => .ok []
  | j :: rest => do
    let a ← j.toAny
    return a :: (← Json.toAnys rest)

/-- The untyped entries of the members of an object; of several with one key the last counts. -/
def Json.toEntries : List (Text × Json) → Except Json.Error (List (Text × Any))
  | [] => .ok []
  | (k, j) :: rest => do
    let a ← j.toAny
    let more ← Json.toEntries rest
    return if more.any (·.1 = k) then more else (k, a) :: more

end

end Accord
