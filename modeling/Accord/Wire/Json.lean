/-
# Values as JSON

Each type has its own way to read JSON. The primitives with a text form are written
as strings, safe integers, booleans and finite doubles as what they are, binary data
in base64. A `null` leaves most values as they are before reading, and the types
that read JSON themselves see it like any other text.

## Main definitions

* `Wire.ofJson`: the value of a type in a JSON value;
* `Wire.ofJsonText`, `Wire.ofJsonStream`: from a text, which holds one value or starts
  with one;
* `Wire.json`: the JSON of a value.
-/

import Accord.Wire.Plain
import Accord.Text.Utf8

namespace Accord.Wire

/-! ### Reading -/

/-- Whether values of a type are read by their own text form. -/
def hasTextForm : WireType → Bool
  | .uuid => true
  | .rid => true
  | .datetime => true
  | .bearertoken => true
  | _ => false

/-- The value of a type with a text form. A truth value is read by its spelling. -/
def ofJsonAsText (type : WireType) : Json → Except Fault Wire
  | .null => .ok (zero type)
  | .bool b => ofPlain type (Boolean.text b)
  | .string _ value => ofPlain type value.scrub
  | _ => .error Fault.json

/-- The key of a map: a string, or what the text form of the type reads. -/
def ofKey (type : WireType) (key : Text) : Except Fault Wire :=
  match type with
  | .string => .ok (string key)
  | .safelong => ofPlain type key.scrub
  | .boolean => ofPlain type key.scrub
  | .double => ofPlain type key.scrub
  | .binary => ofPlain type key.scrub
  | type => if hasTextForm type then ofPlain type key.scrub else .error Fault.json

/-- Puts an entry into a map; of two entries with one key the last counts. -/
def putEntry (key value : Wire) : List (Wire × Wire) → List (Wire × Wire)
  | [] => [(key, value)]
  | (k, v) :: rest =>
    if (plain k).toOption = (plain key).toOption then (k, value) :: rest
    else (k, v) :: putEntry key value rest

/-- The value of a type in a JSON value. -/
def ofJson : WireType → Json → Except Fault Wire
  | .string, .string _ value => .ok (string value)
  | .string, .null => .ok (zero .string)
  | .bool, .bool b => .ok (bool b)
  | .bool, .null => .ok (zero .bool)
  | .integer bits, .null => .ok (zero (.integer bits))
  | .integer bits, j =>
    match j.int64? with
    | .ok n =>
      if -(2 ^ (bits - 1)) ≤ n && n < 2 ^ (bits - 1) then .ok (integer bits n)
      else .error Fault.json
    | .error _ => .error Fault.json
  | .unsigned bits, .null => .ok (zero (.unsigned bits))
  | .unsigned bits, j =>
    match j.int64? with
    | .ok n => if 0 ≤ n && n < 2 ^ bits then .ok (unsigned bits n.toNat) else .error Fault.json
    | .error _ => .error Fault.json
  | .single, .null => .ok (zero .single)
  | .single, j =>
    match j.double? with
    | .ok d => .ok (single d.toSingle)
    | .error _ => .error Fault.json
  | .real, .null => .ok (zero .real)
  | .real, j =>
    match j.double? with
    | .ok d => .ok (real d)
    | .error _ => .error Fault.json
  | .safelong, j =>
    match SafeLong.ofJson j.source with
    | .ok n => .ok (safelong n)
    | .error e => .error e.fault
  | .double, j =>
    match Double.ofJson j.source with
    | .ok d => .ok (double d)
    | .error e => .error e.fault
  | .binary, j =>
    match Binary.ofJson j.source with
    | .ok bytes => .ok (binary bytes)
    | .error e => .error (.plain e.message)
  | .boolean, j =>
    match Boolean.ofJson j.source with
    | .ok b => .ok (boolean b)
    | .error e => .error (.plain e.message)
  | .uuid, j => ofJsonAsText .uuid j
  | .rid, j => ofJsonAsText .rid j
  | .datetime, j => ofJsonAsText .datetime j
  | .bearertoken, j => ofJsonAsText .bearertoken j
  | .any, j =>
    match j.toAny with
    | .ok a => .ok (any a)
    | .error _ => .error Fault.json
  | .optional item, .null => .ok (absent (.optional item))
  | .optional item, j => (ofJson item j).map present
  | .list item, .null => .ok (absent (.list item))
  | .list item, .array _ items => (items.mapM (ofJson item)).map (list item)
  | .map key value, .null => .ok (absent (.map key value))
  | .map key value, .object _ members => do
    let entries ← members.mapM fun (k, j) => do
      let k ← ofKey key k
      let v ← ofJson value j
      return (k, v)
    return map key value (entries.foldl (fun sofar (k, v) => putEntry k v sofar) [])
  | _, _ => .error Fault.json

/-- The value at the start of a text, and what follows it. -/
def ofJsonStart (type : WireType) (t : Text) : Except Fault (Wire × Text) :=
  match Json.readFirst t with
  | .error _ => .error Fault.json
  | .ok (j, rest) => (ofJson type j).map fun v => (v, rest)

/-- The value of a text that holds nothing else. -/
def ofJsonText (type : WireType) (t : Text) : Except Fault Wire := do
  let (v, rest) ← ofJsonStart type t
  if rest.all Json.isSpace then return v else throw Fault.json

/-- Whether nothing but white space is left to read. -/
def isBlankText (t : Text) : Bool := t.all Json.isSpace

/-- The value at the start of a stream; an empty stream ends before there is one. -/
def ofJsonStream (type : WireType) (t : Text) : Except Fault Wire :=
  if isBlankText t then .error (.plain "EOF") else (ofJsonStart type t).map (·.1)

/-! ### Writing -/

/-- A text form as a JSON string. -/
def quoted (t : Except Fault Text) : Except Fault Text :=
  match t with
  | .ok t => .ok (Json.quote t)
  | .error e => .error (.unwritable e)

mutual

/-- The JSON of a value. -/
def json : Wire → Except Fault Text
  | string t => .ok (Json.quote t)
  | bool b => .ok (Boolean.text b)
  | integer _ n => .ok (Text.ofInt n)
  | unsigned _ n => .ok (Text.ofNat n)
  | single d =>
    if d.isFinite then .ok (Layout.json.number Format.binary32 d.negative d.narrow)
    else .error Fault.json
  | real d => if d.isFinite then .ok d.json else .error Fault.json
  | safelong s => s.text?.mapError fun e => .unwritable e.fault
  | double d => .ok d.wire
  | binary bytes => .ok (Binary.json bytes)
  | boolean b => .ok (Boolean.text b)
  | uuid u => .ok (Json.quote u.text)
  | rid r => quoted (r.text?.mapError fun e => .plain e.message)
  | datetime t => .ok (Json.quote t.text)
  | bearertoken t => quoted (t.text?.mapError fun e => .plain e.message)
  | any a => .ok a.json
  | absent _ => .ok "null"
  | present v => v.json
  | list _ items => (jsons items).map Json.arrayOf
  | map _ _ entries => (members entries).map fun ms => Json.objectOf (Text.sortKeys ms)

/-- The JSON of the elements of a list. -/
def jsons : List Wire → Except Fault (List Text)
  | [] => .ok []
  | v :: rest => do
    let t ← v.json
    return t :: (← jsons rest)

/-- The JSON of the entries of a map. -/
def members : List (Wire × Wire) → Except Fault (List (Text × Text))
  | [] => .ok []
  | (k, v) :: rest => do
    let key ← k.plain.mapError .unwritable
    let value ← v.json
    return (key, value) :: (← members rest)

end

end Accord.Wire
