/-
# Values on the wire

The values that requests, responses and error parameters are made of, and their
types. A value knows its type, so that a list without elements and an absent value
are still of one.

## Main definitions

* `WireType`: a type of values;
* `Wire`: a value;
* `Wire.type`: the type of a value;
* `Wire.zero`: the value a destination holds before anything is read into it.
-/

import Accord.Fault
import Accord.Primitive.BearerToken
import Accord.Primitive.ResourceId
import Accord.Primitive.Scalar
import Accord.Primitive.Timestamp

namespace Accord

/-- A type of values: the scalars of the generated language, the primitives of the contract
language, and what is built from them. -/
inductive WireType where
  | string
  | bool
  | integer (bits : Nat)
  | unsigned (bits : Nat)
  | single
  | real
  | safelong
  | double
  | binary
  | uuid
  | rid
  | datetime
  | bearertoken
  | boolean
  | any
  | optional (item : WireType)
  | list (item : WireType)
  | map (key value : WireType)
  deriving DecidableEq, Repr, Inhabited

namespace WireType

/-- How a type is spelled in generated code. -/
def spelling : WireType → Text
  | string => "string"
  | bool => "bool"
  | integer bits => "int" ++ Text.ofNat bits
  | unsigned bits => "uint" ++ Text.ofNat bits
  | single => "float32"
  | real => "float64"
  | safelong => "conjure.SafeLong"
  | double => "conjure.Double"
  | binary => "conjure.Binary"
  | uuid => "conjure.UUID"
  | rid => "conjure.RID"
  | datetime => "conjure.DateTime"
  | bearertoken => "conjure.BearerToken"
  | boolean => "conjure.Boolean"
  | any => "interface \x7b\x7d"
  | optional item => "*" ++ item.spelling
  | list item => "[]" ++ item.spelling
  | map key value => "map[" ++ key.spelling ++ "]" ++ value.spelling

/-- Types that are often named. -/
def names : List (Text × WireType) :=
  [("string", string), ("bool", bool), ("int", integer 64), ("int8", integer 8),
   ("int16", integer 16), ("int32", integer 32), ("int64", integer 64),
   ("uint32", unsigned 32), ("float32", single), ("float64", real), ("float", real),
   ("safelong", safelong), ("double", double), ("binary", binary), ("uuid", uuid),
   ("rid", rid), ("datetime", datetime), ("bearertoken", bearertoken), ("boolean", boolean),
   ("any", any), ("strings", list string), ("string_map", map string string),
   ("optional_int32", optional (integer 32)), ("boolean_map", map boolean (integer 32)),
   ("safelong_map", map safelong double), ("double_list", list double)]

/-- The type of a name; a name that is not known stands for any value. -/
def ofName (name : Text) : WireType := (names.lookup name).getD any

end WireType

/-- A value on the wire. -/
inductive Wire where
  | string (t : Text)
  | bool (b : Bool)
  | integer (bits : Nat) (n : Int)
  | unsigned (bits : Nat) (n : Nat)
  | single (d : Double)
  | real (d : Double)
  | safelong (s : SafeLong)
  | double (d : Double)
  | binary (bytes : Text)
  | uuid (u : Uuid)
  | rid (r : ResourceId)
  | datetime (t : Timestamp)
  | bearertoken (t : BearerToken)
  | boolean (b : Bool)
  | any (a : Any)
  /-- No value, where an optional one, a list or a map could stand. -/
  | absent (type : WireType)
  /-- The value of an optional. -/
  | present (v : Wire)
  | list (item : WireType) (items : List Wire)
  | map (key value : WireType) (entries : List (Wire × Wire))
  deriving Inhabited

namespace Wire

/-- The type of a value. -/
def type : Wire → WireType
  | string _ => .string
  | bool _ => .bool
  | integer bits _ => .integer bits
  | unsigned bits _ => .unsigned bits
  | single _ => .single
  | real _ => .real
  | safelong _ => .safelong
  | double _ => .double
  | binary _ => .binary
  | uuid _ => .uuid
  | rid _ => .rid
  | datetime _ => .datetime
  | bearertoken _ => .bearertoken
  | boolean _ => .boolean
  | any _ => .any
  | absent type => type
  | present v => .optional v.type
  | list item _ => .list item
  | map key value _ => .map key value

/-- The value a destination holds before anything is read into it. -/
def zero : WireType → Wire
  | .string => .string []
  | .bool => .bool false
  | .integer bits => .integer bits 0
  | .unsigned bits => .unsigned bits 0
  | .single => .single .zero
  | .real => .real .zero
  | .safelong => .safelong ⟨0⟩
  | .double => .double .zero
  | .binary => .binary []
  | .uuid => .uuid .zero
  | .rid => .rid ⟨[], [], [], []⟩
  | .datetime => .datetime .zero
  | .bearertoken => .bearertoken ⟨[]⟩
  | .boolean => .boolean false
  | .any => .any .null
  | .optional item => .absent (.optional item)
  | .list item => .absent (.list item)
  | .map key value => .absent (.map key value)

end Wire

/-- Why a text spells no double, as a fault. -/
def Double.WireError.fault (e : Double.WireError) : Fault := .plain e.message

/-- The double of single precision nearest to a double. -/
def Double.toSingle (d : Double) : Double := Double.widen d.negative d.narrow

end Accord
