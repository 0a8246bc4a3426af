/-
# Plain text

Path, query and header parameters carry a value as plain text: strings as they are,
numbers and booleans in decimal form, and every primitive in its own text form.
Lists, maps and other compounds have none.

A value is first told by its type, which settles the primitives and the common
scalars. What is left, and every type that was declared under a name of its own, is
told by its kind.

## Main definitions

* `Declared`: whether a type stands under its own name;
* `Wire.plainAs`, `Wire.plain`: the plain text of a value;
* `Wire.display`: what a reader is shown of a primitive;
* `Wire.ofPlainAs`, `Wire.ofPlain`: the value of a type with a plain text.
-/

import Accord.Wire.Basic

namespace Accord

namespace Boolean

/-- The words for a truth value in plain text. -/
def words : List (Text × Bool) :=
  [("1", true), ("t", true), ("T", true), ("TRUE", true), ("true", true), ("True", true),
   ("0", false), ("f", false), ("F", false), ("FALSE", false), ("false", false),
   ("False", false)]

/-- The truth value of a word. -/
def ofWord? (t : Text) : Option Bool := words.lookup t

end Boolean

/-- How a type is declared: as it is, or anew under a name. A type under a new name keeps the kind
of the type that it is declared over, and loses its text form. -/
inductive Declared where
  | asIs
  | named (spelling : Text)
  deriving DecidableEq, Repr

namespace Wire

/-! ### Writing -/

/-- How the type of an untyped value is spelled. -/
def anySpelling : Any → Text
  | .null => "<nil>"
  | .bool _ => "bool"
  | .number _ => "float64"
  | .string _ => "string"
  | .list _ => "[]interface \x7b\x7d"
  | .map _ => "map[string]interface \x7b\x7d"

/-- The fault of a value without a plain text. -/
def unplain (spelling : Text) : Fault :=
  .plain ("cannot encode " ++ spelling ++ " as plain text")

/-- The plain text of a value that is told by its type: a primitive, or a common scalar. -/
def plainByType : Wire → Option (Except Fault Text)
  | safelong s => some (s.text?.mapError SafeLong.Error.fault)
  | double d => some (.ok d.text)
  | binary bytes => some (.ok (Base64.encode bytes))
  | uuid u => some (.ok u.text)
  | rid r => some (r.text?.mapError fun e => .plain e.message)
  | datetime t => some (.ok t.text)
  | bearertoken t => some (t.text?.mapError fun e => .plain e.message)
  | boolean b => some (.ok (Boolean.text b))
  | string t => some (.ok t)
  | bool b => some (.ok (Boolean.text b))
  | integer bits n => if bits = 32 || bits = 64 then some (.ok (Text.ofInt n)) else none
  | real d => some (.ok d.text)
  | any (.bool b) => some (.ok (Boolean.text b))
  | any (.number d) => some (.ok d.text)
  | any (.string t) => some (.ok t)
  | _ => none

/-- The plain text of a value that is told by its kind: a scalar, or what a primitive is made of
if that is a scalar. -/
def plainByKind : Wire → Option Text
  | string t => some t
  | bool b => some (Boolean.text b)
  | integer _ n => some (Text.ofInt n)
  | single d => some d.text
  | real d => some d.text
  | safelong s => some s.text
  | double d => some d.text
  | bearertoken t => some t.value
  | boolean b => some (Boolean.text b)
  | _ => none

/-- How the type of a value is spelled. -/
def spellingAs : Declared → Wire → Text
  | .named spelling, _ => spelling
  | .asIs, any a => anySpelling a
  | .asIs, v => v.type.spelling

/-- The plain text of a value whose type is declared in some way. -/
def plainAs (d : Declared) (v : Wire) : Except Fault Text :=
  let told := match d with
    | .asIs => v.plainByType
    | .named _ => none
  (told.or (v.plainByKind.map .ok)).getD (.error (unplain (v.spellingAs d)))

/-- The plain text of a value. -/
def plain (v : Wire) : Except Fault Text := v.plainAs .asIs

/-- What a reader is shown of a primitive, also of one that may not be sent. -/
def display : Wire → Text
  | bearertoken t => t.shown
  | safelong s => s.text
  | rid r => r.text
  | v => v.plain.toOption.getD []

/-! ### Reading -/

/-- Reads a truth value. -/
def readBool (wrap : Bool → Wire) (s : Text) : Except Fault Wire :=
  match Boolean.ofWord? s with
  | some b => .ok (wrap b)
  | none => .error (.plain ("invalid boolean " ++ s.quote ++ ": " ++
      NumberError.syntaxError.message "ParseBool" s))

/-- Reads an integer of a number of bits. -/
def readInteger (bits : Nat) (wrap : Int → Wire) (s : Text) : Except Fault Wire :=
  match Integer.read bits s with
  | .ok n => .ok (wrap n)
  | .error e =>
    .error (.plain ("invalid integer " ++ s.quote ++ ": " ++ e.message "ParseInt" s))

/-- Reads a double. -/
def readDouble (wrap : Double → Wire) (s : Text) : Except Fault Wire :=
  match Double.ofText s with
  | .ok d => .ok (wrap d)
  | .error e => .error e.fault

/-- Reads a primitive in its own text form. -/
def readOwn {α ε : Type} (read : Text → Except ε α) (wrap : α → Wire) (fault : ε → Fault)
    (s : Text) : Except Fault Wire :=
  match read s with
  | .ok a => .ok (wrap a)
  | .error e => .error (fault e)

/-- The reading of a type that is told by the type: a primitive, or a common scalar. -/
def readByType : WireType → Option (Text → Except Fault Wire)
  | .safelong => some (readOwn SafeLong.ofText safelong SafeLong.Error.fault)
  | .double => some (readDouble double)
  | .binary => some (readOwn Binary.ofText binary fun e => .plain e.message)
  | .uuid => some (readOwn Uuid.ofText uuid fun e => .plain e.message)
  | .rid => some (readOwn ResourceId.ofText rid fun e => .plain e.message)
  | .datetime => some fun s =>
    readOwn Timestamp.ofText datetime (fun e => .plain (e.message s)) s
  | .bearertoken => some (readOwn BearerToken.ofText bearertoken fun e => .plain e.message)
  | .boolean => some (readOwn Boolean.ofText boolean fun e => .plain e.message)
  | .string => some fun s => .ok (string s)
  | .bool => some (readBool bool)
  | .integer bits => if bits = 32 then some (readInteger bits (integer bits)) else none
  | .real => some (readDouble real)
  | _ => none

/-- The reading of a type that is told by its kind: a scalar, or a primitive that is made of
one. -/
def readByKind : WireType → Option (Text → Except Fault Wire)
  | .string => some fun s => .ok (string s)
  | .bool => some (readBool bool)
  | .integer bits => some (readInteger bits (integer bits))
  | .single => some (readDouble fun d => single d.toSingle)
  | .real => some (readDouble real)
  | .safelong => some (readInteger 64 fun n => safelong ⟨n⟩)
  | .double => some (readDouble double)
  | .bearertoken => some fun s => .ok (bearertoken ⟨s⟩)
  | .boolean => some (readBool boolean)
  | _ => none

/-- The value with a plain text of a type that is declared in some way. -/
def ofPlainAs (d : Declared) (type : WireType) (s : Text) : Except Fault Wire :=
  let (told, spelling) := match d with
    | .asIs => (readByType type, type.spelling)
    | .named spelling => (none, spelling)
  match told.or (readByKind type) with
  | some read => read s
  | none => .error (.plain ("cannot decode plain text into *" ++ spelling))

/-- The value of a type with a plain text. -/
def ofPlain (type : WireType) (s : Text) : Except Fault Wire := ofPlainAs .asIs type s

end Wire

end Accord
