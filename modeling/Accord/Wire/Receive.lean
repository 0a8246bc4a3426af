/-
# Reading into a destination

A destination holds a value before anything is read into it. A reading may look at
that value, stores values in its place, and may fail at any point; what has been
stored by then stays. Each primitive has a reading of its text, some also one of
their JSON, and a plain text is read into the destination of any scalar.

## Main definitions

* `Into`: a reading into a destination, with `Into.store`, `Into.part` and `Into.runFrom`;
* `SafeLong.receiveText`, `SafeLong.receiveJson` and so on: the readings of the primitives;
* `Wire.receivePlain`: a plain text is read into a value;
* `Destination`, `Wire.receivePlainAt`: what is told of a destination that holds no scalar;
* `Wire.receiveOwnJson`: a JSON text is read by the rules of a primitive.
-/

import Accord.Wire.Plain

namespace Accord

/-- Readings into a destination. -/
abbrev Into (ε σ : Type) : Type → Type := ExceptT ε (StateM σ)

namespace Into

variable {ε ε' σ τ α : Type}

/-- Stores a value that was made apart from the destination. -/
def store (made : Except ε σ) : Into ε σ Unit := do
  let a ← liftExcept made
  set a

/-- Reads into what a destination is made of. The destination is made of what is there afterwards,
also if the reading fails. -/
def part (held : σ) (wrap : σ → τ) (fault : ε → ε') (p : Into ε σ Unit) :
    Into ε' τ Unit :=
  ExceptT.mk do
    let (outcome, after) := p held
    set (wrap after)
    return outcome.mapError fault

/-- Runs on a destination of its own, and gives what it holds in the end. -/
def runFrom (start : σ) (p : Into ε σ α) : Except ε (α × σ) :=
  match p start with
  | (.ok a, after) => .ok (a, after)
  | (.error e, _) => .error e

end Into

/-! ### Primitives -/

namespace SafeLong

/-- Reads the plain text form into a destination. -/
def receiveText (t : Text) : Into Error SafeLong Unit :=
  match Integer.read 64 t with
  | .error .outOfRange => throw (.outOfRange t)
  | .error cause => throw (.notInteger t cause)
  | .ok n => Into.store (ofInt n)

/-- Reads the JSON form into a destination. -/
def receiveJson (json : Text) : Into Error SafeLong Unit :=
  let t := json.trim
  if hasFraction t then
    match Double.read t with
    | .error cause => throw (.notNumber t cause)
    | .ok d =>
      match d.toInt? with
      | none => throw (.outOfRange t)
      | some n => if (SafeLong.mk n).valid then set (SafeLong.mk n) else throw (.outOfRange t)
  else receiveText t

end SafeLong

namespace Double

/-- Reads the plain text form into a destination. -/
def receiveText (t : Text) : Into WireError Double Unit :=
  match ofWord? t with
  | some d => set d
  | none =>
    match read t with
    | .error cause => throw (.notNumber t cause)
    | .ok d => set d

/-- Reads the JSON form into a destination. A string is one of the words, whose plain text is then
read; a `null` stands for zero. -/
def receiveJson (json : Text) : Into WireError Double Unit :=
  let t := json.trim
  if t.head? = some (Text.byte '"') then
    match (Json.read t).bind Json.text? with
    | .error _ => throw .malformed
    | .ok s => if (ofWord? s).isSome then receiveText s else throw (.notWord t)
  else
    match Json.read t with
    | .error _ => throw (.notJsonNumber t)
    | .ok .null => set zero
    | .ok j =>
      match j.double? with
      | .error _ => throw (.notJsonNumber t)
      | .ok d => set d

end Double

namespace Binary

/-- Reads the plain text form into a destination. -/
def receiveText (t : Text) : Into Error Text Unit :=
  match Base64.decode t with
  | .error offset => throw (.notBase64 offset)
  | .ok bytes => set bytes

/-- Reads the JSON form into a destination. -/
def receiveJson (json : Text) : Into Error Text Unit :=
  let t := json.trim
  let quote := some (Text.byte '"')
  if t.length < 2 || t.head? != quote || t.getLast? != quote then throw (.notString t)
  else receiveText ((t.drop 1).dropLast)

end Binary

namespace Boolean

/-- Reads the plain text form into a destination. -/
def receiveText (t : Text) : Into Error Bool Unit :=
  if t = "true" then set true
  else if t = "false" then set false
  else throw (.notBoolean t)

/-- Reads the JSON form into a destination. -/
def receiveJson (json : Text) : Into Error Bool Unit := receiveText json.trim

end Boolean

/-- Reads the plain text form into a destination. -/
def Uuid.receiveText (t : Text) : Into Uuid.Error Uuid Unit := Into.store (Uuid.ofText t)

/-- Reads the plain text form into a destination. -/
def ResourceId.receiveText (t : Text) : Into ResourceId.Error ResourceId Unit :=
  Into.store (ResourceId.ofText t)

/-- Reads the plain text form into a destination. -/
def Timestamp.receiveText (t : Text) : Into Timestamp.Error Timestamp Unit :=
  Into.store (Timestamp.ofText t)

/-- Reads the plain text form into a destination. -/
def BearerToken.receiveText (t : Text) : Into BearerToken.Error BearerToken Unit :=
  Into.store (BearerToken.ofText t)

/-! ### Values -/

/-- What is handed over as a destination. -/
inductive Destination where
  /-- The place of a value, whose type is declared in some way. -/
  | place (d : Declared)
  /-- The place of a value that is made of others and has no text form. -/
  | compound (spelling : Text)
  /-- A value that stands for no place, or a pointer to none. -/
  | nowhere (spelling : Text)
  deriving DecidableEq, Repr

namespace Wire

/-- Reads a double apart from the destination. -/
def receiveReal (wrap : Double → Wire) (s : Text) : Into Fault Wire Unit :=
  Into.store (((Into.runFrom .zero (Double.receiveText s)).map fun (_, d) => wrap d).mapError
    Double.WireError.fault)

/-- The reading of a plain text that is told by the type of the destination: a primitive, or a
common scalar. -/
def receiveByType (s : Text) : Wire → Option (Into Fault Wire Unit)
  | safelong held => some (Into.part held safelong SafeLong.Error.fault (SafeLong.receiveText s))
  | double held => some (Into.part held double Double.WireError.fault (Double.receiveText s))
  | binary held => some (Into.part held binary (fun e => .plain e.message) (Binary.receiveText s))
  | uuid held => some (Into.part held uuid (fun e => .plain e.message) (Uuid.receiveText s))
  | rid held => some (Into.part held rid (fun e => .plain e.message) (ResourceId.receiveText s))
  | datetime held =>
    some (Into.part held datetime (fun e => .plain (e.message s)) (Timestamp.receiveText s))
  | bearertoken held =>
    some (Into.part held bearertoken (fun e => .plain e.message) (BearerToken.receiveText s))
  | boolean held =>
    some (Into.part held boolean (fun e => .plain e.message) (Boolean.receiveText s))
  | string _ => some (set (string s))
  | bool _ => some (Into.store (readBool bool s))
  | integer bits _ =>
    if bits = 32 then some (Into.store (readInteger bits (integer bits) s)) else none
  | real _ => some (receiveReal real s)
  | _ => none

/-- The reading of a plain text that is told by the kind of the destination: a scalar, or a
primitive that is made of one. -/
def receiveByKind (s : Text) : Wire → Option (Into Fault Wire Unit)
  | string _ => some (set (string s))
  | bool _ => some (Into.store (readBool bool s))
  | integer bits _ => some (Into.store (readInteger bits (integer bits) s))
  | single _ => some (receiveReal (fun d => single d.toSingle) s)
  | real _ => some (receiveReal real s)
  | safelong _ => some (Into.store (readInteger 64 (fun n => safelong ⟨n⟩) s))
  | double _ => some (receiveReal double s)
  | bearertoken _ => some (set (bearertoken ⟨s⟩))
  | boolean _ => some (Into.store (readBool boolean s))
  | _ => none

/-- Reads with the reading that was told, if there is one for the type of the destination. -/
def receiveTold (spelling : Text) (told : Option (Into Fault Wire Unit)) : Into Fault Wire Unit :=
  told.getD (throw (.plain ("cannot decode plain text into *" ++ spelling)))

/-- Reads a plain text into a destination whose type is declared in some way. -/
def receivePlain (d : Declared) (s : Text) : Into Fault Wire Unit := do
  let held ← get
  match d with
  | .asIs =>
    receiveTold held.type.spelling ((receiveByType s held).or (receiveByKind s held))
  | .named spelling => receiveTold spelling (receiveByKind s held)

/-- Reads a plain text into what is handed over as a destination. -/
def receivePlainAt (s : Text) : Destination → Into Fault Wire Unit
  | .place d => receivePlain d s
  | .compound spelling => receiveTold spelling none
  | .nowhere spelling =>
    throw (.plain ("cannot decode plain text into non-pointer " ++ spelling))

/-- Reads a JSON text by the rules of a primitive. Only a few have some; nothing is read into the
destination of another type. -/
def receiveOwnJson (t : Text) : Into Fault Wire Unit := do
  match ← get with
  | safelong held => Into.part held safelong SafeLong.Error.fault (SafeLong.receiveJson t)
  | double held => Into.part held double Double.WireError.fault (Double.receiveJson t)
  | binary held => Into.part held binary (fun e => .plain e.message) (Binary.receiveJson t)
  | boolean held => Into.part held boolean (fun e => .plain e.message) (Boolean.receiveJson t)
  | _ => throw Fault.json

end Wire

end Accord
