/-
# Payloads

A payload is a value that is sent in a body: how its type is spelled, what its JSON
is, and what its bytes are if it can be sent as they are. A receiver takes what
arrives in a body.

## Main definitions

* `Payload`: a value to send, with `Payload.encode`;
* `Receiver`: what is made of a received body.
-/

import Accord.Wire.Json
import Accord.Wire.Binary

namespace Accord

/-- A value to send. -/
structure Payload where
  /-- How the type of the value is spelled. -/
  spelling : Text
  json : Except Fault Text
  bytes? : Option Text := none
  deriving Inhabited

namespace Payload

/-- An untyped value; nothing is sent for `null`. -/
def ofAny? : Any → Option Payload
  | .null => none
  | a => some ⟨Wire.anySpelling a, .ok a.json, none⟩

/-- Bytes. -/
def ofBytes (data : Text) : Payload := ⟨"[]uint8", .ok (Binary.json data), some data⟩

/-- A value as the content of a binary body. -/
def offer (p : Payload) : BinaryBody :=
  match p.bytes? with
  | some data => .bytes data
  | none => .other p.spelling

/-- The body of a value. -/
def encode (codec : Codec) (p : Payload) : Except Fault Text :=
  match codec with
  | .json => p.json
  | .binary => p.offer.content

/-- The body of a value that is written to a stream, where JSON ends in a line feed. -/
def encodeStream (codec : Codec) (p : Payload) : Except Fault Text :=
  match codec with
  | .json => p.json.map (· ++ "\n")
  | .binary => p.offer.content

end Payload

/-- What is made of a received body. -/
structure Receiver (α : Type) where
  /-- What stands for a body that does not come. -/
  absent : α
  /-- The value in a body. -/
  decode : Codec → Text → Except Fault α
  /-- Whether a body is asked for at all. -/
  wanted : Bool := true

namespace Receiver

/-- No body. -/
def nothing : Receiver Unit := ⟨(), fun _ _ => .ok (), false⟩

/-- A value that is read from JSON, of a type with a spelling. -/
def json {α : Type} (spelling : Text) (absent : α) (read : Text → Except Fault α) :
    Receiver α where
  absent := absent
  decode codec body :=
    match codec with
    | .json => read body
    | .binary =>
      .error (.plain ("binary codec cannot unmarshal into *" ++ spelling))

/-- Bytes, as they are or from JSON. -/
def bytes : Receiver Text where
  absent := []
  decode codec body :=
    match codec with
    | .binary => .ok body
    | .json => do
      match ← Wire.ofJsonText .binary body with
      | .binary data => return data
      | _ => return []

end Receiver

end Accord
