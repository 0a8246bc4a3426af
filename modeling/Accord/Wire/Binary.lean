/-
# Binary bodies

Binary bodies are taken as they are. What can be sent or received that way is bytes,
a place for bytes, or a stream; anything else is refused.

## Main definitions

* `BinaryBody`: what a caller offers as the content or destination of a binary body;
* `BinaryBody.content`, `BinaryBody.receive`: sending and receiving;
* `Codec`: the two forms of bodies.
-/

import Accord.Fault

namespace Accord

/-- The form of a body. -/
inductive Codec where
  | json
  | binary
  deriving DecidableEq, Repr

/-- The media type of a form. -/
def Codec.contentType : Codec → Text
  | json => "application/json"
  | binary => "application/octet-stream"

/-- What a caller offers as the content or destination of a binary body. -/
inductive BinaryBody where
  | bytes (data : Text)
  /-- A place that holds bytes. -/
  | place (data : Text)
  /-- A stream to read from. -/
  | source (data : Text)
  /-- A buffer, which is read from its start and written at its end. -/
  | buffer (data : Text)
  /-- A value of some other type. -/
  | other (spelling : Text)
  deriving DecidableEq, Repr

namespace BinaryBody

/-- How the type of an offer is spelled. -/
def spelling : BinaryBody → Text
  | bytes _ => "[]uint8"
  | place _ => "*[]uint8"
  | source _ => "*bytes.Reader"
  | buffer _ => "*bytes.Buffer"
  | other spelling => spelling

/-- The bytes that are sent for an offer. -/
def content : BinaryBody → Except Fault Text
  | bytes data => .ok data
  | place data => .ok data
  | source data => .ok data
  | buffer data => .ok data
  | b => .error (.plain ("binary codec cannot marshal " ++ b.spelling))

/-- An offer after it received bytes: a place holds them instead of what it held, a buffer
after what it held. -/
def receive (data : Text) : BinaryBody → Except Fault BinaryBody
  | place _ => .ok (place data)
  | buffer held => .ok (buffer (held ++ data))
  | b => .error (.plain ("binary codec cannot unmarshal into " ++ b.spelling))

end BinaryBody

end Accord
