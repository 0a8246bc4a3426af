/-
# Headers

The headers of a message map names to lists of values. Names that differ in case
only are the same name, and are kept in their canonical form: the first letter and
each letter after a hyphen in upper case, the others in lower case. A name with a
byte that no name may have is kept as it is.

## Main definitions

* `Header`: names with their values;
* `Header.canonical`: the canonical form of a name;
* `Header.add`, `Header.set`, `Header.values`, `Header.get`.
-/

import Accord.Text.Basic

namespace Accord

/-- The names of headers with their values. -/
abbrev Header := List (Text × List Text)

namespace Header

/-- The punctuation that may stand in a name. -/
def punctuation : Text := "!#$%&'*+-.^_\x60|~"

/-- Whether a byte may stand in a name. -/
def isNameByte (b : UInt8) : Bool :=
  Text.isLetterByte b || Text.isDigitByte b || punctuation.contains b

/-- Whether a text is a name. -/
def isName (t : Text) : Bool := !t.isEmpty && t.all isNameByte

/-- The canonical form of a name's rest; `start` tells whether a word starts there. -/
def canonicalFrom : (start : Bool) → Text → Text
  | _, [] => []
  | start, b :: rest =>
    (if start then Text.upperByte b else Text.lowerByte b) ::
      canonicalFrom (b = Text.byte '-') rest

/-- The canonical form of a name. -/
def canonical (name : Text) : Text :=
  if name.all isNameByte then canonicalFrom true name else name

variable (h : Header)

/-- The values of a name in order. -/
def values (name : Text) : List Text := (h.lookup (canonical name)).getD []

/-- The first value of a name, empty if there is none. -/
def get (name : Text) : Text := (values h name).headD []

/-- One more value of a name. -/
def add (name value : Text) : Header :=
  Text.upsert (canonical name) (values h name ++ [value]) h

/-- The only value of a name, whatever it had before. -/
def set (name value : Text) : Header := Text.upsert (canonical name) [value] h

end Header

end Accord
