/-
# Cookies

A cookie is a name with a value. Writing one drops the bytes that no value may have
and puts a value with a space or a comma in quotes; a cookie without a proper name
is written as nothing. A line of cookies is read as a whole or not at all.

## Main definitions

* `Cookie`: a name with a value;
* `Cookie.text`: a cookie as it is sent;
* `Cookie.ofLine?`: the cookies of a line.
-/

import Accord.Http.Header

namespace Accord

/-- A name with a value. -/
structure Cookie where
  name : Text
  value : Text
  deriving DecidableEq, Repr

namespace Cookie

/-- Whether a byte may stand in a value. -/
def isValueByte (b : UInt8) : Bool :=
  0x20 ≤ b && b < 0x7f && b != Text.byte '"' && b != Text.byte ';' && b != Text.byte '\\'

/-- A value as it is sent. -/
def sentValue (value : Text) : Text :=
  let kept := value.filter isValueByte
  if kept.any fun b => b = Text.byte ' ' || b = Text.byte ',' then "\"" ++ kept ++ "\""
  else kept

/-- A cookie as it is sent. -/
def text (c : Cookie) : Text :=
  if Header.isName c.name then c.name ++ "=" ++ sentValue c.value else []

/-- Whether a byte is white space between the parts of a line. -/
def isBlank (b : UInt8) : Bool :=
  b = Text.byte ' ' || b = Text.byte '\t' || b = Text.byte '\n' || b = Text.byte '\r'

/-- A value without the quotes around it. -/
def unquoted (value : Text) : Text :=
  if 1 < value.length && value.head? = some (Text.byte '"') &&
      value.getLast? = some (Text.byte '"') then
    (value.drop 1).dropLast
  else value

/-- The cookie of a part of a line. -/
def ofPart? (part : Text) : Option Cookie := do
  let (name, value) ← Text.cut? (Text.byte '=') (Text.trimWhile isBlank part)
  let value := unquoted value
  if Header.isName name && value.all isValueByte then some ⟨name, value⟩ else none

/-- The cookies of a line, if every part of it is one. -/
def ofLine? (line : Text) : Option (List Cookie) :=
  (Text.split (Text.byte ';') (Text.trimWhile isBlank line)).mapM ofPart?

end Cookie

end Accord
