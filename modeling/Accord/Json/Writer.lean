/-
# Writing JSON

Strings are written so that the text can stand inside a web page: the angle
brackets, the ampersand and the two line separators are escaped along with the
control characters, and a stray byte becomes the replacement character. Maps are
written with their keys in the order of bytes. A value that is passed on unread
keeps the spelling of its numbers and loses the white space between its tokens.

## Main definitions

* `Json.quote`: the string literal of a text;
* `Json.compact`: a JSON text without white space, escaped for the web;
* `Any.json`: the JSON of an untyped value;
* `Any.isWritable`: whether an untyped value has a JSON.
-/

import Accord.Json.Reader
import Accord.Double.Printer

namespace Accord.Json

/-- Whether a character is escaped by number although it is no control character. -/
def isWebUnsafe (c : Char) : Bool :=
  c = '<' || c = '>' || c = '&' || c.toNat = 0x2028 || c.toNat = 0x2029

/-- A character inside a string literal. -/
def quoteChar (c : Char) : Text :=
  match c with
  | '"' => "\\\""
  | '\\' => "\\\\"
  | '\n' => "\\n"
  | '\r' => "\\r"
  | '\t' => "\\t"
  | _ =>
    if c.toNat < 0x20 || isWebUnsafe c then "\\u" ++ Text.hex 4 c.toNat
    else String.utf8EncodeChar c

/-- A symbol inside a string literal. -/
def quoteSymbol : Symbol → Text
  | .char c => quoteChar c
  | .stray _ => "\\ufffd"

/-- The string literal of a text. -/
def quote (t : Text) : Text := "\"" ++ t.symbols.flatMap quoteSymbol ++ "\""

/-- An array of JSON texts. -/
def arrayOf (items : List Text) : Text := "[" ++ Text.join "," items ++ "]"

/-- An object of JSON texts. -/
def objectOf (members : List (Text × Text)) : Text :=
  "\x7b" ++ Text.join "," (members.map fun (k, v) => quote k ++ ":" ++ v) ++ "\x7d"

/-- Where a scan of a JSON text stands. -/
inductive Place where
  | outside
  | inString
  | afterBackslash
  deriving DecidableEq

/-- A symbol of a JSON text in its compact form, and where the scan stands after it. -/
def compactStep (place : Place) (s : Symbol) : Place × Text :=
  match place, s with
  | .outside, .char c =>
    if c = '"' then (.inString, s.bytes)
    else if c.toNat < 0x80 && isSpace c.toUInt8 then (.outside, [])
    else (.outside, s.bytes)
  | .inString, .char c =>
    if c = '"' then (.outside, s.bytes)
    else if c = '\\' then (.afterBackslash, s.bytes)
    else if isWebUnsafe c then (.inString, "\\u" ++ Text.hex 4 c.toNat)
    else (.inString, s.bytes)
  | .afterBackslash, s => (.inString, s.bytes)
  | place, s => (place, s.bytes)

/-- The compact form of the rest of a JSON text. -/
def compactFrom : Place → List Symbol → Text
  | _, [] => []
  | place, s :: rest =>
    let (next, out) := compactStep place s
    out ++ compactFrom next rest

/-- A JSON text without white space between its tokens, escaped for the web. -/
def compact (t : Text) : Text := compactFrom .outside t.symbols

end Accord.Json

namespace Accord.Any

mutual

/-- The JSON of an untyped value. -/
def json : Any → Text
  | .null => "null"
  | .bool true => "true"
  | .bool false => "false"
  | .number d => d.json
  | .string t => Json.quote t
  | .list items => Json.arrayOf (jsons items)
  | .map entries => Json.objectOf (Text.sortKeys (members entries))

/-- The JSON of the elements of a list. -/
def jsons : List Any → List Text
  | [] => []
  | a :: rest => a.json :: jsons rest

/-- The JSON of the entries of a map. -/
def members : List (Text × Any) → List (Text × Text)
  | [] => []
  | (k, a) :: rest => (k, a.json) :: members rest

end

mutual

/-- Whether an untyped value has a JSON: its numbers are finite. -/
def isWritable : Any → Bool
  | .number d => d.isFinite
  | .list items => areWritable items
  | .map entries => entriesWritable entries
  | _ => true

/-- Whether the elements of a list have a JSON. -/
def areWritable : List Any → Bool
  | [] => true
  | a :: rest => a.isWritable && areWritable rest

/-- Whether the entries of a map have a JSON. -/
def entriesWritable : List (Text × Any) → Bool
  | [] => true
  | (_, a) :: rest => a.isWritable && entriesWritable rest

end

end Accord.Any
