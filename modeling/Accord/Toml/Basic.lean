/-
# TOML values

A TOML document is a table. Its values are texts, numbers, truth values, times, lists and
tables; a table that is continued from header to header is a list of tables.

## Main definitions

* `Toml`: a value;
* `Toml.typeName`: the name of the type of a value;
* `Toml.Key`: the names that lead to a value from the root;
* `Toml.Key.text`: a key as it is written.
-/

import Accord.Text.Utf8

namespace Accord

/-- A TOML value. -/
inductive Toml where
  | text (t : Text)
  | integer (n : Int)
  /-- A number with a fraction or an exponent, as it is spelled. -/
  | decimal (spelling : Text)
  | flag (b : Bool)
  /-- A date, a time or both, as it is spelled. -/
  | time (spelling : Text)
  | list (items : List Toml)
  | table (entries : List (Text × Toml))
  | tables (items : List (List (Text × Toml)))
  deriving Repr, Inhabited

namespace Toml

/-- The name of the type of a value. -/
def typeName : Toml → Text
  | text _ => "string"
  | integer _ => "int64"
  | decimal _ => "float64"
  | flag _ => "bool"
  | time _ => "time.Time"
  | list _ => "[]any"
  | table _ => "map[string]any"
  | tables _ => "[]map[string]any"

/-- The names that lead to a value from the root. -/
abbrev Key := List Text

namespace Key

/-- A character of a name that stands without quotes. -/
def isBareChar (c : Char) : Bool := c.isAlphanum || c = '_' || c = '-'

/-- A character of a name inside quotes. -/
def quoteChar (c : Char) : Text :=
  match c with
  | '"' => "\\\""
  | '\\' => "\\\\"
  | '\t' => "\\t"
  | '\n' => "\\n"
  | '\r' => "\\r"
  | _ =>
    if c.toNat = 8 then "\\b"
    else if c.toNat = 12 then "\\f"
    else if c.toNat < 0x20 || c.toNat = 0x7F then "\\u" ++ Text.hex 4 c.toNat
    else String.utf8EncodeChar c

/-- A name as it is written: in quotes unless letters, digits, hyphens and underscores are all
that it holds. -/
def nameText (t : Text) : Text :=
  if !t.isEmpty && t.chars.all isBareChar then t
  else "\"" ++ t.chars.flatMap quoteChar ++ "\""

/-- A key as it is written. -/
def text (k : Key) : Text := Text.join "." (k.map nameText)

end Key

end Toml

end Accord
