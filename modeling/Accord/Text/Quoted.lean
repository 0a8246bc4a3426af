/-
# Quoted texts

The quoted form of a text in messages and in generated source: double quotes
around it, a backslash before a quote or a backslash, short escapes for the usual
control characters, and numbered escapes for what has no visible form. Stray bytes
are written as two hexadecimal digits.
-/

import Accord.Text.Category

namespace Accord.Text

/-- The quoted form of a character. -/
def quoteChar (c : Char) : Text :=
  match c with
  | '"' => "\\\""
  | '\\' => "\\\\"
  | '\n' => "\\n"
  | '\r' => "\\r"
  | '\t' => "\\t"
  | _ =>
    if isGraphic c then ofChars [c]
    else match c.toNat with
      | 7 => "\\a"
      | 8 => "\\b"
      | 11 => "\\v"
      | 12 => "\\f"
      | n =>
        if n < 0x20 || n = 0x7F then "\\x" ++ hex 2 n
        else if n < 0x10000 then "\\u" ++ hex 4 n
        else "\\U" ++ hex 8 n

/-- The quoted form of a symbol. -/
def quoteSymbol : Symbol → Text
  | .char c => quoteChar c
  | .stray b => "\\x" ++ hex 2 b.toNat

/-- The quoted form of a text. -/
def quote (t : Text) : Text := "\"" ++ t.symbols.flatMap quoteSymbol ++ "\""

end Accord.Text
