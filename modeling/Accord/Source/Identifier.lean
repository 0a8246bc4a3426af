/-
# Identifiers of generated code

Contract names come in camel case, kebab case or snake case. Here they become Go
identifiers: exported ones for types and members, unexported ones for fields and
parameters, snake case for file names, and package names of lower-case letters and
digits.

## Main definitions

* `Source.exported`, `Source.unexported`: the identifiers of a name;
* `Source.snake`: the file name of an identifier;
* `Source.packageName`: a package name;
* `Source.isIdentifier`: whether a text is an identifier.
-/

import Accord.Text.CaseMap
import Accord.Text.Category
import Accord.Text.Utf8

namespace Accord.Source

/-- The keywords of the generated language. -/
def keywords : List Text :=
  ["break", "case", "chan", "const", "continue", "default", "defer", "else", "fallthrough",
   "for", "func", "go", "goto", "if", "import", "interface", "map", "package", "range",
   "return", "select", "struct", "switch", "type", "var"]

/-- The identifiers that are declared everywhere. -/
def predeclared : List Text :=
  (["any", "bool", "byte", "comparable", "complex64", "complex128", "error", "float32",
    "float64", "int", "int8", "int16", "int32", "int64", "rune", "string", "uint", "uint8",
    "uint16", "uint32", "uint64", "uintptr", "true", "false", "iota", "nil", "append", "cap",
    "clear", "close", "complex", "copy", "delete", "imag", "len", "make", "max", "min", "new",
    "panic", "print", "println", "real", "recover"] : List String).map
    Text.ofString

/-- The names of the packages that generated code imports. -/
def importNames : List Text := ["conjure", "codecs", "pathtemplate", "context", "fmt"]

/-- Whether an identifier has a meaning of its own everywhere. -/
def isReserved (t : Text) : Bool := keywords.contains t || predeclared.contains t

/-- Whether a character can stand in a word. -/
def isWordChar (c : Char) : Bool := Text.isLetter c || Text.isDigit c

/-- Splits a text into its runs of word characters. The word that is being read comes last
character first. -/
def wordsFrom : (word : List Char) → List Char → List (List Char)
  | word, [] => if word.isEmpty then [] else [word.reverse]
  | word, c :: rest =>
    if isWordChar c then wordsFrom (c :: word) rest
    else if word.isEmpty then wordsFrom [] rest
    else word.reverse :: wordsFrom [] rest

/-- The words of a name. -/
def words (name : Text) : List (List Char) := wordsFrom [] name.chars

/-- A word with its first character changed. -/
def changeFirst (change : Char → Char) : List Char → List Char
  | [] => []
  | c :: rest => change c :: rest

/-- Whether a word starts with a letter. -/
def startsWithLetter : List Char → Bool
  | [] => false
  | c :: _ => Text.isLetter c

/-- The exported identifier of a name: its words with their first characters in upper case. -/
def exported (name : Text) : Text :=
  let ident := (words name).flatMap (changeFirst Text.toUpper)
  Text.ofChars (if startsWithLetter ident then ident else 'X' :: ident)

/-- The first word of an unexported identifier. A word all in upper case is lowered as a
whole. -/
def firstWord (w : List Char) : List Char :=
  let t := Text.ofChars w
  if t.upper = t then t.lower.chars else changeFirst Text.toLower w

/-- The unexported identifier of a name. One that has a meaning of its own ends in an
underscore. -/
def unexported (name : Text) : Text :=
  match words name with
  | [] => "x"
  | w :: rest =>
    let ident := firstWord w ++ rest.flatMap (changeFirst Text.toUpper)
    let t := Text.ofChars (if startsWithLetter ident then ident else 'x' :: ident)
    if isReserved t || importNames.contains t then t ++ "_" else t

/-- Whether a word begins at an upper-case character: after a lower-case character or digit,
or before a lower-case one at the end of a run of upper-case characters. -/
def startsWord (before after : Option Char) : Bool :=
  match before with
  | none => false
  | some b =>
    Text.isLower b || Text.isDigit b ||
      (Text.isUpper b && (after.map Text.isLower).getD false)

/-- The snake case of the rest of an identifier after a character. -/
def snakeFrom : (before : Option Char) → List Char → List Char
  | _, [] => []
  | before, c :: rest =>
    (if Text.isUpper c then
      (if startsWord before rest.head? then ['_'] else []) ++ [Text.toLower c]
    else [c]) ++ snakeFrom (some c) rest

/-- The snake case of an identifier, for file names. -/
def snake (ident : Text) : Text := Text.ofChars (snakeFrom none ident.chars)

/-- Whether a character can stand in a package name. -/
def isPackageChar (c : Char) : Bool :=
  c.toNat < 0x7F && (Text.isLetter c || Text.isDigit c)

/-- The package name of a text: what is left of it in lower case are letters and digits. -/
def packageName (t : Text) : Text :=
  let cs := t.lower.chars.filter isPackageChar
  let name := Text.ofChars cs
  match cs with
  | [] => "api"
  | c :: _ =>
    if Text.isDigit c then "p" ++ name
    else if keywords.contains name then name ++ "_"
    else name

/-- Whether a text is an identifier. -/
def isIdentifier (t : Text) : Bool :=
  let isStart (c : Char) : Bool := Text.isLetter c || c = '_'
  match t.symbols with
  | .char c :: rest =>
    isStart c && (rest.all fun
      | .char c => isStart c || Text.isDigit c
      | .stray _ => false) && !keywords.contains t
  | _ => false

/-- Whether a text names a type: an identifier, possibly with arguments in brackets. -/
def isTypeName (t : Text) : Bool :=
  isIdentifier (t.takeWhile (· != Text.byte '[')) &&
    (!t.contains (Text.byte '[') || t.getLast? = some (Text.byte ']'))

/-- The constant for an error code. -/
def errorConstant (code : Text) : Text :=
  let parts := (Text.split (Text.byte '_') code.lower).filter (!·.isEmpty)
  "Code" ++ parts.flatMap fun (p : Text) => Text.upper (p.take 1) ++ p.drop 1

end Accord.Source
