/-
# Printing generated code

Files are printed in the one form that the language's formatter gives them. Bodies are
indented by tabs. The names and types of the fields of a struct, of constants and of
the parts of a composite value stand in columns; a comment, or a value of several
lines, starts new columns.

## Main definitions

* `Ty.text`, `Expr.text`: a type or expression;
* `Decl.text`: a declaration;
* `File.text`: a file;
* `Ty.fragment`, `Expr.fragment`: a piece of code on its own.
-/

import Accord.Source.Import
import Accord.Source.Syntax

namespace Accord.Source

/-- The name of a path in a file; none for the file's own path. -/
abbrev Naming := Text → Option Text

/-- A name from a path. -/
def qualifiedText (names : Naming) (path name : Text) : Text :=
  match names path with
  | some package => package ++ "." ++ name
  | none => name

/-- Indentation. -/
def tabs (depth : Nat) : Text := List.replicate depth (Text.byte '\t')

/-- A text filled up with blanks to a width. -/
def padTo (width : Nat) (t : Text) : Text :=
  t ++ List.replicate (width - t.width) (Text.byte ' ')

/-- Texts filled up to one more than the width of the widest. -/
def column (ts : List Text) : List Text :=
  let widest := (ts.map Text.width).foldl max 0
  ts.map (padTo (widest + 1))

/-! ### Types -/

/-- The text of a type. -/
def Ty.text (names : Naming) : Ty → Text
  | ident name => name
  | qualified path name => qualifiedText names path name
  | pointer t => "*" ++ t.text names
  | slice t => "[]" ++ t.text names
  | map key value => "map[" ++ key.text names ++ "]" ++ value.text names
  | variadic t => "..." ++ t.text names
  | func param result => "func(" ++ param.text names ++ ") " ++ result.text names

/-- The text of a parameter. -/
def Param.text (names : Naming) (p : Param) : Text := p.name ++ " " ++ p.type.text names

/-- The text of a signature. -/
def Signature.text (names : Naming) (s : Signature) : Text :=
  let params := "(" ++ Text.join ", " (s.params.map (Param.text names)) ++ ")"
  match s.results with
  | [] => params
  | [t] => params ++ " " ++ t.text names
  | ts => params ++ " (" ++ Text.join ", " (ts.map (Ty.text names)) ++ ")"

/-! ### Comments -/

/-- A line of a comment. -/
def commentLine (line : Text) : Text :=
  if line.startsWith "//" || line.startsWith "/*" then line
  else if line.isEmpty then "//"
  else "// " ++ line

/-- The lines of a comment without blank lines around it, and with one blank line where there
are more. -/
def paragraphs : List Text → List Text
  | [] => []
  | line :: rest =>
    if line.isEmpty then
      match paragraphs rest with
      | [] => []
      | next :: more => if next.isEmpty then next :: more else line :: next :: more
    else line :: paragraphs rest

/-- The text of a comment, with the indentation of what follows it. -/
def commentText (depth : Nat) (docs : List Text) : Text :=
  (paragraphs (docs.dropWhile (·.isEmpty))).flatMap fun line =>
    tabs depth ++ commentLine line ++ "\n"

/-! ### Expressions and statements -/

/-- The size of the name of a part for the decision on columns: none when its value has
several lines. -/
def partSize (part : Text × Text) : Nat :=
  if part.2.contains (Text.byte '\n') then 0 else part.1.length

/-- Whether a part starts new columns after the parts before it. Parts with short names share
columns; otherwise the size of the name is compared with the geometric mean of the sizes so
far, whose product and number are given. -/
def startsColumns (product count previous size : Nat) : Bool :=
  if previous = 0 || size = 0 then true
  else if count = 0 || (previous ≤ 40 && size ≤ 40) then false
  else
    Nat.pow (5 * size) count ≤ Nat.pow 2 count * product ||
      Nat.pow 5 count * product ≤ Nat.pow (2 * size) count

/-- Splits parts into those that share columns. The product and number of the sizes so far
are given. -/
def sections : (product count : Nat) → List (Text × Text) → List (List (Text × Text))
  | _, _, [] => []
  | product, count, part :: rest =>
    let size := partSize part
    let product := if size = 0 then product else product * size
    let count := if size = 0 then count else count + 1
    match rest, sections product count rest with
    | next :: _, shared :: others =>
      if startsColumns product count size (partSize next) then [part] :: shared :: others
      else (part :: shared) :: others
    | _, more => [part] :: more

/-- The lines of parts that share columns. -/
def sectionLines (depth : Nat) (parts : List (Text × Text)) : List Text :=
  List.zipWith (fun name value => tabs depth ++ name ++ value ++ ",\n")
    (column (parts.map fun (part : Text × Text) => part.1 ++ ":")) (parts.map (·.2))

/-- The parts of a composite value. -/
def partsText (depth : Nat) (parts : List (Text × Text)) : Text :=
  match parts with
  | [] => "\x7b\x7d"
  | [(name, value)] => "\x7b" ++ name ++ ": " ++ value ++ "\x7d"
  | parts =>
    let lines := (sections 1 0 parts).flatMap (sectionLines (depth + 1))
    "\x7b\n" ++ lines.flatten ++ tabs depth ++ "\x7d"

mutual

/-- The text of an expression, which starts on a line of the given indentation. -/
def Expr.text (names : Naming) (depth : Nat) : Expr → Text
  | .ident name => name
  | .qualified path name => qualifiedText names path name
  | .string value => value.quote
  | .int n => Text.ofNat n
  | .select e field => e.text names depth ++ "." ++ field
  | .call f args =>
    f.text names depth ++ "(" ++ Text.join ", " (Expr.texts names depth args) ++ ")"
  | .spread e => e.text names depth ++ "..."
  | .index e i => e.text names depth ++ "[" ++ i.text names depth ++ "]"
  | .unary op e => op ++ e.text names depth
  | .binary op a b => a.text names depth ++ " " ++ op ++ " " ++ b.text names depth
  | .type t => t.text names
  | .parens e => "(" ++ e.text names depth ++ ")"
  | .composite t elements =>
    t.text names ++ "\x7b" ++ Text.join ", " (Expr.texts names depth elements) ++ "\x7d"
  | .keyed t pairs =>
    let parts := match pairs with
      | [] => []
      | [_] => Expr.pairTexts names depth pairs
      | _ => Expr.pairTexts names (depth + 1) pairs
    t.text names ++ partsText depth parts
  | .func signature body =>
    "func" ++ signature.text names ++ " \x7b\n" ++ Stmt.texts names (depth + 1) body ++
      tabs depth ++ "\x7d"

/-- The texts of expressions. -/
def Expr.texts (names : Naming) (depth : Nat) : List Expr → List Text
  | [] => []
  | e :: rest => e.text names depth :: Expr.texts names depth rest

/-- The texts of named expressions. -/
def Expr.pairTexts (names : Naming) (depth : Nat) : List (Text × Expr) → List (Text × Text)
  | [] => []
  | (name, e) :: rest => (name, e.text names depth) :: Expr.pairTexts names depth rest

/-- The text of a statement with its indentation. -/
def Stmt.text (names : Naming) (depth : Nat) : Stmt → Text
  | .expr e => tabs depth ++ e.text names depth ++ "\n"
  | .define vars value =>
    tabs depth ++ Text.join ", " vars ++ " := " ++ value.text names depth ++ "\n"
  | .assign target value =>
    tabs depth ++ target.text names depth ++ " = " ++ value.text names depth ++ "\n"
  | .var name t => tabs depth ++ "var " ++ name ++ " " ++ t.text names ++ "\n"
  | .ret values => tabs depth ++ "return " ++ Text.join ", " (Expr.texts names depth values) ++ "\n"
  | .when condition body =>
    tabs depth ++ "if " ++ condition.text names depth ++ " \x7b\n" ++
      Stmt.texts names (depth + 1) body ++ tabs depth ++ "\x7d\n"
  | .whenDefined vars value condition body =>
    tabs depth ++ "if " ++ Text.join ", " vars ++ " := " ++ value.text names depth ++ "; " ++
      condition.text names depth ++ " \x7b\n" ++ Stmt.texts names (depth + 1) body ++
      tabs depth ++ "\x7d\n"
  | .whenDefinedElse vars value condition body other otherBody =>
    tabs depth ++ "if " ++ Text.join ", " vars ++ " := " ++ value.text names depth ++ "; " ++
      condition.text names depth ++ " \x7b\n" ++ Stmt.texts names (depth + 1) body ++
      tabs depth ++ "\x7d else if " ++ other.text names depth ++ " \x7b\n" ++
      Stmt.texts names (depth + 1) otherBody ++ tabs depth ++ "\x7d\n"
  | .forEach item range body =>
    tabs depth ++ "for _, " ++ item ++ " := range " ++ range.text names depth ++ " \x7b\n" ++
      Stmt.texts names (depth + 1) body ++ tabs depth ++ "\x7d\n"
  | .switch on cases =>
    tabs depth ++ "switch " ++ on.text names depth ++ " \x7b\n" ++
      Case.texts names depth cases ++ tabs depth ++ "\x7d\n"

/-- The texts of statements. -/
def Stmt.texts (names : Naming) (depth : Nat) : List Stmt → Text
  | [] => []
  | s :: rest => s.text names depth ++ Stmt.texts names depth rest

/-- The texts of the cases of a switch. -/
def Case.texts (names : Naming) (depth : Nat) : List Case → Text
  | [] => []
  | .mk guards body :: rest =>
    let head : Text :=
      if guards.isEmpty then "default"
      else "case " ++ Text.join ", " (Expr.texts names depth guards)
    tabs depth ++ head ++ ":\n" ++ Stmt.texts names (depth + 1) body ++
      Case.texts names depth rest

end

/-! ### Declarations -/

/-- The lines of the fields of a struct. -/
def fieldLines (names : Naming) (fields : List StructField) : Text :=
  let types := fields.map (·.type.text names)
  let tagged := fields.any (·.tag.isSome)
  let tags := fields.map fun f => f.tag.getD []
  let (labels, types) : List Text × List Text :=
    (column (fields.map (·.name)), if tagged then column types else types)
  let rows := List.zipWith (· ++ ·) labels (List.zipWith (· ++ ·) types tags)
  rows.flatMap fun row => "\t" ++ row ++ "\n"

/-- Splits constants into those that share columns: a comment starts new ones. -/
def constantSections : List Constant → List (List Constant)
  | [] => []
  | c :: rest =>
    match rest, constantSections rest with
    | next :: _, shared :: others =>
      if next.docs.isEmpty then (c :: shared) :: others else [c] :: shared :: others
    | _, more => [c] :: more

/-- The lines of constants that share columns. -/
def constantLines (names : Naming) (cs : List Constant) : Text :=
  let labels := column (cs.map (·.name))
  let types := column (cs.map (·.type.text names))
  let values : List Text := cs.map fun c => "= " ++ c.value.quote ++ "\n"
  let rows := List.zipWith (· ++ ·) labels (List.zipWith (· ++ ·) types values)
  let lines : List Text := List.zipWith (fun c row => commentText 1 c.docs ++ "\t" ++ row) cs rows
  lines.flatten

/-- The text of a declaration. -/
def Decl.text (names : Naming) : Decl → Text
  | struct name fields =>
    if fields.isEmpty then "type " ++ name ++ " struct\x7b\x7d\n"
    else "type " ++ name ++ " struct \x7b\n" ++ fieldLines names fields ++ "\x7d\n"
  | interface name methods =>
    if methods.isEmpty then "type " ++ name ++ " interface\x7b\x7d\n"
    else
      let lines : Text := methods.flatMap fun m =>
        commentText 1 m.docs ++ "\t" ++ m.name ++ m.signature.text names ++ "\n"
      "type " ++ name ++ " interface \x7b\n" ++ lines ++ "\x7d\n"
  | type name t => "type " ++ name ++ " " ++ t.text names ++ "\n"
  | constants cs =>
    "const (\n" ++ (constantSections cs).flatMap (constantLines names) ++ ")\n"
  | func receiver name signature body =>
    let of : Text := match receiver with
      | some p => "(" ++ p.text names ++ ") "
      | none => []
    "func " ++ of ++ name ++ signature.text names ++ " \x7b\n" ++ Stmt.texts names 1 body ++
      "\x7d\n"

/-! ### Files -/

/-- The names of imports. -/
def Import.naming (imports : List Import) : Naming :=
  fun path => (imports.find? (·.path = path)).map (·.name)

/-- The text of a file under a comment. The names of some packages are known. -/
def File.text (known : List (Text × Text)) (header : Text) (f : File) : Text :=
  let imports := Import.assign known (some f.path) f.paths
  let items := f.items.map fun i => commentText 0 i.docs ++ i.decl.text (Import.naming imports)
  commentLine header ++ "\n\npackage " ++ f.package ++ "\n\n" ++ Import.block imports ++
    Text.join "\n" items

/-- A type on its own, with every package named as if nothing were known of it. -/
def Ty.fragment (t : Ty) : Text := t.text (Import.naming (Import.assign [] none t.paths))

/-- An expression on its own. -/
def Expr.fragment (e : Expr) : Text := e.text (Import.naming (Import.assign [] none e.paths)) 0

end Accord.Source
