/-
# Syntax of generated code

The part of Go that generated code is made of: types, expressions, statements and
declarations. A name from another package carries the path it is imported from; which
spelling the package gets in a file is decided when the file is printed.

## Main definitions

* `Ty`: a type;
* `Expr`, `Stmt`: expressions and statements;
* `Decl`: a declaration with its documentation;
* `File`: a source file;
* `Ty.paths`, `Expr.paths`, `File.paths`: the imported paths in the order of the text.
-/

import Accord.Text.Basic

namespace Accord.Source

/-- A type. -/
inductive Ty where
  | ident (name : Text)
  | qualified (path name : Text)
  | pointer (t : Ty)
  | slice (t : Ty)
  | map (key value : Ty)
  /-- The type of a last parameter that takes any number of arguments. -/
  | variadic (t : Ty)
  | func (param result : Ty)
  deriving DecidableEq, Repr, Inhabited

/-- A parameter with its type. -/
structure Param where
  name : Text
  type : Ty
  deriving DecidableEq, Repr

/-- The parameters and results of a function. -/
structure Signature where
  params : List Param
  results : List Ty
  deriving DecidableEq, Repr

mutual

/-- An expression. -/
inductive Expr where
  | ident (name : Text)
  | qualified (path name : Text)
  | string (value : Text)
  | int (n : Nat)
  | select (e : Expr) (field : Text)
  | call (f : Expr) (args : List Expr)
  /-- A slice that is passed as a number of arguments. -/
  | spread (e : Expr)
  | index (e i : Expr)
  | unary (op : Text) (e : Expr)
  | binary (op : Text) (a b : Expr)
  | type (t : Ty)
  | parens (e : Expr)
  | composite (t : Ty) (elements : List Expr)
  | keyed (t : Ty) (pairs : List (Text × Expr))
  | func (signature : Signature) (body : List Stmt)

/-- A statement. -/
inductive Stmt where
  | expr (e : Expr)
  | define (names : List Text) (value : Expr)
  | assign (target value : Expr)
  | var (name : Text) (t : Ty)
  | ret (values : List Expr)
  | when (condition : Expr) (body : List Stmt)
  | whenDefined (names : List Text) (value condition : Expr) (body : List Stmt)
  | whenDefinedElse (names : List Text) (value condition : Expr) (body : List Stmt)
      (other : Expr) (otherBody : List Stmt)
  | forEach (item : Text) (range : Expr) (body : List Stmt)
  | switch (on : Expr) (cases : List Case)

/-- A case of a switch; without guards it is the default. -/
inductive Case where
  | mk (guards : List Expr) (body : List Stmt)

end

instance : Inhabited Expr := ⟨.int 0⟩

/-- A field of a struct, with its tag. -/
structure StructField where
  name : Text
  type : Ty
  tag : Option Text := none
  deriving DecidableEq, Repr

/-- A method of an interface. -/
structure Method where
  docs : List Text
  name : Text
  signature : Signature
  deriving DecidableEq, Repr

/-- A constant with a string value. -/
structure Constant where
  docs : List Text
  name : Text
  type : Ty
  value : Text
  deriving DecidableEq, Repr

/-- What a declaration declares. -/
inductive Decl where
  | struct (name : Text) (fields : List StructField)
  | interface (name : Text) (methods : List Method)
  | type (name : Text) (t : Ty)
  | constants (cs : List Constant)
  | func (receiver : Option Param) (name : Text) (signature : Signature) (body : List Stmt)

/-- A declaration with its documentation. -/
structure Item where
  docs : List Text
  decl : Decl

/-- A source file. -/
structure File where
  path : Text
  package : Text
  items : List Item

/-! ### Imported paths -/

/-- The paths that a type mentions. -/
def Ty.paths : Ty → List Text
  | ident _ => []
  | qualified path _ => [path]
  | pointer t => t.paths
  | slice t => t.paths
  | map key value => key.paths ++ value.paths
  | variadic t => t.paths
  | func param result => param.paths ++ result.paths

/-- The paths that a signature mentions. -/
def Signature.paths (s : Signature) : List Text :=
  s.params.flatMap (·.type.paths) ++ s.results.flatMap Ty.paths

mutual

/-- The paths that an expression mentions. -/
def Expr.paths : Expr → List Text
  | .ident _ => []
  | .qualified path _ => [path]
  | .string _ => []
  | .int _ => []
  | .select e _ => e.paths
  | .call f args => f.paths ++ Expr.pathsAll args
  | .spread e => e.paths
  | .index e i => e.paths ++ i.paths
  | .unary _ e => e.paths
  | .binary _ a b => a.paths ++ b.paths
  | .type t => t.paths
  | .parens e => e.paths
  | .composite t elements => t.paths ++ Expr.pathsAll elements
  | .keyed t pairs => t.paths ++ Expr.pathsPairs pairs
  | .func signature body => signature.paths ++ Stmt.pathsAll body

/-- The paths that expressions mention. -/
def Expr.pathsAll : List Expr → List Text
  | [] => []
  | e :: rest => e.paths ++ Expr.pathsAll rest

/-- The paths that the values of pairs mention. -/
def Expr.pathsPairs : List (Text × Expr) → List Text
  | [] => []
  | (_, e) :: rest => e.paths ++ Expr.pathsPairs rest

/-- The paths that a statement mentions. -/
def Stmt.paths : Stmt → List Text
  | .expr e => e.paths
  | .define _ value => value.paths
  | .assign target value => target.paths ++ value.paths
  | .var _ t => t.paths
  | .ret values => Expr.pathsAll values
  | .when condition body => condition.paths ++ Stmt.pathsAll body
  | .whenDefined _ value condition body =>
    value.paths ++ condition.paths ++ Stmt.pathsAll body
  | .whenDefinedElse _ value condition body other otherBody =>
    value.paths ++ condition.paths ++ Stmt.pathsAll body ++ other.paths ++
      Stmt.pathsAll otherBody
  | .forEach _ range body => range.paths ++ Stmt.pathsAll body
  | .switch on cases => on.paths ++ Case.pathsAll cases

/-- The paths that statements mention. -/
def Stmt.pathsAll : List Stmt → List Text
  | [] => []
  | s :: rest => s.paths ++ Stmt.pathsAll rest

/-- The paths that the cases of a switch mention. -/
def Case.pathsAll : List Case → List Text
  | [] => []
  | .mk guards body :: rest =>
    Expr.pathsAll guards ++ Stmt.pathsAll body ++ Case.pathsAll rest

end

/-- The paths that a declaration mentions. -/
def Decl.paths : Decl → List Text
  | struct _ fields => fields.flatMap (·.type.paths)
  | interface _ methods => methods.flatMap (·.signature.paths)
  | type _ t => t.paths
  | constants cs => cs.flatMap (·.type.paths)
  | func receiver _ signature body =>
    (receiver.map (·.type.paths)).getD [] ++ signature.paths ++ Stmt.pathsAll body

/-- The paths that a file mentions, in the order of its text. -/
def File.paths (f : File) : List Text := f.items.flatMap (·.decl.paths)

/-! ### Imported names -/

/-- The names that a type takes from other packages. -/
def Ty.imported : Ty → List Text
  | ident _ => []
  | qualified _ name => [name]
  | pointer t => t.imported
  | slice t => t.imported
  | map key value => key.imported ++ value.imported
  | variadic t => t.imported
  | func param result => param.imported ++ result.imported

/-- The names that a signature takes from other packages. -/
def Signature.imported (s : Signature) : List Text :=
  s.params.flatMap (·.type.imported) ++ s.results.flatMap Ty.imported

/-- The names that the types in the head of a declaration take from other packages. -/
def Decl.imported : Decl → List Text
  | struct _ fields => fields.flatMap (·.type.imported)
  | interface _ methods => methods.flatMap (·.signature.imported)
  | type _ t => t.imported
  | constants cs => cs.flatMap (·.type.imported)
  | func _ _ signature _ => signature.imported

/-! ### Shorthands -/

namespace Expr

/-- A composite value with named parts, which are put in order. -/
def record (t : Ty) (pairs : List (Text × Expr)) : Expr := .keyed t (Text.sortKeys pairs)

/-- The absent value. -/
def null : Expr := .ident "nil"

/-- The error variable of generated functions. -/
def err : Expr := .ident "err"

/-- The address of a value. -/
def address (e : Expr) : Expr := .unary "&" e

/-- What a pointer points to. -/
def deref (e : Expr) : Expr := .unary "*" e

/-- A comparison with the absent value. -/
def isNull (e : Expr) : Expr := .binary "==" e null

/-- A comparison with the absent value. -/
def isNotNull (e : Expr) : Expr := .binary "!=" e null

/-- A call of a method. -/
def method (e : Expr) (name : Text) (args : List Expr) : Expr := .call (.select e name) args

/-- A conversion to a type. -/
def convert (t : Ty) (e : Expr) : Expr := .call (.type t) [e]

end Expr

namespace Stmt

/-- Returns results and the error, if there is one. -/
def returnErr (results : List Expr) : Stmt :=
  .when (.isNotNull .err) [.ret (results ++ [.err])]

/-- Calls a function, and returns results and the error, if there is one. -/
def checkErr (call : Expr) (results : List Expr) : Stmt :=
  .whenDefined ["err"] call (.isNotNull .err) [.ret (results ++ [.err])]

end Stmt

namespace Ty

/-- A sequence of bytes. -/
def bytes : Ty := .slice (.ident "byte")

/-- The type of errors. -/
def error : Ty := .ident "error"

/-- The type of strings. -/
def string : Ty := .ident "string"

/-- The type of truth values. -/
def bool : Ty := .ident "bool"

/-- The type of any value. -/
def any : Ty := .ident "any"

end Ty

end Accord.Source
