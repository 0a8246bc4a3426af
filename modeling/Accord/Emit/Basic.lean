/-
# Emission

What all generated declarations share: identifiers are declared as they are needed,
warnings are gathered, and the first failure ends the work.

## Main definitions

* `Emission`: the names and warnings of a run;
* `Emit`: work that declares names and may fail;
* `Emit.declare`, `Emit.resolve`: an identifier, a generated type;
* `Resolver.docLines`: the documentation of a declaration.
-/

import Accord.Emit.Resolver

namespace Accord

open Source (Ty Expr Stmt Scope NameTable)

/-- The names and warnings of a run. -/
structure Emission where
  names : NameTable
  warnings : List Warning := []

/-- Adds warnings. Each external type is warned of once. -/
def addWarnings (sofar new : List Warning) : List Warning :=
  new.foldl (fun ws w => if ws.any (·.type = w.type) then ws else ws ++ [w]) sofar

/-- Work that declares names and may fail. -/
abbrev Emit := StateT Emission (Except Fault)

namespace Emit

/-- Says where a failure happened. -/
def within {α : Type} (context : Text) (work : Emit α) : Emit α :=
  fun s => (work s).mapError (.context context)

/-- Declares an identifier in a package. -/
def declare (package name : Text) : Emit Text := do
  let s ← get
  let (ident, names) ← s.names.declare package name
  set { s with names := names }
  return ident

/-- Declares an identifier in a scope of its own. -/
def declareIn (scope : Scope) (name : Text) : Emit (Text × Scope) := scope.declare name

/-- The scope of the members of a type. -/
def members (owner : TypeName) (seed : List Text) : Emit Scope := do
  return (← get).names.memberScope owner seed

/-- Puts back the scope of the members of a type. -/
def putMembers (owner : TypeName) (scope : Scope) : Emit Unit :=
  modify fun s => { s with names := s.names.putMembers owner scope }

/-- Notes the warnings for a type. -/
def note (r : Resolver) (t : TypeExpr) : Emit Unit :=
  modify fun s => { s with warnings := addWarnings s.warnings (r.warnings t) }

/-- The generated type of a type. -/
def resolve (r : Resolver) (t : TypeExpr) : Emit Ty := do
  note r t
  r.goType t

/-- The generated type of a field. -/
def resolveField (r : Resolver) (owner : TypeName) (t : TypeExpr) : Emit Ty := do
  note r t
  r.fieldType owner t

end Emit

namespace Resolver

variable (r : Resolver)

/-- The documentation of a declaration, with a notice if it should not be used any more. -/
def docLines (docs deprecated : Text) : List Text :=
  if !r.target.comments then []
  else
    let lines := Docs.lines docs
    match Docs.lines deprecated with
    | [] => lines
    | first :: rest =>
      lines ++ (if lines.isEmpty then [] else [[]]) ++ (("Deprecated: " ++ first) :: rest)

/-- A name of the codecs of the runtime library. -/
def codecs (name : Text) : Expr := .qualified r.target.codecsPath name

/-- A name of the runtime library in an expression. -/
def runtimeExpr (name : Text) : Expr := .qualified r.target.runtimePath name

/-- The test that a value is there; none for values that always are. -/
def notEmpty? (t : TypeExpr) (e : Expr) : Option Expr :=
  match r.emptiness t with
  | .never => none
  | .null => some (.isNotNull e)
  | .length => some (.binary "!=" (.call (.ident "len") [e]) (.int 0))
  | .wrapped => some (.isNotNull (.select e "Value"))

/-- The test that a value is not there; none for values that always are. -/
def empty? (t : TypeExpr) (e : Expr) : Option Expr :=
  match r.emptiness t with
  | .never => none
  | .null => some (.isNull e)
  | .length => some (.binary "==" (.call (.ident "len") [e]) (.int 0))
  | .wrapped => some (.isNull (.select e "Value"))

/-- A statement that runs only if a value is there. -/
def ifPresent (t : TypeExpr) (e : Expr) (s : Stmt) : Stmt :=
  match r.notEmpty? t e with
  | some condition => .when condition [s]
  | none => s

/-- Code that encodes a value as JSON. -/
def marshal (e : Expr) : Expr := (r.codecs "JSON").method "Marshal" [e]

/-- Code that decodes JSON data into a place. -/
def unmarshal (data place : Expr) : Expr := (r.codecs "JSON").method "Unmarshal" [data, place]

end Resolver

end Accord
