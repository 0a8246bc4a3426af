/-
# Scopes

A scope hands out identifiers and never the same one twice. A name that is taken gets
an underscore, then a number; after ten tries no spelling is left. A name table holds
the scopes of one generation run: one for each package, one for the members of each
type, and the identifier of each type once it has one.

## Main definitions

* `Scope.declare`: the identifier for a name in a scope;
* `NameTable`: the scopes of a run, with `typeName`, `declare` and `member`.
-/

import Accord.Contract.Basic
import Accord.Fault
import Accord.Source.Identifier

namespace Accord.Source

/-- The identifiers declared in one scope. -/
structure Scope where
  names : List Text := []
  deriving DecidableEq, Repr, Inhabited

namespace Scope

/-- Whether an identifier is declared. -/
def has (s : Scope) (name : Text) : Bool := s.names.contains name

/-- The spellings that are tried for a name, in order. -/
def candidates (name : Text) : List Text :=
  let base : Text := if isReserved name then name ++ "_" else name
  [base, base ++ "_"] ++
    (List.range 8).map fun (n : Nat) => base ++ "_" ++ Text.ofNat (n + 2)

/-- Declares the first free spelling of a name. -/
def declare? (s : Scope) (name : Text) : Option (Text × Scope) :=
  ((candidates name).find? (!s.has ·)).map fun ident => (ident, ⟨ident :: s.names⟩)

/-- The fault of a name without a free spelling. -/
def collision (name : Text) : Fault :=
  .mark .nameCollision ("no free identifier for " ++ name.quote)

/-- Declares the first free spelling of a name. -/
def declare (s : Scope) (name : Text) : Except Fault (Text × Scope) :=
  match s.declare? name with
  | some found => .ok found
  | none => .error (collision name)

end Scope

/-- The members that every generated type may have. -/
def generatedMembers : List Text :=
  ["MarshalJSON", "UnmarshalJSON", "MarshalText", "UnmarshalText", "String", "Build"]

/-- The members of generated errors. -/
def errorMembers : List Text := ["Error", "Code", "Name", "SafeArgNames", "Parameters"]

/-- The variables that generated functions use. -/
def reservedLocals : List Text :=
  ["b", "o", "r", "w", "v", "err", "ctx", "c", "req", "result", "params", "typ", "impl",
   "router", "found", "data", "raw"]

/-- A scope for the parameters and variables of a function. -/
def locals : Scope := ⟨reservedLocals⟩

/-- The scopes of one generation run. -/
structure NameTable where
  packages : List (Text × Scope) := []
  types : List (TypeName × Text) := []
  members : List (TypeName × Scope) := []
  deriving Inhabited

namespace NameTable

/-- The scope of a package. -/
def packageScope (t : NameTable) (package : Text) : Scope :=
  (t.packages.lookup package).getD ⟨["init", "main"]⟩

/-- Declares an identifier in a package. -/
def declare (t : NameTable) (package name : Text) : Except Fault (Text × NameTable) := do
  let (ident, scope) ← (t.packageScope package).declare name
  return (ident, { t with packages := Text.upsert package scope t.packages })

/-- The identifier of a type, which is declared in its package on first use. -/
def typeName (t : NameTable) (packageOf : TypeName → Text) (n : TypeName) :
    Except Fault (Text × NameTable) :=
  match t.types.lookup n with
  | some ident => .ok (ident, t)
  | none => do
    let (ident, t) ← (t.declare (packageOf n) (exported n.name)).mapError
      (.context ("type " ++ n.text))
    return (ident, { t with types := (n, ident) :: t.types })

/-- Declares the identifiers of types, as far as there are free spellings. -/
def registerSorted (packageOf : TypeName → Text) :
    NameTable → List TypeName → Except Fault Unit × NameTable
  | t, [] => (.ok (), t)
  | t, n :: rest =>
    match t.typeName packageOf n with
    | .ok (_, t) => registerSorted packageOf t rest
    | .error e => (.error e, t)

/-- Declares the identifiers of types in order, so that they do not depend on the order in
which code is generated. -/
def register (t : NameTable) (packageOf : TypeName → Text) (names : List TypeName) :
    Except Fault Unit × NameTable :=
  registerSorted packageOf t (names.mergeSort TypeName.le)

/-- The scope of the members of a type. The first use seeds it. -/
def memberScope (t : NameTable) (owner : TypeName) (seed : List Text) : Scope :=
  (t.members.lookup owner).getD ⟨generatedMembers ++ seed⟩

/-- Puts back the scope of the members of a type. -/
def putMembers (t : NameTable) (owner : TypeName) (scope : Scope) : NameTable :=
  { t with members := (owner, scope) :: t.members.filter (·.1 != owner) }

/-- Declares a member of a type. -/
def member (t : NameTable) (owner : TypeName) (seed : List Text) (name : Text) :
    Except Fault Text × NameTable :=
  let scope := t.memberScope owner seed
  match scope.declare name with
  | .ok (ident, scope) => (.ok ident, t.putMembers owner scope)
  | .error e => (.error e, t.putMembers owner scope)

end NameTable

end Accord.Source
