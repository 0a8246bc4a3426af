/-
# Resolving types

A resolver maps the types of a contract to types of the generated language. It also
answers the questions that generated code depends on: whether a value has to be
present on the wire, how its absence is told, whether it has a plain text form, and
which fields have to be held by pointer so that no type contains itself.

## Main definitions

* `Target`: what the generated code is for;
* `Resolver`: a contract with the identifiers of its types and what contains what;
* `Resolver.goType`: the generated type of a type;
* `Resolver.isRequired`, `Resolver.emptiness`: what is told of a type along its aliases and fallbacks;
* `Resolver.isPlain`, `Resolver.isKey`: what is known of the type that they lead to;
* `Resolver.boxed`: whether a field is held by pointer;
* `Resolver.make`: a resolver, unless aliases stand for each other in a circle.
-/

import Accord.Contract.Lookup
import Accord.Fault
import Accord.Graph
import Accord.Source.Package
import Accord.Source.Scope
import Accord.Source.Syntax

namespace Accord

open Source (Ty Package PackageLayout NameTable)

/-- What the generated code is for: its packages, the types that stand for external ones, the
runtime library it is written against, and whether it has documentation. -/
structure Target where
  layout : PackageLayout
  externals : List (Text × Text) := []
  comments : Bool := true
  runtime : Text := []
  deriving Inhabited

namespace Target

/-- The import path of the runtime library. -/
def runtimePath (t : Target) : Text :=
  if t.runtime.isEmpty then "github.com/broady/conjure" else t.runtime

/-- The import path of the codecs of the runtime library. -/
def codecsPath (t : Target) : Text := t.runtimePath ++ "/codecs"

/-- The generated package of a name. -/
def package (t : Target) (n : TypeName) : Package := t.layout.package n.package

/-- The import path of the package of a name. -/
def packagePath (t : Target) (n : TypeName) : Text := (t.package n).path

end Target

/-- Something to tell the user that does not stop the work. -/
structure Warning where
  code : Text
  message : Text
  type : TypeName
  deriving DecidableEq, Repr

/-- How the absence of a value is told. -/
inductive Emptiness where
  /-- The value is always there. -/
  | never
  /-- The value is a pointer, which may be absent. -/
  | null
  /-- The value is a collection, which may have no elements. -/
  | length
  /-- The value wraps a pointer, which may be absent. -/
  | wrapped
  deriving DecidableEq, Repr

/-- How the absence of a value is told through an alias: a pointer is wrapped. -/
def Emptiness.behindAlias : Emptiness → Emptiness
  | null => wrapped
  | e => e

/-- A contract with the identifiers of its types and the components of types that contain each
other. -/
structure Resolver where
  contract : Contract
  target : Target
  names : List (TypeName × Text)
  components : List (Graph.Component TypeName)
  deriving Inhabited

namespace Resolver

variable (r : Resolver)

/-- What a name is an alias of. -/
def aliasTarget? (n : TypeName) : Option TypeExpr :=
  match (r.contract.definition? n).map Definition.shape with
  | some (.aliasFor target _) => some target
  | _ => none

/-- Whether a name is an enumeration. -/
def isEnum (n : TypeName) : Bool :=
  match (r.contract.definition? n).map Definition.shape with
  | some (.enum _) => true
  | _ => false

/-- The type that stands for an external one. -/
def mapped? (n : TypeName) : Option Text := r.target.externals.lookup n.text

/-! ### Aliases and fallbacks -/

/-- A type without the external types around it that nothing stands for: their fallbacks
count. -/
def unwrap : TypeExpr → TypeExpr
  | .externalOr target fallback =>
    if (r.mapped? target).isSome then .externalOr target fallback else unwrap fallback
  | t => t

/-- Follows aliases and fallbacks as far as they lead. The fuel bounds the aliases. -/
def chaseFrom : (fuel : Nat) → TypeExpr → TypeExpr
  | 0, t => r.unwrap t
  | fuel + 1, t =>
    match r.unwrap t with
    | .reference n =>
      match r.aliasTarget? n with
      | some target => chaseFrom fuel target
      | none => .reference n
    | t => t

/-- Where the aliases and fallbacks of a type lead. -/
def chase (t : TypeExpr) : TypeExpr := r.chaseFrom r.contract.types.length t

/-- Follows aliases alone. -/
def chaseAliases : (fuel : Nat) → TypeExpr → TypeExpr
  | 0, t => t
  | fuel + 1, .reference n =>
    match r.aliasTarget? n with
    | some target => chaseAliases fuel target
    | none => .reference n
  | _, t => t

/-- How the absence of a value is told, given how it is told for what an alias stands for. -/
def emptinessBy (next : TypeExpr → Emptiness) : TypeExpr → Emptiness
  | .optional _ => .null
  | .list _ => .length
  | .set _ => .length
  | .map _ _ => .length
  | .reference n =>
    match r.aliasTarget? n with
    | some target => (next target).behindAlias
    | none => .never
  | .externalOr x fallback =>
    if (r.mapped? x).isSome then .never else emptinessBy next fallback
  | _ => .never

/-- How the absence of a value is told through as many aliases as there is fuel. -/
def emptinessFrom : (fuel : Nat) → TypeExpr → Emptiness
  | 0 => r.emptinessBy fun _ => .never
  | fuel + 1 => r.emptinessBy (emptinessFrom fuel)

/-- How the absence of a value is told. -/
def emptiness (t : TypeExpr) : Emptiness := r.emptinessFrom r.contract.types.length t

/-- Whether a value has to be present on the wire, given whether what an alias stands for has to:
optionals and collections do not. -/
def requiredBy (next : TypeExpr → Bool) : TypeExpr → Bool
  | .optional _ => false
  | .list _ => false
  | .set _ => false
  | .map _ _ => false
  | .reference n =>
    match r.aliasTarget? n with
    | some target => next target
    | none => true
  | .externalOr x fallback =>
    if (r.mapped? x).isSome then true else requiredBy next fallback
  | _ => true

/-- Whether a value has to be present, through as many aliases as there is fuel. -/
def requiredFrom : (fuel : Nat) → TypeExpr → Bool
  | 0 => r.requiredBy fun _ => true
  | fuel + 1 => r.requiredBy (requiredFrom fuel)

/-- Whether a value has to be present on the wire. -/
def isRequired (t : TypeExpr) : Bool := r.requiredFrom r.contract.types.length t

/-- Whether a type has a plain text form. -/
def isPlain (t : TypeExpr) : Bool :=
  match r.chase t with
  | .primitive p => p != .any
  | .reference n => r.isEnum n
  | _ => false

/-- Whether values of a type can be keys of a map: they can be compared and have a text
form. -/
def isKey (t : TypeExpr) : Bool :=
  match r.chase t with
  | .primitive p => p != .binary && p != .any
  | .reference n => r.isEnum n
  | _ => false

/-- Whether a type is generated as a string. -/
def isString (t : TypeExpr) : Bool :=
  r.chaseAliases r.contract.types.length t = .primitive .string

/-- Whether a type is binary data. -/
def isBinary (t : TypeExpr) : Bool :=
  r.chaseAliases r.contract.types.length t = .primitive .binary

/-! ### Generated types -/

/-- A name of the runtime library. -/
def runtime (name : Text) : Ty := .qualified r.target.runtimePath name

/-- The generated type of a primitive. -/
def primitive : Primitive → Ty
  | .string => .ident "string"
  | .integer => .ident "int32"
  | .boolean => .ident "bool"
  | .any => .ident "any"
  | .double => r.runtime "Double"
  | .safelong => r.runtime "SafeLong"
  | .binary => r.runtime "Binary"
  | .uuid => r.runtime "UUID"
  | .rid => r.runtime "RID"
  | .bearertoken => r.runtime "BearerToken"
  | .datetime => r.runtime "DateTime"

/-- The generated type of a reference. -/
def reference (n : TypeName) : Except Fault Ty :=
  if (r.contract.definition? n).isSome then
    .ok (.qualified (r.target.packagePath n) ((r.names.lookup n).getD (Source.exported n.name)))
  else .error (.mark .unknownReference ("unknown type reference " ++ n.text))

/-- The type that was chosen to stand for an external one. -/
def chosen (n : TypeName) (spelled : Text) : Except Fault Ty :=
  match Text.cutLast? (Text.byte '.') spelled with
  | some (path, name) =>
    if path.isEmpty || name.isEmpty then malformed else .ok (.qualified path name)
  | none => malformed
where
  malformed : Except Fault Ty :=
    .error (.hinted "external types are written as \"import/path.Type\"" (.plain
      ("external type " ++ n.text ++ " maps to malformed Go type " ++ spelled.quote)))

/-- The fault of an external type that nothing stands for. -/
def unmapped (n : TypeName) : Fault :=
  .mark .unsupported ("external type " ++ n.text ++ " has no mapping and no fallback")

/-- The fault of a type that cannot be the key of a map. -/
def unsupportedKey (t : TypeExpr) : Fault :=
  .mark .unsupported ("unsupported map key type " ++ t.text)

/-- The generated type of a type. -/
def goType : TypeExpr → Except Fault Ty
  | .primitive p => .ok (r.primitive p)
  | .optional item => (goType item).map .pointer
  | .list item => (goType item).map .slice
  | .set item => (goType item).map .slice
  | .map key value => do
    if !r.isKey key then throw (unsupportedKey key)
    let k ← if key = .primitive .boolean then pure (r.runtime "Boolean") else goType key
    let v ← goType value
    return .map k v
  | .reference n => r.reference n
  | .external n =>
    match r.mapped? n with
    | some spelled => chosen n spelled
    | none => .error (unmapped n)
  | .externalOr n fallback =>
    match r.mapped? n with
    | some spelled => chosen n spelled
    | none => goType fallback

/-- The warning for an external type that its fallback stands for. -/
def fallbackWarning (n : TypeName) (fallback : TypeExpr) : Warning :=
  ⟨"external_fallback",
   "no Go type configured for external type; using fallback " ++ fallback.text, n⟩

/-- The warnings for a type, as far as it can be resolved. -/
def warnings : TypeExpr → List Warning
  | .optional item => warnings item
  | .list item => warnings item
  | .set item => warnings item
  | .map key value =>
    if !r.isKey key then []
    else if key = .primitive .boolean then warnings value
    else warnings key ++ if (r.goType key).isOk then warnings value else []
  | .externalOr n fallback =>
    if (r.mapped? n).isSome then [] else fallbackWarning n fallback :: warnings fallback
  | _ => []

/-! ### Containment -/

/-- The name that a type is a reference to, if it is one. -/
def direct : TypeExpr → List TypeName
  | .reference n => [n]
  | _ => []

/-- The names whose types a definition contains by value. -/
def contained (d : Definition) : List TypeName :=
  match d.shape with
  | .object fields => fields.flatMap fun f => direct f.type
  | .aliasFor target _ => direct target
  | _ => []

/-- Which types of a contract contain which by value. -/
def containment (c : Contract) : Graph TypeName where
  nodes := c.typeNames
  next n := match c.definition? n with
    | some d => contained d
    | none => []

/-- Whether a field of a type is held by pointer: it refers to a type that contains the owner and
that the owner contains. -/
def boxed (owner : TypeName) : TypeExpr → Bool
  | .reference n =>
    match Graph.componentOf? r.components owner, Graph.componentOf? r.components n with
    | some i, some j => i = j && (r.components[i]?).any (·.cyclic)
    | _, _ => false
  | _ => false

/-- The generated type of a field. -/
def fieldType (owner : TypeName) (t : TypeExpr) : Except Fault Ty :=
  (r.goType t).map fun g => if r.boxed owner t then .pointer g else g

/-- The first component that is a circle of aliases, in the order of names. -/
def aliasCycle? : Option (List TypeName) :=
  (r.components.find? fun k => k.cyclic && k.members.all fun m => (r.aliasTarget? m).isSome).map
    fun k => k.members.mergeSort TypeName.le

/-- The fault of aliases that stand for each other. -/
def aliasFault (cycle : List TypeName) : Fault :=
  .mark .unsupported ("alias cycle through " ++ Text.join ", " (cycle.map TypeName.text))

/-- A resolver, unless aliases stand for each other in a circle. -/
def make (contract : Contract) (target : Target) (names : NameTable) : Except Fault Resolver :=
  let r : Resolver := ⟨contract, target, names.types, (containment contract).components⟩
  match r.aliasCycle? with
  | some cycle => .error (aliasFault cycle)
  | none => .ok r

end Resolver

end Accord
