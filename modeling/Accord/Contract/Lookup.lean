/-
# Finding definitions

The definitions of a contract by name. Where a name is declared twice the last
declaration counts.

## Main definitions

* `Contract.definition?`, `Contract.errorDef?`, `Contract.serviceDef?`: the definitions of
  a name;
* `Contract.typeNames`, `Contract.allNames`: the declared names in order;
* `Contract.refs`: the names that a definition refers to.
-/

import Accord.Contract.Basic

namespace Accord.Contract

variable (c : Contract)

/-- The type definition of a name. -/
def definition? (n : TypeName) : Option Definition := c.types.reverse.find? (·.name = n)

/-- The error definition of a name. -/
def errorDef? (n : TypeName) : Option ErrorDef := c.errors.reverse.find? (·.name = n)

/-- The service definition of a name. -/
def serviceDef? (n : TypeName) : Option ServiceDef := c.services.reverse.find? (·.name = n)

/-- Names without repetitions. -/
def distinctNames (names : List TypeName) : List TypeName :=
  names.foldr (fun n rest => if rest.contains n then rest else n :: rest) []

/-- The names of types in order. -/
def typeNames : List TypeName :=
  (distinctNames (c.types.map (·.name))).mergeSort TypeName.le

/-- The names of types, errors and services in order. A name of two kinds stands twice. -/
def allNames : List TypeName :=
  (distinctNames (c.types.map (·.name)) ++ distinctNames (c.errors.map (·.name)) ++
    distinctNames (c.services.map (·.name))).mergeSort TypeName.le

/-- The names that the definitions of a name refer to. -/
def refs (n : TypeName) : List TypeName :=
  let fields (fs : List FieldDef) : List TypeName := fs.flatMap (·.type.references)
  let ofType : List TypeName := match (c.definition? n).map Definition.shape with
    | some (.object fs) => fields fs
    | some (.union vs) => fields vs
    | some (.aliasFor target _) => target.references
    | _ => []
  let ofError : List TypeName := match c.errorDef? n with
    | some e => fields e.args
    | none => []
  let ofService : List TypeName := match c.serviceDef? n with
    | some s => s.endpoints.flatMap fun e =>
        e.args.flatMap (·.type.references) ++ (e.returns.map (·.references)).getD []
    | none => []
  ofType ++ ofError ++ ofService

end Accord.Contract
