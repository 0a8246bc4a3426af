/-
# Errors

A declared error becomes an object over its arguments with the methods of a service
error, and is registered so that it can be decoded by its name.

## Main definitions

* `Emit.error`: the declarations of an error.
-/

import Accord.Emit.Object

namespace Accord

open Source

namespace Emit

/-- The method that lists the parameters of an error. -/
def errorParameters (r : Resolver) (name : Text) (fields : List FieldPlan) : Item :=
  let params : Expr := .ident "params"
  let mapType : Ty := .map .string .any
  let sets := fields.map fun f =>
    let value : Expr := .select (.ident "o") f.field
    r.ifPresent f.source.type value
      (.assign (.index params (.string f.source.name))
        (if f.optional || f.boxed then .deref value else value))
  ⟨[], method "o" (.ident name) "Parameters" [] [mapType]
    ([.define ["params"] (.call (.ident "make") [.type mapType, .int fields.length])] ++ sets ++
      [.ret [params]])⟩

/-- The declarations of an error. -/
def error (r : Resolver) (e : ErrorDef) (name : Text) : Emit (List Item) := do
  let (items, fields) ← object r e.name name e.args e.docs errorMembers
  let own (n : Text) (result : Ty) (value : Expr) : Decl :=
    method "o" (.ident name) n [] [result] [.ret [value]]
  let strings : Ty := .slice .string
  let decode : Expr := .func ⟨[⟨"params", .bytes⟩], [r.runtime "Error", .error]⟩
    [.var "e" (.ident name),
     .checkErr (r.unmarshal (.ident "params") (.address (.ident "e"))) [.null],
     .ret [.ident "e", .null]]
  return items ++
    [⟨[], own "Error" .string (.string (e.code ++ " " ++ e.qualified))⟩,
     ⟨[], own "Code" (r.runtime "ErrorCode") (r.runtimeExpr (errorConstant e.code))⟩,
     ⟨[], own "Name" .string (.string e.qualified)⟩,
     ⟨["SafeArgNames returns the wire names of the parameters that are safe to log."],
      own "SafeArgNames" strings (.composite strings (e.safeNames.map .string))⟩,
     errorParameters r name fields,
     ⟨[], .func none "init" ⟨[], []⟩
      [.expr (.call (r.runtimeExpr "RegisterErrorType") [.string e.qualified, decode])]⟩]

end Emit

end Accord
