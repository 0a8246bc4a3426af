/-
# Aliases

An alias becomes a type of its own over what it stands for. Pointers and untyped values
can have no methods, so their aliases are structs around them.

## Main definitions

* `Emit.aliasType`: the declarations of an alias.
-/

import Accord.Emit.Object

namespace Accord

open Source

namespace Emit

/-- The declarations of an alias that is a struct around its value. -/
def wrapper (r : Resolver) (name : Text) (docs : List Text) (valueType : Ty) : List Item :=
  [⟨docs, .struct name [⟨"Value", valueType, none⟩]⟩,
   ⟨[], method "a" (.ident name) "MarshalJSON" [] [.bytes, .error]
    [.ret [r.marshal (.select (.ident "a") "Value")]]⟩,
   ⟨[], method "a" (.pointer (.ident name)) "UnmarshalJSON" [⟨"data", .bytes⟩] [.error]
    [.var "v" valueType,
     .checkErr (r.unmarshal (.ident "data") (.address (.ident "v"))) [],
     .assign (.select (.ident "a") "Value") (.ident "v"),
     .ret [.null]]⟩]

/-- The text of an empty collection of a type. -/
def emptyJson? : TypeExpr → Option Text
  | .list _ => some "[]"
  | .set _ => some "[]"
  | .map _ _ => some "\x7b\x7d"
  | _ => none

/-- The methods for the plain text form of an alias. -/
def plainMethods (r : Resolver) (name : Text) (target : TypeExpr) (goType : Ty) : List Item :=
  let a : Expr := .ident "a"
  let asTarget : Expr := .convert goType a
  let string : Expr :=
    if r.isString target then .convert .string a
    else .call (.qualified "fmt" "Sprint") [asTarget]
  [⟨[], method "a" (.ident name) "String" [] [.string] [.ret [string]]⟩,
   ⟨[], method "a" (.ident name) "MarshalText" [] [.bytes, .error]
    [.define ["s", "err"] (.call (r.runtimeExpr "EncodePlain") [asTarget]),
     .returnErr [.null],
     .ret [.convert .bytes (.ident "s"), .null]]⟩,
   ⟨[], method "a" (.pointer (.ident name)) "UnmarshalText" [⟨"data", .bytes⟩] [.error]
    [.ret [.call (r.runtimeExpr "DecodePlain")
      [.convert .string (.ident "data"),
       .call (.parens (.type (.pointer goType))) [a]]]]⟩]

/-- The declarations of an alias over a type that can have methods. -/
def defined (r : Resolver) (name : Text) (docs : List Text) (target : TypeExpr) (goType : Ty) :
    List Item :=
  let a : Expr := .ident "a"
  let whenNull : List Stmt := match emptyJson? target with
    | some t => [.when (.isNull a) [.ret [.convert .bytes (.string t), .null]]]
    | none => []
  [⟨docs, .type name goType⟩] ++
    (if r.isPlain target then plainMethods r name target goType else []) ++
    [⟨[], method "a" (.ident name) "MarshalJSON" [] [.bytes, .error]
      (whenNull ++ [.ret [r.marshal (.convert goType a)]])⟩,
     ⟨[], method "a" (.pointer (.ident name)) "UnmarshalJSON" [⟨"data", .bytes⟩] [.error]
      [.ret [r.unmarshal (.ident "data") (.call (.parens (.type (.pointer goType))) [a])]]⟩]

/-- The declarations of an alias. -/
def aliasType (r : Resolver) (name : Text) (target : TypeExpr) (docs : Text) :
    Emit (List Item) := do
  let goType ← resolve r target
  let docs := r.docLines docs []
  match target with
  | .optional _ => return wrapper r name docs goType
  | .primitive .any => return wrapper r name docs goType
  | _ => return defined r name docs target goType

end Emit

end Accord
