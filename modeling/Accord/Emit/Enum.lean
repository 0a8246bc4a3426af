/-
# Enumerations

An enumeration becomes a struct around its value on the wire, so that values which the
contract does not know yet are kept. The known values are constants.

## Main definitions

* `EnumPlan`: the identifiers of an enumeration;
* `Emit.enum`: the declarations of an enumeration.
-/

import Accord.Emit.Object

namespace Accord

open Source

/-- The identifiers of an enumeration. -/
structure EnumPlan where
  valueType : Text
  constants : List (EnumValue × Text)
  unknown : Text
  values : Text
  ctor : Text
  parse : Text

namespace Emit

/-- Declares the identifiers of an enumeration. -/
def planEnum (package name : Text) (values : List EnumValue) : Emit EnumPlan := do
  let valueType ← declare package (name ++ "_Value")
  let constants ← values.mapM fun v => do
    return (v, ← declare package (name ++ "_" ++ v.value))
  let unknown ← declare package (name ++ "_UNKNOWN")
  let valuesFunc ← declare package ("Values_" ++ name)
  let ctor ← declare package ("New_" ++ name)
  let parse ← declare package ("Parse" ++ name)
  return ⟨valueType, constants, unknown, valuesFunc, ctor, parse⟩

/-- The value on the wire in the methods of an enumeration. -/
def enumValue : Expr := .select (.ident "e") "val"

/-- The constants, constructors and parser of an enumeration. -/
def enumHead (r : Resolver) (name : Text) (docs : Text) (p : EnumPlan) : List Item :=
  let valueType : Ty := .ident p.valueType
  let known : List Expr := p.constants.map fun (_, ident) => .ident ident
  let constants : List Constant := p.constants.map (fun (v, ident) =>
    ⟨r.docLines v.docs v.deprecated, ident, valueType, v.value⟩) ++
    [⟨[], p.unknown, valueType, "UNKNOWN"⟩]
  [⟨[p.valueType ++ " is a value of " ++ name ++ "."], .type p.valueType .string⟩,
   ⟨[], .constants constants⟩,
   ⟨r.docLines docs [], .struct name [⟨"val", valueType, none⟩]⟩,
   ⟨[p.values ++ " returns the declared values of " ++ name ++ " in declaration order."],
    .func none p.values ⟨[], [.slice valueType]⟩ [.ret [.composite (.slice valueType) known]]⟩,
   ⟨[], .func none p.ctor ⟨[⟨"value", valueType⟩], [.ident name]⟩
    [.ret [.record (.ident name) [("val", .ident "value")]]]⟩,
   ⟨[p.parse ++ " returns the " ++ name ++
      " named s. Values that are not declared are an error."],
    .func none p.parse ⟨[⟨"s", .string⟩], [.ident name, .error]⟩
      [.define ["e"] (.call (.ident p.ctor) [.convert valueType (.ident "s")]),
       .when ((Expr.ident "e").method "IsUnknown" [])
        [.ret [.composite (.ident name) [],
          .address (.record (r.runtime "UnknownEnumValueError")
            [("Enum", .string name), ("Value", .ident "s")])]],
       .ret [.ident "e", .null]]⟩]

/-- The methods of an enumeration. -/
def enumMethods (r : Resolver) (name : Text) (p : EnumPlan) : List Item :=
  let valueType : Ty := .ident p.valueType
  let known : List Expr := p.constants.map fun (_, ident) => .ident ident
  let value (receiver : Text) : Expr := .convert .string (.select (.ident receiver) "val")
  let isKnown : List Stmt :=
    if known.isEmpty then []
    else [.switch enumValue [.mk known [.ret [.ident "false"]]]]
  let own (n : Text) (params : List Param) (results : List Ty) (body : List Stmt) : Decl :=
    method "e" (.ident name) n params results body
  let place (n : Text) (body : List Stmt) : Decl :=
    method "e" (.pointer (.ident name)) n [⟨"data", .bytes⟩] [.error] body
  [⟨["IsUnknown reports whether the value is not declared by this version of the enum."],
    own "IsUnknown" [] [.bool] (isKnown ++ [.ret [.ident "true"]])⟩,
   ⟨[], own "Value" [] [valueType]
    [.when ((Expr.ident "e").method "IsUnknown" []) [.ret [.ident p.unknown]],
     .ret [enumValue]]⟩,
   ⟨["String returns the wire value, including unknown values."],
    own "String" [] [.string] [.ret [value "e"]]⟩,
   ⟨[], own "Compare" [⟨"other", .ident name⟩] [.ident "int"]
    [.ret [.call (.qualified "strings" "Compare") [value "e", value "other"]]]⟩,
   ⟨[], own "MarshalText" [] [.bytes, .error] [.ret [.convert .bytes enumValue, .null]]⟩,
   ⟨[], place "UnmarshalText"
    [.assign (.deref (.ident "e"))
      (.call (.ident p.ctor) [.convert valueType (.ident "data")]),
     .ret [.null]]⟩,
   ⟨[], own "MarshalJSON" [] [.bytes, .error] [.ret [r.marshal (value "e")]]⟩,
   ⟨[], place "UnmarshalJSON"
    [.var "s" .string,
     .checkErr (r.unmarshal (.ident "data") (.address (.ident "s"))) [],
     .ret [(Expr.ident "e").method "UnmarshalText" [.convert .bytes (.ident "s")]]]⟩]

/-- The declarations of an enumeration. -/
def enum (r : Resolver) (owner : TypeName) (name : Text) (values : List EnumValue)
    (docs : Text) : Emit (List Item) := do
  let p ← planEnum (r.target.packagePath owner) name values
  return enumHead r name docs p ++ enumMethods r name p

end Emit

end Accord
