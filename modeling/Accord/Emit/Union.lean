/-
# Unions

A union becomes a struct that holds one variant and its name on the wire. It is read
with a visitor or with one function for each variant. A variant that the contract does
not know keeps its JSON and is written again as it came.

## Main definitions

* `VariantPlan`: the identifiers and type of a variant;
* `Emit.union`: the declarations of a union.
-/

import Accord.Emit.Object

namespace Accord

open Source

/-- The identifiers and type of a variant. -/
structure VariantPlan where
  source : FieldDef
  field : Text
  visit : Text
  param : Text
  ctor : Text
  valueType : Ty

namespace Emit

/-- The scopes that the variants of a union share: the members of the struct, the methods of
the visitor and the parameters of the functions. -/
structure UnionScopes where
  members : Scope
  visitor : Scope := ⟨["VisitUnknown"]⟩
  params : Scope := locals

/-- Plans a variant of a union. -/
def planVariant (r : Resolver) (owner : TypeName) (name : Text) (s : UnionScopes) (f : FieldDef) :
    Emit (VariantPlan × UnionScopes) :=
  within ("variant " ++ f.name ++ " of " ++ owner.text) do
    let (field, members) ← declareIn s.members (unexported f.name)
    let (visit, visitor) ← declareIn s.visitor ("Visit" ++ exported f.name)
    let (param, params) ← declareIn s.params (unexported f.name ++ "Func")
    let ctor ← declare (r.target.packagePath owner) ("New" ++ name ++ "From" ++ exported f.name)
    let valueType ← resolve r f.type
    return (⟨f, field, visit, param, ctor, valueType⟩, ⟨members, visitor, params⟩)

/-- Plans the variants of a union. -/
def planVariants (r : Resolver) (owner : TypeName) (name : Text) :
    UnionScopes → List FieldDef → Emit (List VariantPlan × UnionScopes)
  | s, [] => return ([], s)
  | s, f :: rest => do
    let (plan, s) ← planVariant r owner name s f
    let (plans, s) ← planVariants r owner name s rest
    return (plan :: plans, s)

/-- The variable of a union in its methods. -/
def self : Expr := .ident "u"

/-- The name of the variant that is set. -/
def selfType : Expr := .select self "typ"

/-- The error of a union without a variant. -/
def emptyUnion (r : Resolver) (name : Text) : Expr :=
  .address (.record (r.runtime "EmptyUnionError") [("Union", .string name)])

/-- The constructor of a variant. -/
def variantCtor (r : Resolver) (name : Text) (v : VariantPlan) : Item :=
  ⟨r.docLines v.source.docs v.source.deprecated,
   .func none v.ctor ⟨[⟨"v", v.valueType⟩], [.ident name]⟩
    [.ret [.record (.ident name)
      [("typ", .string v.source.name), (v.field, .address (.ident "v"))]]]⟩

/-- The body of a method that hands the variant to one of several functions. -/
def dispatch (r : Resolver) (name : Text) (variants : List VariantPlan)
    (handle : VariantPlan → Expr → Expr) (handleUnknown : Expr → Expr) : List Stmt :=
  let known := variants.map fun v =>
    let value : Expr := .select self v.field
    Case.mk [.string v.source.name]
      [.when (.isNull value) [.ret [emptyUnion r name]], .ret [handle v (.deref value)]]
  [.switch selfType (known ++
    [.mk [.string []] [.ret [emptyUnion r name]], .mk [] [.ret [handleUnknown selfType]]])]

/-- The method that encodes a union. -/
def unionMarshal (r : Resolver) (name : Text) (variants : List VariantPlan) : Item :=
  let w : Expr := .ident "w"
  let known := variants.map fun v =>
    Case.mk [.string v.source.name]
      [.expr (w.method "Field" [.string v.source.name, .select self v.field])]
  ⟨[], method "u" (.ident name) "MarshalJSON" [] [.bytes, .error]
    [.when (.binary "==" selfType (.string [])) [.ret [.null, emptyUnion r name]],
     .define ["w"] (.call (r.codecs "NewObjectWriter") []),
     .expr (w.method "Field" [.string "type", selfType]),
     .switch selfType (known ++
       [.mk [] [.expr (w.method "RawField" [selfType, .select self "unknown"])]]),
     .ret [w.method "Bytes" []]]⟩

/-- The method that decodes a union. -/
def unionUnmarshal (r : Resolver) (name : Text) (variants : List VariantPlan) : Item :=
  let reader : Expr := .ident "r"
  let v : Expr := .ident "v"
  let known := variants.map fun p =>
    Case.mk [.string p.source.name]
      [.assign (.select v p.field) (.call (.ident "new") [.type p.valueType]),
       .checkErr (reader.method "Required" [.string p.source.name, .select v p.field]) []]
  let unknown : Case := .mk []
    [.define ["raw", "_"] (reader.method "Raw" [.select v "typ"]),
     .assign (.select v "unknown") (.convert .bytes (.ident "raw"))]
  ⟨[], method "u" (.pointer (.ident name)) "UnmarshalJSON" [⟨"data", .bytes⟩] [.error]
    [.define ["r", "err"] (.call (r.codecs "NewObjectReader") [.ident "data"]),
     .returnErr [],
     .var "v" (.ident name),
     .checkErr (reader.method "Required" [.string "type", .address (.select v "typ")]) [],
     .switch (.select v "typ") (known ++ [unknown]),
     .assign (.deref self) v,
     .ret [.null]]⟩

/-- The declarations of a union. -/
def union (r : Resolver) (owner : TypeName) (name : Text) (fields : List FieldDef)
    (docs : Text) : Emit (List Item) := do
  let scope ← members owner ["typ", "unknown", "Accept", "AcceptFuncs", "Type"]
  let visitor ← declare (r.target.packagePath owner) (name ++ "Visitor")
  let (variants, scopes) ← planVariants r owner name ⟨scope, ⟨["VisitUnknown"]⟩, locals⟩ fields
  putMembers owner scopes.members
  let (unknownFunc, _) ← declareIn scopes.params "unknownFunc"
  let struct : Item := ⟨r.docLines docs [], .struct name
    ([⟨"typ", .string, none⟩] ++
      variants.map (fun v => ⟨v.field, .pointer v.valueType, none⟩) ++
      [⟨"unknown", .bytes, none⟩])⟩
  let visits : List Method := variants.map fun v =>
    ⟨[], v.visit, ⟨[⟨"v", v.valueType⟩], [.error]⟩⟩
  let visitUnknown : Method := ⟨[], "VisitUnknown", ⟨[⟨"typ", .string⟩], [.error]⟩⟩
  let interface : Item := ⟨[visitor ++ " handles each variant of " ++ name ++ "."],
    .interface visitor (visits ++ [visitUnknown])⟩
  let typeMethod : Item := ⟨["Type returns the wire name of the variant that is set."],
    method "u" (.ident name) "Type" [] [.string] [.ret [selfType]]⟩
  let accept : Item := ⟨[], method "u" (.ident name) "Accept" [⟨"v", .ident visitor⟩] [.error]
    (dispatch r name variants (fun v value => (Expr.ident "v").method v.visit [value])
      fun typ => (Expr.ident "v").method "VisitUnknown" [typ])⟩
  let functions : List Param := variants.map (fun v => ⟨v.param, .func v.valueType .error⟩) ++
    [⟨unknownFunc, .func .string .error⟩]
  let acceptFuncs : Item := ⟨[], method "u" (.ident name) "AcceptFuncs" functions [.error]
    (dispatch r name variants (fun v value => .call (.ident v.param) [value])
      fun typ => .call (.ident unknownFunc) [typ])⟩
  return [struct] ++ variants.map (variantCtor r name) ++
    [interface, typeMethod, accept, acceptFuncs, unionMarshal r name variants,
     unionUnmarshal r name variants]

end Emit

end Accord
