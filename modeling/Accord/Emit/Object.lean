/-
# Objects

An object becomes a struct with unexported fields. Its parts are read through
accessors and set through a staged builder: one stage for each required field, in the
order of the contract, then a last stage for all others. The struct encodes itself as
a JSON object that leaves out what is absent.

## Main definitions

* `FieldPlan`: the identifiers and types of a field;
* `Emit.object`: the declarations of an object.
-/

import Accord.Emit.Basic

namespace Accord

open Source

/-- The identifiers and types of a field: `field` in the struct, `member` for its accessor and
setter, `add?` for the setter that adds elements. -/
structure FieldPlan where
  source : FieldDef
  field : Text
  member : Text
  add? : Option (Text × Ty)
  fieldType : Ty
  valueType : Ty
  required : Bool
  boxed : Bool
  optional : Bool

namespace Emit

/-- What the elements of a list or set are. -/
def itemType? : TypeExpr → Option TypeExpr
  | .list item => some item
  | .set item => some item
  | _ => none

/-- Plans a field of an object. -/
def planField (r : Resolver) (owner : TypeName) (members : Scope) (f : FieldDef) :
    Emit (FieldPlan × Scope) := do
  let where_ := "field " ++ f.name ++ " of " ++ owner.text
  let (field, members) ← within where_ (declareIn members (unexported f.name))
  let (member, members) ← within where_ (declareIn members (exported f.name))
  let fieldType ← within where_ (resolveField r owner f.type)
  let boxed := r.boxed owner f.type
  let valueType ← match f.type with
    | .optional item => resolve r item
    | t => if boxed then resolve r t else pure fieldType
  let optional := match f.type with
    | .optional _ => true
    | _ => false
  match itemType? f.type with
  | none =>
    return (⟨f, field, member, none, fieldType, valueType, r.isRequired f.type, boxed, optional⟩,
      members)
  | some item =>
    let itemType ← resolve r item
    let (add, members) ← within where_ (declareIn members ("Add" ++ member))
    return (⟨f, field, member, some (add, itemType), fieldType, valueType, r.isRequired f.type,
      boxed, optional⟩, members)

/-- Plans the fields of an object. -/
def planFields (r : Resolver) (owner : TypeName) :
    Scope → List FieldDef → Emit (List FieldPlan × Scope)
  | members, [] => return ([], members)
  | members, f :: rest => do
    let (plan, members) ← planField r owner members f
    let (plans, members) ← planFields r owner members rest
    return (plan :: plans, members)

/-! ### Accessors -/

/-- A method of the struct itself. -/
def method (receiver : Text) (t : Ty) (name : Text) (params : List Param) (results : List Ty)
    (body : List Stmt) : Decl :=
  .func (some ⟨receiver, t⟩) name ⟨params, results⟩ body

/-- The accessor of a field. -/
def accessor (r : Resolver) (name : Text) (f : FieldPlan) : Item :=
  let value : Expr := .select (.ident "o") f.field
  let absent (results : List Expr) : Stmt :=
    .when (.isNull value) [.var "zero" f.valueType, .ret (.ident "zero" :: results)]
  let (results, body) : List Ty × List Stmt :=
    if f.optional then
      ([f.valueType, .bool],
       [absent [.ident "false"], .ret [.deref value, .ident "true"]])
    else if f.boxed then ([f.valueType], [absent [], .ret [.deref value]])
    else ([f.valueType], [.ret [value]])
  ⟨r.docLines f.source.docs f.source.deprecated,
   method "o" (.ident name) f.member [] results body⟩

/-! ### The builder -/

/-- The identifiers of a builder: its stages for required fields, its last stage, its
implementation and its constructor. -/
structure BuilderPlan where
  stages : List (FieldPlan × Text)
  final : Text
  impl : Text
  ctor : Text

/-- Declares the identifiers of a builder. -/
def planBuilder (package name : Text) (fields : List FieldPlan) : Emit BuilderPlan := do
  let stages ← (fields.filter (·.required)).mapM fun f => do
    return (f, ← declare package (name ++ "Set" ++ f.member))
  let final ← declare package (name ++ "Builder")
  let impl ← declare package (unexported name ++ "Builder")
  let ctor ← declare package ("New" ++ name ++ "Builder")
  return ⟨stages, final, impl, ctor⟩

/-- The stages of required fields, each with the stage that follows it. -/
def BuilderPlan.steps (b : BuilderPlan) : List (FieldPlan × Text × Text) :=
  let nexts := (b.stages.map (·.2)).drop 1 ++ [b.final]
  List.zipWith (fun (f, stage) next => (f, stage, next)) b.stages nexts

/-- The setter of a field in an interface or as a method. -/
def setterSignature (f : FieldPlan) (next : Text) : Signature :=
  ⟨[⟨"v", f.valueType⟩], [.ident next]⟩

/-- The setter that adds elements. -/
def adderSignature (itemType : Ty) (next : Text) : Signature :=
  ⟨[⟨"v", .variadic itemType⟩], [.ident next]⟩

/-- The interfaces of a builder. -/
def builderInterfaces (name : Text) (b : BuilderPlan) (others : List FieldPlan) : List Item :=
  let stages := b.steps.map fun (f, stage, next) =>
    (⟨[stage ++ " is the stage of " ++ b.final ++ " that sets " ++ f.source.name ++ "."],
      .interface stage [⟨[], f.member, setterSignature f next⟩]⟩ : Item)
  let setters : List Method := others.flatMap fun f =>
    let set : Method := ⟨[], f.member, setterSignature f b.final⟩
    match f.add? with
    | some (add, itemType) => [set, ⟨[], add, adderSignature itemType b.final⟩]
    | none => [set]
  let build : Method := ⟨[], "Build", ⟨[], [.ident name]⟩⟩
  stages ++
    [⟨[b.final ++ " sets the optional fields of " ++ name ++ " and builds it."],
      .interface b.final (setters ++ [build])⟩]

/-- The methods of the implementation of a builder. -/
def builderMethods (name : Text) (b : BuilderPlan) (others : List FieldPlan) : List Item :=
  let receiver : Ty := .pointer (.ident b.impl)
  let place (f : FieldPlan) : Expr := .select (.select (.ident "b") "v") f.field
  let setter (f : FieldPlan) (next : Text) (byAddress : Bool) : Item :=
    let value : Expr := if byAddress then .address (.ident "v") else .ident "v"
    ⟨[], .func (some ⟨"b", receiver⟩) f.member (setterSignature f next)
      [.assign (place f) value, .ret [.ident "b"]]⟩
  let adder (f : FieldPlan) : List Item := match f.add? with
    | some (add, itemType) =>
      [⟨[], .func (some ⟨"b", receiver⟩) add (adderSignature itemType b.final)
        [.assign (place f) (.call (.ident "append") [place f, .spread (.ident "v")]),
         .ret [.ident "b"]]⟩]
    | none => []
  b.steps.map (fun (f, _, next) => setter f next f.boxed) ++
    others.flatMap (fun f => setter f b.final f.optional :: adder f) ++
    [⟨[], method "b" receiver "Build" [] [.ident name] [.ret [.select (.ident "b") "v"]]⟩]

/-- The declarations of a builder. -/
def builder (package name : Text) (fields : List FieldPlan) : Emit (List Item) := do
  let b ← planBuilder package name fields
  let others := fields.filter (!·.required)
  let first := (b.stages.map (·.2)).headD b.final
  return builderInterfaces name b others ++
    [⟨[], .struct b.impl [⟨"v", .ident name, none⟩]⟩,
     ⟨[b.ctor ++ " returns a builder for " ++ name ++ "."],
      .func none b.ctor ⟨[], [.ident first]⟩
        [.ret [.address (.composite (.ident b.impl) [])]]⟩] ++
    builderMethods name b others

/-! ### JSON -/

/-- The method that encodes an object. -/
def objectMarshal (r : Resolver) (name : Text) (fields : List FieldPlan) : Item :=
  let w : Expr := .ident "w"
  let writes := fields.map fun f =>
    let value : Expr := .select (.ident "o") f.field
    r.ifPresent f.source.type value
      (.expr (w.method "Field" [.string f.source.name, value]))
  ⟨[], method "o" (.ident name) "MarshalJSON" [] [.bytes, .error]
    ([.define ["w"] (.call (r.codecs "NewObjectWriter") [])] ++ writes ++
      [.ret [w.method "Bytes" []]])⟩

/-- The method that decodes an object. -/
def objectUnmarshal (r : Resolver) (name : Text) (fields : List FieldPlan) : Item :=
  let reader : Expr := .call (r.codecs "NewObjectReader") [.ident "data"]
  let self : Expr := .deref (.ident "o")
  let reads := fields.map fun f =>
    let how : Text := if f.required then "Required" else "Optional"
    Stmt.checkErr ((Expr.ident "r").method how
      [.string f.source.name, .address (.select (.ident "v") f.field)]) []
  let body : List Stmt :=
    if fields.isEmpty then
      [.whenDefined ["_", "err"] reader (.isNotNull .err) [.ret [.err]],
       .assign self (.composite (.ident name) []), .ret [.null]]
    else
      [.define ["r", "err"] reader, .returnErr [], .var "v" (.ident name)] ++ reads ++
        [.assign self (.ident "v"), .ret [.null]]
  ⟨[], method "o" (.pointer (.ident name)) "UnmarshalJSON" [⟨"data", .bytes⟩] [.error] body⟩

/-- The declarations of an object, and the plans of its fields. -/
def object (r : Resolver) (owner : TypeName) (name : Text) (fields : List FieldDef) (docs : Text)
    (seed : List Text) : Emit (List Item × List FieldPlan) := do
  let package := r.target.packagePath owner
  let scope ← members owner seed
  let (plans, scope) ← planFields r owner scope fields
  putMembers owner scope
  let build ← within ("builder of " ++ owner.text) (builder package name plans)
  let struct : Item := ⟨r.docLines docs [],
    .struct name (plans.map fun f => ⟨f.field, f.fieldType, none⟩)⟩
  return ([struct] ++ plans.map (accessor r name) ++ build ++
    [objectMarshal r name plans, objectUnmarshal r name plans], plans)

end Emit

end Accord
