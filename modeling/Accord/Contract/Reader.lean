/-
# Reading contracts

A contract is a JSON document. Each union in it is an object with a `type` member
that names the variant and a member of that name with its content. The errors and
services of a document are held against their shape before anything else is read; a
type definition is held against its shape when its turn comes.

## Main definitions

* `ReadError`: why a document is no contract;
* `TypeExpr.ofText`, `Definition.ofText`: a single type or definition;
* `Contract.ofText`: a whole document;
* `Contract.receive`, `Contract.parse`: a document that is read into a contract.
-/

import Accord.Contract.Basic
import Accord.Json.Reader
import Accord.Json.Schema
import Accord.Text.CaseMap
import Accord.Fault

namespace Accord

/-- Why a document is no contract. -/
inductive ReadError where
  | malformed (what : Text)
  | missingType
  | unknownPrimitive (spelled : Text)
  | missingMember (what : Text) (member : Text)
  | malformedReference (source : Text)
  | malformedExternal (source : Text)
  | unknownTypeKind (spelled : Text)
  | emptyFieldName
  | unknownSafety (spelled : Text)
  | emptyEnumValue (enum : TypeName)
  | unknownDefinitionKind (spelled : Text)
  | unknownErrorCode (error : TypeName) (spelled : Text)
  | cookieWithoutName
  | unknownAuth (spelled : Text)
  | paramWithoutId (kind : Text)
  | unknownParam (spelled : Text)
  | unknownMethod (spelled : Text)
  | within (context : Text) (cause : ReadError)
  deriving DecidableEq, Repr

namespace ReadError

/-- The fault of an unreadable document. Each cause is marked where it is found, and a context is
only put in front of what was found, with the mark that it has or has not. -/
def fault : ReadError → Fault
  | malformed what => .marked .parse (.context what Fault.json)
  | missingType => .mark .parse "missing type"
  | unknownPrimitive spelled => .mark .parse ("unknown primitive " ++ spelled.quote)
  | missingMember what member =>
    .mark .parse (what ++ " is missing its " ++ member.quote ++ " member")
  | malformedReference source => .mark .parse ("malformed reference " ++ source)
  | malformedExternal source => .mark .parse ("malformed external reference " ++ source)
  | unknownTypeKind spelled => .mark .parse ("unknown type kind " ++ spelled.quote)
  | emptyFieldName => .mark .parse "field with empty name"
  | unknownSafety spelled => .mark .parse ("unknown log safety " ++ spelled.quote)
  | emptyEnumValue enum => .mark .parse ("enum " ++ enum.text ++ " has an empty value")
  | unknownDefinitionKind spelled =>
    .mark .parse ("unknown type definition kind " ++ spelled.quote)
  | unknownErrorCode error spelled =>
    .mark .parse ("error " ++ error.text ++ " has unknown code " ++ spelled.quote)
  | cookieWithoutName => .mark .parse "cookie auth without a cookie name"
  | unknownAuth spelled => .mark .parse ("unknown auth type " ++ spelled.quote)
  | paramWithoutId kind => .mark .parse (kind ++ " parameter without a paramId")
  | unknownParam spelled => .mark .parse ("unknown parameter type " ++ spelled.quote)
  | unknownMethod spelled => .mark .parse ("unknown http method " ++ spelled.quote)
  | within context cause => .context context cause.fault

/-- Says where an error happened. -/
def at' {α : Type} (context : Text) (result : Except ReadError α) : Except ReadError α :=
  result.mapError (.within context)

end ReadError

open ReadError (at')

/-! ### Shapes -/

namespace ContractSchema

/-- A name. -/
def typeName : Schema := .record [("name", .text), ("package", .text)]

/-- A type with an item type. -/
def item : Schema := .record [("itemType", .any)]

/-- The contents of type expressions. -/
def typeContents : List (Text × Schema) :=
  [("primitive", .text), ("optional", item), ("list", item), ("set", item),
    ("map", .record [("keyType", .any), ("valueType", .any)]), ("reference", typeName),
    ("external", .record [("externalReference", typeName), ("fallback", .any)])]

/-- A type expression. -/
def type : Schema := .record (("type", .text) :: typeContents)

/-- A field. -/
def field : Schema :=
  .record [("fieldName", .text), ("type", .any), ("docs", .text), ("deprecated", .text),
    ("safety", .text)]

/-- A value of an enumeration. -/
def enumValue : Schema := .record [("value", .text), ("docs", .text), ("deprecated", .text)]

/-- The contents of type definitions. -/
def definitionContents : List (Text × Schema) :=
  [("object", .record [("typeName", typeName), ("fields", .list field), ("docs", .text)]),
    ("union", .record [("typeName", typeName), ("union", .list field), ("docs", .text)]),
    ("enum", .record [("typeName", typeName), ("values", .list enumValue), ("docs", .text)]),
    ("alias", .record [("typeName", typeName), ("alias", .any), ("docs", .text),
      ("safety", .text)])]

/-- A type definition. -/
def definition : Schema := .record (("type", .text) :: definitionContents)

/-- An error definition. -/
def error : Schema :=
  .record [("errorName", typeName), ("docs", .text), ("namespace", .text), ("code", .text),
    ("safeArgs", .list field), ("unsafeArgs", .list field)]

/-- An argument. -/
def argument : Schema :=
  .record [("argName", .text), ("type", .any),
    ("paramType", .record [("type", .text), ("query", .record [("paramId", .text)]),
      ("header", .record [("paramId", .text)])]),
    ("docs", .text), ("markers", .list .any), ("safety", .text)]

/-- An endpoint. -/
def endpoint : Schema :=
  .record [("endpointName", .text), ("httpMethod", .text), ("httpPath", .text),
    ("auth", .record [("type", .text), ("cookie", .record [("cookieName", .text)])]),
    ("args", .list argument), ("returns", .any), ("docs", .text), ("deprecated", .text),
    ("markers", .list .any)]

/-- A service. -/
def service : Schema :=
  .record [("serviceName", typeName), ("endpoints", .list endpoint), ("docs", .text)]

/-- A whole document. -/
def document : Schema :=
  .record [("version", .int), ("errors", .list error), ("types", .list .any),
    ("services", .list service), ("extensions", .entries)]

end ContractSchema

/-! ### Types -/

/-- The name in the members of an object. -/
def TypeName.ofRecord (r : Json.Record) : TypeName := ⟨r.text "name", r.text "package"⟩

namespace TypeExpr

/-- Reads a type expression from a value and the text it came from. The fuel bounds the
nesting. -/
def decode : (fuel : Nat) → (source : Text) → Json → Except ReadError TypeExpr
  | 0, _, _ => .error .missingType
  | fuel + 1, source, j => do
    if !ContractSchema.type.fits j then throw (.malformed "decode type")
    let r := j.record
    let nested (j : Option Json) : Except ReadError TypeExpr :=
      match j with
      | none => .error .missingType
      | some .null => .error .missingType
      | some j => decode fuel j.source j
    let container (word : Text) (wrap : TypeExpr → TypeExpr) : Except ReadError TypeExpr :=
      match r.nested? word with
      | none => .error (.missingMember (word ++ " type") word)
      | some inner => (at' word (nested (inner.last? "itemType"))).map wrap
    let kind := r.text "type"
    if kind = "primitive" then
      match Primitive.ofKeyword? (r.text "primitive") with
      | some p => return .primitive p
      | none => throw (.unknownPrimitive (r.text "primitive"))
    else if kind = "optional" then container "optional" .optional
    else if kind = "list" then container "list" .list
    else if kind = "set" then container "set" .set
    else if kind = "map" then
      match r.nested? "map" with
      | none => throw (.missingMember "map type" "map")
      | some inner =>
        let key ← at' "map key" (nested (inner.last? "keyType"))
        let value ← at' "map value" (nested (inner.last? "valueType"))
        return .map key value
    else if kind = "reference" then
      match (r.nested? "reference").map TypeName.ofRecord with
      | some target =>
        if target.name.isEmpty then throw (.malformedReference source)
        else return .reference target
      | none => throw (.malformedReference source)
    else if kind = "external" then
      match r.nested? "external" with
      | none => throw (.malformedExternal source)
      | some inner =>
        let target := TypeName.ofRecord (inner.nested "externalReference")
        if target.name.isEmpty then throw (.malformedExternal source)
        else match inner.last? "fallback" with
          | none => return .external target
          | some .null => return .external target
          | some j =>
            return .externalOr target (← at' "external fallback" (decode fuel j.source j))
    else throw (.unknownTypeKind kind)

/-- Reads a type expression that may be missing. -/
def ofJson? (j : Option Json) : Except ReadError TypeExpr :=
  match j with
  | none => .error .missingType
  | some .null => .error .missingType
  | some j => decode (j.source.length + 1) j.source j

/-- Reads a type expression from a text. -/
def ofText (t : Text) : Except ReadError TypeExpr :=
  if t.isEmpty || t = "null" then .error .missingType
  else match Json.read t with
    | .error _ => .error (.malformed "decode type")
    | .ok j => decode (t.length + 1) t j

end TypeExpr

/-! ### Definitions -/

/-- Reads a safety, written in any case. -/
def LogSafety.ofSpelling (t : Text) : Except ReadError LogSafety :=
  match LogSafety.ofText? t.upper with
  | some s => .ok s
  | none => .error (.unknownSafety t)

/-- Reads a field. -/
def FieldDef.ofRecord (r : Json.Record) : Except ReadError FieldDef := do
  let name := r.text "fieldName"
  if name.isEmpty then throw .emptyFieldName
  let type ← at' ("field " ++ name) (TypeExpr.ofJson? (r.last? "type"))
  let safety ← at' ("field " ++ name) (LogSafety.ofSpelling (r.text "safety"))
  return ⟨name, type, r.text "docs", r.text "deprecated", safety⟩

/-- Reads a list of fields. -/
def FieldDef.ofItems (items : List Json) : Except ReadError (List FieldDef) :=
  items.mapM fun j => FieldDef.ofRecord j.record

/-- Reads a value of an enumeration. -/
def EnumValue.ofRecord (enum : TypeName) (r : Json.Record) : Except ReadError EnumValue :=
  if (r.text "value").isEmpty then .error (.emptyEnumValue enum)
  else .ok ⟨r.text "value", r.text "docs", r.text "deprecated"⟩

namespace Definition

/-- Reads a type definition from a value. -/
def ofJson (j : Json) : Except ReadError Definition := do
  if !ContractSchema.definition.fits j then throw (.malformed "decode type definition")
  let r := j.record
  let kind := r.text "type"
  let content (word : Text) : Except ReadError Json.Record :=
    match r.nested? word with
    | some inner => .ok inner
    | none => .error (.missingMember (word ++ " definition") word)
  let nameOf (inner : Json.Record) : TypeName := TypeName.ofRecord (inner.nested "typeName")
  if kind = "object" then
    let inner ← content "object"
    let name := nameOf inner
    let fields ← at' ("object " ++ name.text) (FieldDef.ofItems (inner.items "fields"))
    return ⟨name, inner.text "docs", .object fields⟩
  else if kind = "union" then
    let inner ← content "union"
    let name := nameOf inner
    let variants ← at' ("union " ++ name.text) (FieldDef.ofItems (inner.items "union"))
    return ⟨name, inner.text "docs", .union variants⟩
  else if kind = "enum" then
    let inner ← content "enum"
    let name := nameOf inner
    let values ← (inner.items "values").mapM fun v => EnumValue.ofRecord name v.record
    return ⟨name, inner.text "docs", .enum values⟩
  else if kind = "alias" then
    let inner ← content "alias"
    let name := nameOf inner
    let target ← at' ("alias " ++ name.text) (TypeExpr.ofJson? (inner.last? "alias"))
    let safety ← at' ("alias " ++ name.text) (LogSafety.ofSpelling (inner.text "safety"))
    return ⟨name, inner.text "docs", .aliasFor target safety⟩
  else throw (.unknownDefinitionKind kind)

/-- Reads a type definition from a text. -/
def ofText (t : Text) : Except ReadError Definition :=
  match Json.read t with
  | .error _ => .error (.malformed "decode type definition")
  | .ok j => ofJson j

end Definition

/-- Reads an error definition. -/
def ErrorDef.ofRecord (r : Json.Record) : Except ReadError ErrorDef := do
  let name := TypeName.ofRecord (r.nested "errorName")
  let code := r.text "code"
  if !ErrorDef.codes.contains code then throw (.unknownErrorCode name code)
  let safeArgs ← at' ("error " ++ name.text ++ " safe args")
    (FieldDef.ofItems (r.items "safeArgs"))
  let otherArgs ← at' ("error " ++ name.text ++ " unsafe args")
    (FieldDef.ofItems (r.items "unsafeArgs"))
  return ⟨name, r.text "namespace", code, safeArgs, otherArgs, r.text "docs"⟩

/-! ### Services -/

/-- Reads how an endpoint is authorised. -/
def Auth.ofRecord? (r : Option Json.Record) : Except ReadError Auth :=
  match r with
  | Option.none => .ok .none
  | some r =>
    let kind := r.text "type"
    if kind = "header" then .ok .header
    else if kind = "cookie" then
      let name := ((r.nested? "cookie").map (·.text "cookieName")).getD []
      if name.isEmpty then .error .cookieWithoutName else .ok (.cookie name)
    else .error (.unknownAuth kind)

/-- Reads where an argument travels. -/
def ParamKind.ofRecord (r : Json.Record) : Except ReadError ParamKind :=
  let kind := r.text "type"
  let withId (wrap : Text → ParamKind) : Except ReadError ParamKind :=
    let id := ((r.nested? kind).map (·.text "paramId")).getD []
    if id.isEmpty then .error (.paramWithoutId kind) else .ok (wrap id)
  if kind = "body" then .ok .body
  else if kind = "path" then .ok .path
  else if kind = "query" then withId .query
  else if kind = "header" then withId .header
  else .error (.unknownParam kind)

/-- Reads markers. -/
def readMarkers (items : List Json) : Except ReadError (List TypeExpr) :=
  items.mapM fun j => at' "marker" (TypeExpr.ofJson? (some j))

/-- Reads an argument. -/
def ArgDef.ofRecord (r : Json.Record) : Except ReadError ArgDef :=
  let name := r.text "argName"
  at' ("arg " ++ name) do
    let type ← TypeExpr.ofJson? (r.last? "type")
    let kind ← ParamKind.ofRecord (r.nested "paramType")
    let markers ← readMarkers (r.items "markers")
    let safety ← LogSafety.ofSpelling (r.text "safety")
    return ⟨name, type, kind, r.text "docs", markers, safety⟩

/-- Reads an endpoint. -/
def EndpointDef.ofRecord (r : Json.Record) : Except ReadError EndpointDef := do
  let method := Text.upper (r.text "httpMethod")
  if !EndpointDef.methods.contains method then throw (.unknownMethod (r.text "httpMethod"))
  let auth ← Auth.ofRecord? (r.nested? "auth")
  let returns ← match r.last? "returns" with
    | none => pure none
    | some .null => pure none
    | some j => some <$> at' "returns" (TypeExpr.ofJson? (some j))
  let markers ← readMarkers (r.items "markers")
  let args ← (r.items "args").mapM fun j => ArgDef.ofRecord j.record
  return ⟨r.text "endpointName", method, r.text "httpPath", auth, args, returns, r.text "docs",
    r.text "deprecated", markers⟩

/-- Reads a service. -/
def ServiceDef.ofRecord (r : Json.Record) : Except ReadError ServiceDef := do
  let name := TypeName.ofRecord (r.nested "serviceName")
  let endpoints ← (r.items "endpoints").mapM fun j =>
    let e := j.record
    at' ("service " ++ name.text ++ " endpoint " ++ e.text "endpointName")
      (EndpointDef.ofRecord e)
  return ⟨name, endpoints, r.text "docs"⟩

/-! ### Documents -/

namespace Contract

/-- Reads a document from a value. -/
def ofJson (j : Json) : Except ReadError Contract := do
  if !ContractSchema.document.fits j then throw (.malformed "decode conjure definition")
  let r := j.record
  let types ← (r.items "types").mapM Definition.ofJson
  let errors ← (r.items "errors").mapM fun j => ErrorDef.ofRecord j.record
  let services ← (r.items "services").mapM fun j => ServiceDef.ofRecord j.record
  let extensions := match r.last? "extensions" with
    | some (.object _ members) => (Json.toEntries members).toOption.getD []
    | _ => []
  return ⟨r.int "version", errors, types, services, extensions⟩

/-- Reads a document from a text. -/
def ofText (t : Text) : Except ReadError Contract :=
  match Json.read t with
  | .error _ => .error (.malformed "decode conjure definition")
  | .ok j => ofJson j

/-- Reads a document into a contract that is held. The document is read apart from that contract,
which it replaces when all of it is there. -/
def receive (t : Text) : ExceptT Fault (StateM Contract) Unit := do
  let made ← liftExcept ((ofText t).mapError ReadError.fault)
  set made

/-- Reads a document into a contract that holds nothing. -/
def parse (t : Text) : Except Fault Contract :=
  match (receive t).run.run ⟨0, [], [], [], []⟩ with
  | (.ok (), c) => .ok c
  | (.error f, _) => .error f

end Contract

end Accord
