/-
# Outlines

The outline of a contract is the contract as untyped data, for tools that look at
contracts without knowing their types. Besides what a contract says it holds a few
things that follow from it, such as the qualified names of errors and what is wrong
with the contract.

## Main definitions

* `TypeExpr.outline`, `Definition.outline`: the outlines of a type and of a definition;
* `Contract.outline`: the outline of a contract;
* `Contract.mention`: what a contract says about a name.
-/

import Accord.Contract.Check
import Accord.Contract.Lookup

namespace Accord

namespace Any

/-- An integer. -/
def ofInt (n : Int) : Any := .number ((Double.read (Text.ofInt n)).toOption.getD .zero)

/-- A list of texts. -/
def texts (ts : List Text) : Any := .list (ts.map .string)

end Any

/-- A name as the name of its package and its own. -/
def TypeName.outline (n : TypeName) : Any := .texts [n.package, n.name]

/-- The outline of a type. -/
def TypeExpr.outline (t : TypeExpr) : Any :=
  let head : List (Text × Any) := [("kind", .string t.kind), ("string", .string t.text)]
  let more : List (Text × Any) := match t with
    | .primitive _ => []
    | .optional item => [("item", item.outline)]
    | .list item => [("item", item.outline)]
    | .set item => [("item", item.outline)]
    | .map key value => [("key", key.outline), ("value", value.outline)]
    | .reference n => [("target", n.outline)]
    | .external n => [("target", n.outline)]
    | .externalOr n fallback => [("target", n.outline), ("fallback", fallback.outline)]
  .map (head ++ more)

/-- The outline of a field. -/
def FieldDef.outline (f : FieldDef) : Any :=
  .map [("name", .string f.name), ("type", f.type.outline), ("docs", .string f.docs),
    ("deprecated", .string f.deprecated), ("safety", .string f.safety.text)]

/-- The outline of a definition. -/
def Definition.outline (d : Definition) : Any :=
  let head : List (Text × Any) :=
    [("kind", .string d.shape.kind), ("name", d.name.outline), ("docs", .string d.docs)]
  let more : List (Text × Any) := match d.shape with
    | .object fields => [("fields", .list (fields.map FieldDef.outline))]
    | .union variants => [("fields", .list (variants.map FieldDef.outline))]
    | .enum values =>
      [("values", .list (values.map fun v => .texts [v.value, v.docs, v.deprecated]))]
    | .aliasFor target safety => [("alias", target.outline), ("safety", .string safety.text)]
  .map (head ++ more)

/-- The outline of an argument. -/
def ArgDef.outline (a : ArgDef) : Any :=
  .map [("name", .string a.name), ("type", .string a.type.text), ("param", .string a.kind.text),
    ("param_id", .string a.kind.id), ("docs", .string a.docs),
    ("markers", .texts (a.markers.map TypeExpr.text)), ("safety", .string a.safety.text)]

/-- The outline of a way to send credentials: its number and the name of the cookie. -/
def Auth.outline : Auth → Any
  | .none => .list [.ofInt 0, .string []]
  | .header => .list [.ofInt 1, .string []]
  | .cookie name => .list [.ofInt 2, .string name]

/-- The outline of an endpoint. -/
def EndpointDef.outline (e : EndpointDef) : Any :=
  let kinds : List Text := ["body", "path", "query", "header"]
  let head : List (Text × Any) :=
    [("name", .string e.name), ("method", .string e.method), ("path", .string e.path),
     ("auth", e.auth.outline), ("args", .list (e.args.map ArgDef.outline)),
     ("returns", (e.returns.map fun t => Any.string t.text).getD .null),
     ("docs", .string e.docs), ("deprecated", .string e.deprecated),
     ("markers", .texts (e.markers.map TypeExpr.text)),
     ("counts", .list (kinds.map fun k => .ofInt (e.argsOf k).length))]
  let body : List (Text × Any) := match e.body? with
    | some a => [("body", .string a.name)]
    | none => []
  .map (head ++ body)

/-- The outline of an error. -/
def ErrorDef.outline (e : ErrorDef) : Any :=
  .map [("name", e.name.outline), ("namespace", .string e.space), ("code", .string e.code),
    ("docs", .string e.docs), ("safe", .list (e.safeArgs.map FieldDef.outline)),
    ("unsafe", .list (e.otherArgs.map FieldDef.outline)), ("qualified", .string e.qualified),
    ("safe_names", .texts e.safeNames), ("all", .ofInt e.args.length)]

/-- The outline of a service. -/
def ServiceDef.outline (s : ServiceDef) : Any :=
  .map [("name", s.name.outline), ("docs", .string s.docs),
    ("endpoints", .list (s.endpoints.map EndpointDef.outline))]

/-- The outline of a contract. -/
def Contract.outline (c : Contract) : Any :=
  .map [("version", .ofInt c.version), ("types", .list (c.types.map Definition.outline)),
    ("errors", .list (c.errors.map ErrorDef.outline)),
    ("services", .list (c.services.map ServiceDef.outline)),
    ("extensions", .map c.extensions), ("packages", .texts c.packages),
    ("validate", .list (c.problems.map fun p => .texts [p.code, p.message]))]

/-- What a contract says about a name: the kind of its type, the qualified name of its error,
the number of endpoints of its service, and the names it refers to. -/
def Contract.mention (c : Contract) (n : TypeName) : Any :=
  .map [("type", ((c.type? n).map fun d => Any.string d.shape.kind).getD .null),
    ("error", ((c.error? n).map fun e => Any.string e.qualified).getD .null),
    ("service", ((c.service? n).map fun s => Any.ofInt s.endpoints.length).getD .null),
    ("refs", .texts ((c.refs n).map TypeName.text)), ("indexed", .bool (c.definition? n).isSome)]

end Accord
