/-
# Contracts

A contract declares what services speak: types, errors and services with their
endpoints. It is a plain value; that its references resolve and its paths parse is
checked elsewhere.

## Main definitions

* `TypeName`: a name in a package;
* `TypeExpr`: a type expression;
* `Definition`, `ErrorDef`, `ServiceDef`: the three kinds of declarations;
* `Contract`: a whole document.
-/

import Accord.Json.Basic
import Accord.Text.Category

namespace Accord

/-- A name in a package. -/
structure TypeName where
  name : Text
  package : Text
  deriving DecidableEq, Repr, Inhabited

namespace TypeName

/-- The qualified spelling; a name in no package stands alone. -/
def text (n : TypeName) : Text :=
  if n.package.isEmpty then n.name else n.package ++ "." ++ n.name

/-- Whether this is no name at all. -/
def isZero (n : TypeName) : Bool := n.name.isEmpty && n.package.isEmpty

/-- The order by package, then by name. -/
def le (a b : TypeName) : Bool :=
  if a.package = b.package then Text.le a.name b.name else Text.le a.package b.package

end TypeName

/-! ### Types -/

/-- A primitive type. -/
inductive Primitive where
  | string | datetime | integer | double | safelong | binary | any | boolean | uuid | rid
  | bearertoken
  deriving DecidableEq, Repr

namespace Primitive

/-- The spelling in type expressions. -/
def text : Primitive → Text
  | string => "string"
  | datetime => "datetime"
  | integer => "integer"
  | double => "double"
  | safelong => "safelong"
  | binary => "binary"
  | any => "any"
  | boolean => "boolean"
  | uuid => "uuid"
  | rid => "rid"
  | bearertoken => "bearertoken"

/-- All primitive types. -/
def values : List Primitive :=
  [string, datetime, integer, double, safelong, binary, any, boolean, uuid, rid, bearertoken]

/-- The spelling in documents. -/
def keyword (p : Primitive) : Text := p.text.map Text.upperByte

/-- The primitive type with a spelling in documents. -/
def ofKeyword? (t : Text) : Option Primitive := values.find? (·.keyword = t)

end Primitive

/-- A type expression. An external type may have a fallback for those who do not know it. -/
inductive TypeExpr where
  | primitive (p : Primitive)
  | optional (item : TypeExpr)
  | list (item : TypeExpr)
  | set (item : TypeExpr)
  | map (key value : TypeExpr)
  | reference (target : TypeName)
  | external (target : TypeName)
  | externalOr (target : TypeName) (fallback : TypeExpr)
  deriving DecidableEq, Repr

namespace TypeExpr

instance : Inhabited TypeExpr := ⟨.primitive .any⟩

/-- The spelling of a type expression. -/
def text : TypeExpr → Text
  | primitive p => p.text
  | optional item => "optional<" ++ item.text ++ ">"
  | list item => "list<" ++ item.text ++ ">"
  | set item => "set<" ++ item.text ++ ">"
  | map key value => "map<" ++ key.text ++ ", " ++ value.text ++ ">"
  | reference target => target.text
  | external target => "external<" ++ target.text ++ ">"
  | externalOr target _ => "external<" ++ target.text ++ ">"

/-- The word for the outermost kind of a type expression. -/
def kind : TypeExpr → Text
  | primitive _ => "primitive"
  | optional _ => "optional"
  | list _ => "list"
  | set _ => "set"
  | map _ _ => "map"
  | reference _ => "reference"
  | external _ => "external"
  | externalOr _ _ => "external"

/-- The names a type expression refers to, from left to right. -/
def references : TypeExpr → List TypeName
  | primitive _ => []
  | optional item => item.references
  | list item => item.references
  | set item => item.references
  | map key value => key.references ++ value.references
  | reference target => [target]
  | external _ => []
  | externalOr _ fallback => fallback.references

end TypeExpr

/-! ### Documentation -/

namespace Docs

/-- Whether there is nothing to say. -/
def isEmpty (docs : Text) : Bool := docs.trim.isEmpty

/-- The lines of a documentation text: without blank lines around it, and without blanks at
the end of a line. -/
def lines (docs : Text) : List Text :=
  let newline := Text.byte '\n'
  let text := Text.trimWhile (· = newline) (Text.replace "\r\n" "\n" docs)
  if text.trim.isEmpty then []
  else (Text.split newline text).map
    (Text.dropRightWhile fun b => b = Text.byte ' ' || b = Text.byte '\t')

end Docs

/-- Whether a value may be logged. -/
inductive LogSafety where
  | unset
  | safe
  | redacted
  | doNotLog
  deriving DecidableEq, Repr

namespace LogSafety

/-- The spelling in documents. -/
def text : LogSafety → Text
  | unset => ""
  | safe => "SAFE"
  | redacted => "UNSAFE"
  | doNotLog => "DO_NOT_LOG"

/-- The safety with a spelling. -/
def ofText? (t : Text) : Option LogSafety := [unset, safe, redacted, doNotLog].find? (·.text = t)

end LogSafety

/-! ### Definitions -/

/-- A field of an object or error, or a variant of a union. -/
structure FieldDef where
  name : Text
  type : TypeExpr
  docs : Text := []
  deprecated : Text := []
  safety : LogSafety := .unset
  deriving DecidableEq, Repr

/-- A value of an enumeration. -/
structure EnumValue where
  value : Text
  docs : Text := []
  deprecated : Text := []
  deriving DecidableEq, Repr

/-- What a type definition declares. -/
inductive Shape where
  | aliasFor (target : TypeExpr) (safety : LogSafety)
  | enum (values : List EnumValue)
  | object (fields : List FieldDef)
  | union (variants : List FieldDef)
  deriving DecidableEq, Repr

namespace Shape

/-- The word for the kind of a definition. -/
def kind : Shape → Text
  | aliasFor _ _ => "alias"
  | enum _ => "enum"
  | object _ => "object"
  | union _ => "union"

end Shape

/-- A type definition. -/
structure Definition where
  name : TypeName
  docs : Text
  shape : Shape
  deriving DecidableEq, Repr

/-- An error definition: its arguments are safe to log or not. -/
structure ErrorDef where
  name : TypeName
  space : Text
  code : Text
  safeArgs : List FieldDef
  otherArgs : List FieldDef
  docs : Text
  deriving DecidableEq, Repr

namespace ErrorDef

/-- The codes an error may have. -/
def codes : List Text :=
  ["PERMISSION_DENIED", "INVALID_ARGUMENT", "NOT_FOUND", "CONFLICT", "REQUEST_ENTITY_TOO_LARGE",
   "FAILED_PRECONDITION", "INTERNAL", "TIMEOUT", "CUSTOM_CLIENT", "CUSTOM_SERVER"]

/-- The name of an error on the wire. -/
def qualified (e : ErrorDef) : Text := e.space ++ ":" ++ e.name.name

/-- All arguments, the safe ones first. -/
def args (e : ErrorDef) : List FieldDef := e.safeArgs ++ e.otherArgs

/-- The names of the safe arguments in order. -/
def safeNames (e : ErrorDef) : List Text := Text.sort (e.safeArgs.map (·.name))

end ErrorDef

/-- How an endpoint is authorised. -/
inductive Auth where
  | none
  | header
  | cookie (name : Text)
  deriving DecidableEq, Repr

/-- Where an argument travels. -/
inductive ParamKind where
  | body
  | path
  | query (id : Text)
  | header (id : Text)
  deriving DecidableEq, Repr

namespace ParamKind

/-- The word for a kind. -/
def text : ParamKind → Text
  | body => "body"
  | path => "path"
  | query _ => "query"
  | header _ => "header"

/-- The key of a query argument or the name of a header. -/
def id : ParamKind → Text
  | query id => id
  | header id => id
  | _ => []

end ParamKind

/-- An argument of an endpoint. -/
structure ArgDef where
  name : Text
  type : TypeExpr
  kind : ParamKind
  docs : Text
  markers : List TypeExpr
  safety : LogSafety
  deriving DecidableEq, Repr

/-- An endpoint of a service. -/
structure EndpointDef where
  name : Text
  method : Text
  path : Text
  auth : Auth
  args : List ArgDef
  returns : Option TypeExpr
  docs : Text
  deprecated : Text
  markers : List TypeExpr
  deriving DecidableEq, Repr

namespace EndpointDef

/-- The methods an endpoint may have. -/
def methods : List Text := ["GET", "POST", "PUT", "DELETE"]

/-- The first argument that travels in the body. -/
def body? (e : EndpointDef) : Option ArgDef := e.args.find? (·.kind = .body)

/-- The arguments of a kind. -/
def argsOf (e : EndpointDef) (kind : Text) : List ArgDef := e.args.filter (·.kind.text = kind)

end EndpointDef

/-- A service definition. -/
structure ServiceDef where
  name : TypeName
  endpoints : List EndpointDef
  docs : Text
  deriving DecidableEq, Repr

/-- A contract document. -/
structure Contract where
  version : Int
  errors : List ErrorDef
  types : List Definition
  services : List ServiceDef
  extensions : List (Text × Any)
  deriving Inhabited

namespace Contract

/-- The first type definition of a name. -/
def type? (c : Contract) (n : TypeName) : Option Definition := c.types.find? (·.name = n)

/-- The first error definition of a name. -/
def error? (c : Contract) (n : TypeName) : Option ErrorDef := c.errors.find? (·.name = n)

/-- The first service definition of a name. -/
def service? (c : Contract) (n : TypeName) : Option ServiceDef := c.services.find? (·.name = n)

/-- The names that a contract declares: types, errors, then services. -/
def names (c : Contract) : List TypeName :=
  c.types.map (·.name) ++ c.errors.map (·.name) ++ c.services.map (·.name)

/-- The packages that a contract declares names in, each once, in order. -/
def packages (c : Contract) : List Text := Text.sort (Text.distinct (c.names.map (·.package)))

end Contract

end Accord
