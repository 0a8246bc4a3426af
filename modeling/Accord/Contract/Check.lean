/-
# Checking contracts

A contract that can be read may still contradict itself: names declared twice,
references to nothing, endpoints whose arguments do not fit their path. The check
reports every such problem, in the order of the document.

## Main definitions

* `Problem`: what is wrong, with its `code` and `message`;
* `Contract.problems`: everything that is wrong with a contract.
-/

import Accord.Contract.Basic
import Accord.Path.Template

namespace Accord

/-- What is wrong with a contract. -/
inductive Problem where
  | unsupportedVersion (version : Int)
  | emptyName (what package : Text)
  | duplicateType (name : TypeName)
  | missingReference (place : Text) (target : TypeName)
  | duplicateField (name owner : Text)
  | emptyUnion (owner : Text)
  | duplicateEnumValue (value owner : Text)
  | emptyNamespace (error : TypeName)
  | duplicateEndpoint (service : TypeName) (name : Text)
  | invalidPath (endpoint : Text) (cause : Template.Error)
  | duplicateArgument (name endpoint : Text)
  | multipleBodies (endpoint : Text) (count : Nat)
  | getWithBody (endpoint : Text)
  | unboundParameter (endpoint parameter : Text)
  | unknownPathArguments (endpoint : Text) (args : List Text) (path : Text)
  deriving DecidableEq, Repr

namespace Problem

/-- The short name of a kind of problem. -/
def code : Problem → Text
  | unsupportedVersion _ => "unsupported_version"
  | emptyName _ _ => "empty_name"
  | duplicateType _ => "duplicate_type"
  | missingReference _ _ => "missing_type_reference"
  | duplicateField _ _ => "duplicate_field"
  | emptyUnion _ => "empty_union"
  | duplicateEnumValue _ _ => "duplicate_enum_value"
  | emptyNamespace _ => "empty_namespace"
  | duplicateEndpoint _ _ => "duplicate_endpoint"
  | invalidPath _ _ => "invalid_path"
  | duplicateArgument _ _ => "duplicate_arg"
  | multipleBodies _ _ => "multiple_bodies"
  | getWithBody _ => "get_with_body"
  | unboundParameter _ _ => "unbound_path_param"
  | unknownPathArguments _ _ _ => "unknown_path_arg"

/-- The message of a problem. -/
def message : Problem → Text
  | unsupportedVersion version => "unsupported conjure IR version " ++ Text.ofInt version
  | emptyName what package => what ++ " with empty name in package " ++ package.quote
  | duplicateType n => "duplicate type name: " ++ n.name ++ " (package: " ++ n.package ++ ")"
  | missingReference place n =>
    place ++ " references unknown type " ++ n.name ++ " (package: " ++ n.package ++ ")"
  | duplicateField name owner => "duplicate field " ++ name ++ " in " ++ owner
  | emptyUnion owner => "union " ++ owner ++ " has no variants"
  | duplicateEnumValue value owner => "duplicate value " ++ value ++ " in enum " ++ owner
  | emptyNamespace error => "error " ++ error.text ++ " has no namespace"
  | duplicateEndpoint service name =>
    "duplicate endpoint name in service " ++ service.text ++ ": " ++ name
  | invalidPath endpoint cause => "endpoint " ++ endpoint ++ ": " ++ cause.message
  | duplicateArgument name endpoint =>
    "duplicate argument " ++ name ++ " in endpoint " ++ endpoint
  | multipleBodies endpoint count =>
    "endpoint " ++ endpoint ++ " declares " ++ Text.ofNat count ++ " body arguments"
  | getWithBody endpoint => "GET endpoint " ++ endpoint ++ " declares a body argument"
  | unboundParameter endpoint parameter =>
    "endpoint " ++ endpoint ++ ": path parameter \x7b" ++ parameter ++
      "\x7d has no path argument"
  | unknownPathArguments endpoint args path =>
    "endpoint " ++ endpoint ++ ": path arguments " ++ Text.join ", " args ++
      " do not appear in " ++ path

end Problem

namespace Contract

/-! ### Names -/

/-- The problems of declared names, each with the word for what it declares. A name that was
declared before is a problem. -/
def nameProblems : (declared : List TypeName) → List (TypeName × Text) → List Problem
  | _, [] => []
  | declared, (n, what) :: rest =>
    if n.name.isEmpty then .emptyName what n.package :: nameProblems declared rest
    else if declared.contains n then .duplicateType n :: nameProblems declared rest
    else nameProblems (n :: declared) rest

/-- The names of types and errors, which share one space, with the word for each. -/
def declarations (c : Contract) : List (TypeName × Text) :=
  c.types.map (fun t => (t.name, t.shape.kind)) ++
    c.errors.map fun e => (e.name, ("error" : Text))

/-- The names that references may refer to. -/
def declaredNames (c : Contract) : List TypeName :=
  (c.declarations.map (·.1)).filter (!·.name.isEmpty)

/-! ### Types -/

/-- The problems of the references in a type. -/
def referenceProblems (declared : List TypeName) (place : Text) (t : TypeExpr) : List Problem :=
  (t.references.filter (!declared.contains ·)).map (.missingReference place)

/-- The problems of a list of fields. -/
def fieldProblems (declared : List TypeName) (owner : Text) :
    (seen : List Text) → List FieldDef → List Problem
  | _, [] => []
  | seen, f :: rest =>
    (if seen.contains f.name then [.duplicateField f.name owner] else []) ++
      referenceProblems declared (owner ++ "." ++ f.name) f.type ++
      fieldProblems declared owner (f.name :: seen) rest

/-- The problems of the values of an enumeration. -/
def valueProblems (owner : Text) : (seen : List Text) → List EnumValue → List Problem
  | _, [] => []
  | seen, v :: rest =>
    (if seen.contains v.value then [.duplicateEnumValue v.value owner] else []) ++
      valueProblems owner (v.value :: seen) rest

/-- The problems of a type definition. -/
def definitionProblems (declared : List TypeName) (d : Definition) : List Problem :=
  let owner := d.name.text
  match d.shape with
  | .object fields => fieldProblems declared owner [] fields
  | .union variants =>
    (if variants.isEmpty then [.emptyUnion owner] else []) ++
      fieldProblems declared owner [] variants
  | .aliasFor target _ => referenceProblems declared owner target
  | .enum values => valueProblems owner [] values

/-- The problems of an error definition. -/
def errorProblems (declared : List TypeName) (e : ErrorDef) : List Problem :=
  fieldProblems declared e.name.text [] e.args ++
    if e.space.isEmpty then [.emptyNamespace e.name] else []

/-! ### Services -/

/-- The problems of the names and types of arguments. -/
def argumentProblems (declared : List TypeName) (endpoint : Text) :
    (seen : List Text) → List ArgDef → List Problem
  | _, [] => []
  | seen, a :: rest =>
    (if seen.contains a.name then [.duplicateArgument a.name endpoint] else []) ++
      referenceProblems declared (endpoint ++ "(" ++ a.name ++ ")") a.type ++
      argumentProblems declared endpoint (a.name :: seen) rest

/-- The problems of the number of bodies. -/
def bodyProblems (endpoint : Text) (e : EndpointDef) : List Problem :=
  let bodies := (e.args.filter (·.kind = .body)).length
  (if 1 < bodies then [.multipleBodies endpoint bodies] else []) ++
    if 0 < bodies && e.method = "GET" then [.getWithBody endpoint] else []

/-- The parameters of a path that no argument is left for. Each argument serves one. -/
def unboundParameters : (args : List Text) → (params : List Text) → List Text
  | _, [] => []
  | args, p :: rest =>
    (if args.contains p then [] else [p]) ++ unboundParameters (args.filter (· != p)) rest

/-- The problems of fitting path arguments to the parameters of a path. -/
def pathProblems (endpoint : Text) (e : EndpointDef) (t : Template) : List Problem :=
  let args := Text.distinct ((e.args.filter (·.kind = .path)).map (·.name))
  let extra := Text.sort (args.filter (!t.names.contains ·))
  (unboundParameters args t.names).map (.unboundParameter endpoint) ++
    if extra.isEmpty then [] else [.unknownPathArguments endpoint extra e.path]

/-- The problems of an endpoint apart from its name. -/
def endpointProblems (declared : List TypeName) (service : TypeName) (e : EndpointDef) :
    List Problem :=
  let endpoint := service.text ++ "." ++ e.name
  let returns := match e.returns with
    | some t => referenceProblems declared (endpoint ++ " returns") t
    | none => []
  let template := Template.parse e.path
  let path := match template with
    | .error cause => [.invalidPath endpoint cause]
    | .ok _ => []
  let fit := match template with
    | .error _ => []
    | .ok t => pathProblems endpoint e t
  returns ++ path ++ argumentProblems declared endpoint [] e.args ++ bodyProblems endpoint e ++ fit

/-- The problems of the endpoints of a service. -/
def endpointsProblems (declared : List TypeName) (service : TypeName) :
    (seen : List Text) → List EndpointDef → List Problem
  | _, [] => []
  | seen, e :: rest =>
    (if seen.contains e.name then [.duplicateEndpoint service e.name] else []) ++
      endpointProblems declared service e ++
      endpointsProblems declared service (e.name :: seen) rest

/-! ### Documents -/

/-- Everything that is wrong with a contract. -/
def problems (c : Contract) : List Problem :=
  let declared := c.declaredNames
  (if c.version = 0 || c.version = 1 then [] else [.unsupportedVersion c.version]) ++
    nameProblems [] c.declarations ++
    c.types.flatMap (definitionProblems declared) ++
    c.errors.flatMap (errorProblems declared) ++
    c.services.flatMap fun s => endpointsProblems declared s.name [] s.endpoints

end Contract

end Accord
