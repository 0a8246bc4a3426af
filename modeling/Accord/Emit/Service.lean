/-
# Services

A service becomes a client and a server. The client is an interface with an
implementation that sends requests; the server is an interface with a function that
registers a route for every endpoint. Query parameters are read into a struct whose
tags name them.

## Main definitions

* `EndpointPlan`: the identifiers and types of an endpoint;
* `Emit.service`: the declarations of a service.
-/

import Accord.Emit.Object

namespace Accord

open Source

/-- The identifiers and type of an argument. -/
structure ArgPlan where
  source : ArgDef
  ident : Text
  goType : Ty
  queryField? : Option Text

/-- The name of an argument on the wire. -/
def ArgPlan.wireName (a : ArgPlan) : Text :=
  if a.source.kind.id.isEmpty then a.source.name else a.source.kind.id

/-- The identifiers and types of an endpoint: `query?` names the struct of its query
parameters and the variable that holds it. -/
structure EndpointPlan where
  source : EndpointDef
  method : Text
  token? : Option Text
  args : List ArgPlan
  returns? : Option Ty
  binaryReturn : Bool
  query? : Option (Text × Text)

namespace Emit

/-! ### Plans -/

/-- Whether an argument can travel where it is put: paths carry plain values, headers also
optional ones, and queries also lists and sets of them. -/
def fitsPlace (r : Resolver) (a : ArgDef) : Bool :=
  let isQuery := match a.kind with
    | .query _ => true
    | _ => false
  match a.kind, a.type with
  | .body, _ => true
  | .path, t => r.isPlain t
  | _, .optional item => r.isPlain item
  | _, .list item => isQuery && r.isPlain item
  | _, .set item => isQuery && r.isPlain item
  | _, t => r.isPlain t

/-- The fault of an argument that cannot travel where it is put. -/
def misplaced (a : ArgDef) : Fault :=
  .mark .unsupported (a.kind.text ++ " parameter " ++ a.name ++ " has type " ++ a.type.text ++
    " without a plain text form")

/-- Plans the arguments of an endpoint. -/
def planArgs (r : Resolver) : (locals queryFields : Scope) → List ArgDef →
    Emit (List ArgPlan × Scope)
  | locals, _, [] => return ([], locals)
  | locals, queryFields, a :: rest => do
    let (ident, locals) ← declareIn locals (unexported a.name)
    let goType ← resolve r a.type
    let (queryField?, queryFields) ← match a.kind with
      | .query _ => do
        let (field, scope) ← declareIn queryFields (exported a.name)
        pure (some field, scope)
      | _ => pure (none, queryFields)
    if !fitsPlace r a then throw (misplaced a)
    let (plans, locals) ← planArgs r locals queryFields rest
    return (⟨a, ident, goType, queryField?⟩ :: plans, locals)

/-- Plans an endpoint. -/
def planEndpoint (r : Resolver) (service : TypeName) (name : Text) (methods : Scope)
    (e : EndpointDef) : Emit (EndpointPlan × Scope) :=
  within ("endpoint " ++ e.name ++ " of " ++ service.text) do
    let (method, methods) ← declareIn methods (exported e.name)
    let (token?, scope) ← match e.auth with
      | .none => pure (none, locals)
      | _ => do
        let (token, scope) ← declareIn locals "token"
        pure (some token, scope)
    let (args, scope) ← planArgs r scope {} e.args
    let query? ←
      if args.any (·.queryField?.isSome) then do
        let struct ← declare (r.target.packagePath service)
          (unexported name ++ exported e.name ++ "Query")
        let (ident, _) ← declareIn scope "queryParams"
        pure (some (struct, ident))
      else pure none
    let returns? ← match e.returns with
      | some t => do
        let goType ← resolve r t
        pure (some goType)
      | none => pure none
    let binaryReturn := (e.returns.map r.isBinary).getD false
    return (⟨e, method, token?, args, returns?, binaryReturn, query?⟩, methods)

/-- Plans the endpoints of a service. -/
def planEndpoints (r : Resolver) (service : TypeName) (name : Text) :
    Scope → List EndpointDef → Emit (List EndpointPlan)
  | _, [] => return []
  | methods, e :: rest => do
    let (plan, methods) ← planEndpoint r service name methods e
    return plan :: (← planEndpoints r service name methods rest)

/-! ### Interfaces -/

/-- The context that every call carries. -/
def contextParam : Source.Param := ⟨"ctx", .qualified "context" "Context"⟩

/-- The signature of an endpoint, which client and server share. -/
def signature (r : Resolver) (e : EndpointPlan) : Signature :=
  let token : List Source.Param := match e.token? with
    | some token => [⟨token, r.runtime "BearerToken"⟩]
    | none => []
  let results : List Ty := match e.returns? with
    | some t => [t, .error]
    | none => [.error]
  ⟨[contextParam] ++ token ++ e.args.map (fun a => ⟨a.ident, a.goType⟩), results⟩

/-- The methods of the interface of a service. -/
def endpointMethods (r : Resolver) (endpoints : List EndpointPlan) : List Method :=
  endpoints.map fun e =>
    ⟨r.docLines e.source.docs e.source.deprecated, e.method, signature r e⟩

/-! ### The client -/

/-- A statement for every value that an argument carries: one for a required value, one if
there is an optional value, one for each element of a list or set. -/
def eachValue (a : ArgPlan) (use : Expr → Stmt) : Stmt :=
  let ident : Expr := .ident a.ident
  match a.source.type with
  | .optional _ => .when (.isNotNull ident) [use (.deref ident)]
  | .list _ => .forEach "v" ident [use (.ident "v")]
  | .set _ => .forEach "v" ident [use (.ident "v")]
  | _ => use ident

/-- The statement of a client that puts an argument into the request. -/
def sendArg (r : Resolver) (failure : List Expr) (a : ArgPlan) : Stmt :=
  let req : Expr := .ident "req"
  let ident : Expr := .ident a.ident
  match a.source.kind with
  | .path => .checkErr (req.method "SetPathParam" [.string a.source.name, ident]) failure
  | .query _ => eachValue a fun v =>
      .checkErr (req.method "AddQuery" [.string a.wireName, v]) failure
  | .header _ => eachValue a fun v =>
      .checkErr (req.method "SetHeader" [.string a.wireName, v]) failure
  | .body =>
    if r.isBinary a.source.type then .expr (req.method "SetBinaryBody" [.convert .bytes ident])
    else .expr (req.method "SetJSONBody" [ident])

/-- The statements of a client that put the credential into the request. -/
def sendToken (e : EndpointPlan) : List Stmt :=
  let req : Expr := .ident "req"
  let token : Expr := .ident (e.token?.getD [])
  match e.source.auth with
  | .none => []
  | .header => [.expr (req.method "SetBearerToken" [token])]
  | .cookie name => [.expr (req.method "SetCookieToken" [.string name, token])]

/-- The method of the client for an endpoint. -/
def clientMethod (r : Resolver) (impl : Text) (e : EndpointPlan) : Item :=
  let result : Expr := .ident "result"
  let send (place : Expr) : Expr :=
    (Expr.select (.ident "c") "client").method "Do" [.ident "ctx", .ident "req", place]
  let failure : List Expr := match e.returns? with
    | none => []
    | some _ => if e.binaryReturn then [.null] else [result]
  let head : List Stmt := match e.returns? with
    | none => []
    | some t => [.var "result" (if e.binaryReturn then .bytes else t)]
  let tail : List Stmt := match e.returns? with
    | none => [.ret [send .null]]
    | some t =>
      if e.binaryReturn then
        [.expr ((Expr.ident "req").method "ExpectBinaryResponse" []),
         .checkErr (send (.address result)) failure,
         .ret [.convert t result, .null]]
      else [.checkErr (send (.address result)) failure, .ret [result, .null]]
  let request : List Stmt :=
    [.define ["req", "err"] (.call (r.runtimeExpr "NewRequest")
      [.string e.source.method, .string e.source.path]),
     .returnErr failure]
  ⟨[], .func (some ⟨"c", .pointer (.ident impl)⟩) e.method (signature r e)
    (head ++ request ++ sendToken e ++ e.args.map (sendArg r failure) ++ tail)⟩

/-! ### The server -/

/-- The statements of a handler that read the credential. -/
def receiveToken (e : EndpointPlan) : List Stmt :=
  let req : Expr := .ident "req"
  let vars : List Text := [e.token?.getD [], "err"]
  match e.source.auth with
  | .none => []
  | .header => [.define vars (req.method "BearerToken" []), .returnErr [.null]]
  | .cookie name => [.define vars (req.method "CookieToken" [.string name]), .returnErr [.null]]

/-- The statements of a handler that read an argument. -/
def receiveArg (r : Resolver) (a : ArgPlan) : List Stmt :=
  let req : Expr := .ident "req"
  let ident : Expr := .ident a.ident
  let declared : Stmt := .var a.ident a.goType
  match a.source.kind with
  | .query _ => []
  | .path =>
    [declared,
     .checkErr (req.method "DecodePathParam" [.string a.source.name, .address ident]) [.null]]
  | .header _ =>
    match a.source.type, a.goType with
    | .optional _, .pointer inner =>
      [declared,
       .assign ident (.call (.ident "new") [.type inner]),
       .whenDefinedElse ["found", "err"]
        (req.method "DecodeOptionalHeader" [.string a.wireName, ident]) (.isNotNull .err)
        [.ret [.null, .err]]
        (.unary "!" (.ident "found")) [.assign ident .null]]
    | _, _ =>
      [declared,
       .checkErr (req.method "DecodeHeader" [.string a.wireName, .address ident]) [.null]]
  | .body =>
    if r.isBinary a.source.type then
      [.define [a.ident] (.convert a.goType (.select req "Body"))]
    else
      let how : Text :=
        if r.isRequired a.source.type then "DecodeBody" else "DecodeOptionalBody"
      [declared, .checkErr (req.method how [.address ident]) [.null]]

/-- The function that handles requests to an endpoint. -/
def handler (r : Resolver) (e : EndpointPlan) : Expr :=
  let query : List Stmt := match e.query? with
    | some (struct, ident) =>
      [.var ident (.ident struct),
       .checkErr ((Expr.ident "req").method "DecodeQuery" [.address (.ident ident)]) [.null]]
    | none => []
  let token : List Expr := match e.token? with
    | some token => [.ident token]
    | none => []
  let args : List Expr := e.args.map fun a =>
    match a.queryField?, e.query? with
    | some field, some (_, ident) => .select (.ident ident) field
    | _, _ => .ident a.ident
  let call : Expr := (Expr.ident "impl").method e.method ([.ident "ctx"] ++ token ++ args)
  let tail : List Stmt := match e.returns? with
    | none => [.ret [.null, call]]
    | some _ =>
      if e.binaryReturn then
        [.define ["result", "err"] call, .returnErr [.null],
         .ret [.convert .bytes (.ident "result"), .null]]
      else [.ret [call]]
  .func ⟨[contextParam, ⟨"req", .pointer (r.runtime "ServerRequest")⟩], [.any, .error]⟩
    (receiveToken e ++ query ++ e.args.flatMap (receiveArg r) ++ tail)

/-- The statement that registers the route of an endpoint. -/
def registration (r : Resolver) (service : Text) (e : EndpointPlan) : Stmt :=
  let codec : List (Text × Expr) :=
    if e.binaryReturn then [("ResponseCodec", r.codecs "Binary")] else []
  let parts : List (Text × Expr) :=
    [("ServiceName", .string service), ("EndpointName", .string e.source.name),
     ("Method", .string e.source.method), ("Path", .string e.source.path),
     ("Handler", handler r e)]
  let route : Expr := .record (r.runtime "Route") (parts ++ codec)
  .checkErr ((Expr.ident "router").method "Register" [route]) []

/-- Whether a symbol can stand between back quotes. -/
def isRaw : Symbol → Bool
  | .char c =>
    c = '\t' || (0x20 ≤ c.toNat && c.toNat != 0x60 && c.toNat != 0x7F && c.toNat != 0xFEFF)
  | .stray _ => false

/-- A tag that names a query parameter, between back quotes where it can be. -/
def queryTag (r : Resolver) (a : ArgPlan) : Text :=
  let value : Text :=
    if r.isRequired a.source.type then a.wireName ++ ",required" else a.wireName
  let tag := "schema:\"" ++ value ++ "\""
  if tag.symbols.all isRaw then "\x60" ++ tag ++ "\x60" else tag.quote

/-- The struct of the query parameters of an endpoint. -/
def queryStruct? (r : Resolver) (e : EndpointPlan) : Option Item :=
  e.query?.map fun (struct, _) =>
    ⟨[], .struct struct (e.args.filterMap fun a =>
      a.queryField?.map fun field => ⟨field, a.goType, some (queryTag r a)⟩)⟩

/-- The declarations of a service. -/
def service (r : Resolver) (s : ServiceDef) (name : Text) : Emit (List Item) := do
  let package := r.target.packagePath s.name
  let endpoints ← planEndpoints r s.name name {} s.endpoints
  let client ← declare package (name ++ "Client")
  let impl ← declare package (unexported name ++ "Client")
  let ctor ← declare package ("New" ++ name ++ "Client")
  let register ← declare package ("Register" ++ name)
  let docs : List Text :=
    if r.target.comments && !Docs.isEmpty s.docs then r.docLines s.docs []
    else [client ++ " is the client of " ++ s.name.name ++ "."]
  let methods := endpointMethods r endpoints
  let clientParam : Source.Param := ⟨"client", r.runtime "Client"⟩
  return [⟨docs, .interface client methods⟩,
     ⟨[], .struct impl [⟨"client", r.runtime "Client", none⟩]⟩,
     ⟨[ctor ++ " returns a " ++ client ++ " that sends requests through client."],
      .func none ctor ⟨[clientParam], [.ident client]⟩
        [.ret [.address (.record (.ident impl) [("client", .ident "client")])]]⟩] ++
    endpoints.map (clientMethod r impl) ++
    [⟨[name ++ " is implemented by servers of " ++ s.name.name ++ "."],
      .interface name methods⟩] ++
    endpoints.filterMap (queryStruct? r) ++
    [⟨[register ++ " registers a route for every endpoint of " ++ s.name.name ++ "."],
      .func none register ⟨[⟨"router", r.runtime "Router"⟩, ⟨"impl", .ident name⟩], [.error]⟩
        (endpoints.map (registration r s.name.name) ++ [.ret [.null]])⟩]

end Emit

end Accord
