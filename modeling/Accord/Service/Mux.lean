/-
# Dispatching in process

A mux keeps routes and dispatches requests to them. Bodies, results and errors pass
through their wire forms, so that a client and a server can be tried together
without a network between them. Of several routes that match a path the most
specific one is taken, and of equally specific ones the first.

## Main definitions

* `Route`, `Mux`: an endpoint with its handler, and a table of them;
* `Template.moreSpecific`: which of two templates is taken;
* `Mux.register`: adds a route;
* `Mux.find?`: the route for a method and a path;
* `Mux.call`: makes a call.
-/

import Accord.Service.Envelope
import Accord.Service.Request
import Accord.Service.Serve

namespace Accord

/-! ### Precedence of templates -/

namespace Template

/-- How specific a segment is: a fixed text is more so than a parameter, one without a pattern
more than one with, and one that stands for the rest of the path is the least. -/
def rank (isLast : Bool) : Segment → Nat
  | .fixed _ => 3
  | .parameter p =>
    match p.pattern with
    | none => 2
    | some _ => if isLast then 0 else 1

/-- How specific the segments are, in order. -/
def ranks : Template → List Nat
  | [] => []
  | s :: rest => rank rest.isEmpty s :: ranks rest

/-- Compares ranks: the first difference decides, and the shorter of two lists that agree is the
higher. -/
def ranksAbove : List Nat → List Nat → Bool
  | [], [] => false
  | [], _ :: _ => true
  | _ :: _, [] => false
  | a :: s, b :: t => if a = b then ranksAbove s t else b < a

/-- Whether a template is taken rather than another when both match. -/
def moreSpecific (a b : Template) : Bool := ranksAbove a.ranks b.ranks

end Template

/-! ### Routes -/

/-- An endpoint with its handler, if it has one. -/
structure Route (σ : Type) where
  endpoint : Endpoint
  handler? : Option (Handler σ)
  /-- The form of the result. -/
  codec : Codec := .json

namespace Route

/-- The name of the endpoint with its service. -/
def title {σ : Type} (r : Route σ) : Text := r.endpoint.service ++ "." ++ r.endpoint.name

end Route

/-- A route in the table of a mux. -/
structure Registered (σ : Type) where
  route : Route σ
  handler : Handler σ
  template : Template

/-- What a table of routes shows of a route. -/
def Registered.row {σ : Type} (r : Registered σ) : List Text :=
  let e := r.route.endpoint
  [e.service, e.name, e.method, e.path, r.route.codec.contentType]

/-- A table of routes. -/
structure Mux (σ : Type) where
  routes : List (Registered σ) := []
  interceptors : List (Interceptor σ) := []
  /-- Whether failures are logged. -/
  logs : Bool := true
  /-- The declared errors that callers know. -/
  registry : ErrorRegistry := {}

namespace Mux

variable {σ α : Type} (m : Mux σ)

/-- Adds an interceptor, which runs after those that are there. -/
def intercept (i : Interceptor σ) : Mux σ := { m with interceptors := m.interceptors ++ [i] }

/-- Whether a route in the table has a method and a template. -/
def claims (method : Text) (t : Template) (r : Registered σ) : Bool :=
  r.route.endpoint.method = method && r.template.text = t.text

/-- Adds a route. Two routes may not share a method and a path. -/
def register (route : Route σ) : Except Fault (Mux σ) :=
  match route.handler? with
  | none => .error (.plain ("route " ++ route.title ++ " has no handler"))
  | some handler =>
    match Template.parse route.endpoint.path with
    | .error e => .error (.context ("route " ++ route.title) e.fault)
    | .ok template =>
      match m.routes.find? (claims route.endpoint.method template) with
      | some r =>
        .error (.plain ("route " ++ route.endpoint.method ++ " " ++ template.text ++
          " already registered by " ++ r.route.title))
      | none => .ok { m with routes := m.routes ++ [⟨route, handler, template⟩] }

/-- The better of two matching routes; the one that was found first wins a tie. -/
def better (best : Option (Registered σ × Template.Values))
    (r : Registered σ) (values : Template.Values) : Option (Registered σ × Template.Values) :=
  match best with
  | none => some (r, values)
  | some (b, held) =>
    if r.template.moreSpecific b.template then some (r, values) else some (b, held)

/-- Takes a route into account if it matches. -/
def consider (method path : Text) (best : Option (Registered σ × Template.Values))
    (r : Registered σ) : Option (Registered σ × Template.Values) :=
  if r.route.endpoint.method = method then
    match r.template.matchPath? path with
    | some values => better best r values
    | none => best
  else best

/-- The route for a method and a path, with the values of its parameters. -/
def find? (method path : Text) : Option (Registered σ × Template.Values) :=
  m.routes.foldl (consider method path) none

/-! ### Calls -/

/-- What a caller gets for a fault: the fault put into an envelope and taken out again. -/
def receivedFault (id : Uuid) (f : Fault) : Fault :=
  match (f.toEnvelope id).json with
  | .error e => .context "encode error" e
  | .ok t =>
    match Envelope.ofText t with
    | .error e => .context "decode error" e
    | .ok e =>
      match e.unpack m.registry with
      | .ok error => .service error
      | .error _ => .envelope e

/-- Reports to the log, if failures are logged. -/
def report (e : LogEntry) : StateM (Session σ) Unit :=
  if m.logs then modify fun s => { s with log := s.log ++ [e] } else pure ()

/-- Runs a handler. One that breaks down has failed. -/
def invoke (h : Handler σ) (endpoint : Endpoint) (request : Incoming) :
    Exchange σ (Option Payload) :=
  ExceptT.mk do
    match ← (h (some endpoint) request).run with
    | .ok a => return .ok a
    | .error (.fault f) => return .error f
    | .error (.panic message) =>
      m.report ⟨.error, "PANIC recovered", [.text "panic" message]⟩
      return .error (.plain ("handler panic: " ++ message))

/-- The entry for a failed call. -/
def failure (endpoint : Endpoint) (f : Fault) : LogEntry :=
  let fields : List LogField :=
    [.text "service" endpoint.service, .text "endpoint" endpoint.name,
     .text "error" f.message]
  match f.service? with
  | some e =>
    ⟨.info, "endpoint returned conjure error", fields ++ [.text "errorName" e.name]⟩
  | none => ⟨.error, "endpoint failed", fields⟩

/-- The call that a handler sees for a request. -/
def incoming (request : Request) (values : Template.Values) : Except Fault Incoming := do
  let body ← match request.body with
    | none => pure []
    | some p => (p.encodeStream request.bodyCodec).mapError (.context "encode request body")
  return { method := request.method, pathParams := values, query := request.query,
           header := request.header, body }

/-- What a caller gets for the result of a handler. -/
def receive (r : Registered σ) (codec : Codec) (receiver : Receiver α) :
    Option Payload → Except Fault α
  | none => .ok receiver.absent
  | some p =>
    if !receiver.wanted then .ok receiver.absent
    else do
      let body ← (p.encode r.route.codec).mapError
        (.context ("encode " ++ r.route.title ++ " response"))
      (receiver.decode codec body).mapError (.context ("decode " ++ r.route.title ++ " response"))

/-- Makes a call. The identifier is for the envelope of a failure. -/
def call (id : Uuid) (request : Request) (receiver : Receiver α) : Exchange σ α := do
  let path ← request.path
  match m.find? request.method path with
  | none =>
    throw (m.receivedFault id
      (.service (.generic (GenericError.notFound.withParam "path" (.string path)))))
  | some (r, values) =>
    let seen ← incoming request values
    let handler := intercepted m.interceptors r.handler
    match ← ExceptT.lift (m.invoke handler r.route.endpoint seen).run with
    | .error f =>
      m.report (failure r.route.endpoint f)
      throw (m.receivedFault id f)
    | .ok result => receive r request.responseCodec receiver result

end Mux

end Accord
