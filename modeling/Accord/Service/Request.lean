/-
# Requests

A request describes one call of an endpoint without regard to how it is carried: a
method, a path template with the values of its parameters, a query, headers and a
body.

## Main definitions

* `Request`: a call to make;
* `Request.make`: the request for a method and a path template;
* `Request.setPathParam`, `Request.addQuery`, `Request.setHeader`: arguments in plain text;
* `Request.setBearerToken`, `Request.setCookieToken`: credentials;
* `Request.path`, `Request.url`: where the request goes.
-/

import Accord.Http.Cookie
import Accord.Http.Query
import Accord.Path.Template
import Accord.Service.Payload

namespace Accord

/-- The fault of a malformed path template. -/
def Template.Error.fault (e : Template.Error) : Fault := .mark .invalidPathComponent e.message

/-- The fault of a value that is missing in a path. -/
def Template.ExpandError.fault (e : Template.ExpandError) : Fault := .plain e.message

/-- A call to make. -/
structure Request where
  method : Text
  template : Template
  pathParams : Template.Values := []
  query : Query := []
  header : Header := []
  body : Option Payload := none
  bodyCodec : Codec := .json
  responseCodec : Codec := .json
  deriving Inhabited

namespace Request

/-- A request for a method and a path template. -/
def make (method path : Text) : Except Fault Request :=
  match Template.parse path with
  | .ok template => .ok { method, template }
  | .error e => .error e.fault

variable (r : Request)

/-- Sets a parameter of the path. -/
def setPathParam (name : Text) (v : Wire) : Except Fault Request :=
  if (r.template.parameter? name).isNone then
    .error (.plain ("path " ++ r.template.text ++ " has no parameter " ++ name.quote))
  else match v.plain with
    | .ok t => .ok { r with pathParams := Text.upsert name t r.pathParams }
    | .error e => .error (.context ("path parameter " ++ name) e)

/-- Adds a parameter to the query. -/
def addQuery (name : Text) (v : Wire) : Except Fault Request :=
  match v.plain with
  | .ok t => .ok { r with query := r.query.add name t }
  | .error e => .error (.context ("query parameter " ++ name) e)

/-- Sets a header. -/
def setHeader (name : Text) (v : Wire) : Except Fault Request :=
  match v.plain with
  | .ok t => .ok { r with header := r.header.set name t }
  | .error e => .error (.context ("header " ++ name) e)

/-- Sends a token in the header for credentials. -/
def setBearerToken (token : BearerToken) : Request :=
  { r with header := r.header.set "Authorization" ("Bearer " ++ token.value) }

/-- Sends a token in a cookie. -/
def setCookieToken (cookie : Text) (token : BearerToken) : Request :=
  { r with header := r.header.add "Cookie" (Cookie.text ⟨cookie, token.value⟩) }

/-- Sends a value as JSON. -/
def setJsonBody (body : Option Payload) : Request := { r with body, bodyCodec := .json }

/-- Sends bytes as they are. -/
def setBinaryBody (data : Text) : Request :=
  { r with body := some (.ofBytes data), bodyCodec := .binary }

/-- Asks for bytes as they are. -/
def expectBinary : Request := { r with responseCodec := .binary }

/-- The path of the request. -/
def path : Except Fault Text :=
  (r.template.expand r.pathParams).mapError Template.ExpandError.fault

/-- The path and the query of the request. -/
def url : Except Fault Text := do
  let path ← r.path
  return if r.query.isEmpty then path else path ++ "?" ++ r.query.text

end Request

end Accord
