/-
# Incoming requests

What a handler sees of a call: the method, the values of the path parameters, the
query, the headers and the bytes of the body. Arguments that cannot be read are
marked as invalid, missing or malformed credentials as unauthorized.

## Main definitions

* `Incoming`: a call to serve;
* `Incoming.pathParam`, `Incoming.requiredHeader`, `Incoming.optionalHeader`, `Incoming.form`,
  `Incoming.requiredBody`, `Incoming.optionalBody`: its arguments;
* `Incoming.bearerToken`, `Incoming.cookieToken`: its credentials.
-/

import Accord.Http.Cookie
import Accord.Http.Form
import Accord.Text.Category

namespace Accord

/-- A call to serve. -/
structure Incoming where
  method : Text := "GET"
  pathParams : List (Text × Text) := []
  query : Query := []
  header : Header := []
  body : Text := []
  deriving Inhabited

namespace Incoming

/-- The fault of an argument. -/
def invalid (f : Fault) : Fault := .marked .invalidArgument f

/-- The fault of a credential. -/
def unauthorized (message : Text) : Fault := .mark .unauthorized message

variable (r : Incoming) {α : Type}

section Reading

-- The values are read by value or into a destination, so the readings are of any kind that can fail.
variable {m : Type → Type} [Monad m] [MonadExcept Fault m]

/-- Reads a value; where this fails, the argument is invalid. -/
def argument (title : Text) (reading : m α) : m α :=
  tryCatch reading fun e => throw (invalid (.context title e))

/-- Reads a parameter of the path. -/
def pathParam (name : Text) (read : Text → m α) : m α :=
  match r.pathParams.lookup name with
  | none => throw (invalid (.plain ("missing path parameter " ++ name.quote)))
  | some v => argument ("path parameter " ++ name) (read v)

/-- Reads the first value of a header, if there is one. -/
def optionalHeader (name : Text) (read : Text → m α) : m (Option α) :=
  match r.header.values name with
  | [] => pure none
  | v :: _ => some <$> argument ("header " ++ name) (read v)

/-- Reads the first value of a header that has to be there. -/
def requiredHeader (name : Text) (read : Text → m α) : m α := do
  match ← r.optionalHeader name read with
  | some a => return a
  | none => throw (invalid (.plain ("missing header " ++ name.quote)))

end Reading

/-- Reads the query as a form. -/
def form (f : Query → Form α) : Except Fault α :=
  ((f r.query).run).mapError fun e => invalid (.context "query" e)

/-- Whether there is no body to read. -/
def hasBlankBody : Bool := r.body.trim.isEmpty

/-- Reads a body that has to be there. -/
def requiredBody (read : Text → Except Fault α) : Except Fault α :=
  if r.hasBlankBody then .error (invalid (.plain "missing request body"))
  else (read r.body).mapError fun e => invalid (.context "request body" e)

/-- Reads a body, if there is one. -/
def optionalBody (read : Text → Except Fault α) : Except Fault (Option α) :=
  if r.hasBlankBody then .ok none else (r.requiredBody read).map some

/-- A token with a text, if it is well formed. -/
def tokenOf (t : Text) : Except Fault BearerToken :=
  (BearerToken.ofText t).mapError fun e => unauthorized e.message

/-- The token in the header for credentials. -/
def bearerToken : Except Fault BearerToken :=
  match Text.dropStart? "Bearer " (r.header.get "Authorization") with
  | none => .error (unauthorized "missing bearer token")
  | some t => tokenOf t

/-- The cookies of all lines that can be read. -/
def cookies : List Cookie :=
  (r.header.values "Cookie").flatMap fun line => (Cookie.ofLine? line).getD []

/-- The token in the first cookie of a name. -/
def cookieToken (name : Text) : Except Fault BearerToken :=
  match r.cookies.find? (·.name = name) with
  | none => .error (unauthorized ("missing " ++ name ++ " cookie"))
  | some c => tokenOf c.value

end Incoming

end Accord
