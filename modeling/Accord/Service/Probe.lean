/-
# Probes

Handlers and interceptors for trying out a mux: handlers that tell what they were
asked, and interceptors that leave a trace of when they ran.

## Main definitions

* `Handler.echo`, `Handler.whereabouts`: handlers that tell what they were asked;
* `ProbeAction`, `Interceptor.probe`: interceptors that leave a trace.
-/

import Accord.Service.Serve

namespace Accord

/-- What a probe was heard to do, the oldest first. -/
abbrev Trace := List Text

namespace Handler

variable {σ : Type}

/-- A list of values for each name. -/
def valueLists (entries : List (Text × List Text)) : Any :=
  .map (entries.map fun (k, vs) => (k, .list (vs.map .string)))

/-- Gives back the request. -/
def echo : Handler σ := fun _ r =>
  return Payload.ofAny? (.map
    [("method", .string r.method),
     ("path_params", .map (r.pathParams.map fun (k, v) => (k, .string v))),
     ("query", valueLists r.query), ("header", valueLists r.header), ("body", .string r.body)])

/-- Tells which endpoint is being served, and whether one is. -/
def whereabouts : Handler σ := fun endpoint _ =>
  let e := endpoint.getD ⟨[], [], [], []⟩
  return Payload.ofAny? (.list
    [.string e.service, .string e.name, .string e.method, .string e.path,
     .bool endpoint.isSome])

end Handler

/-- What a probe does apart from leaving a trace. -/
inductive ProbeAction where
  | watch
  /-- Ends the call before the handler is asked. -/
  | reject (f : Option Fault)
  /-- Sends its name on in a header. -/
  | stamp
  /-- Puts the result into a list after its name. -/
  | wrap
  /-- Hides a failure behind a result. -/
  | mask

namespace Interceptor

/-- The result of a call in a list after a name. -/
def wrapped (name : Text) (result : Option Payload) : Payload :=
  let inner : Except Fault Text := match result with
    | some p => p.json
    | none => .ok "null"
  ⟨"[]interface \x7b\x7d", inner.map fun t => Json.arrayOf [Json.quote name, t], none⟩

/-- Leaves a trace. -/
def trace (t : Text) : Serve Trace Unit := Serve.update fun held => held ++ [t]

/-- Leaves a trace before and after the handler is asked. -/
def probe (name : Text) (action : ProbeAction) : Interceptor Trace := fun endpoint r next => do
  trace (name ++ " before " ++ (endpoint.map (·.name)).getD [])
  match action with
  | .reject (some f) => Serve.fail f
  | .reject none => return none
  | action =>
    let r := match action with
      | .stamp => { r with header := r.header.set "X-Intercepted" name }
      | _ => r
    match ← Serve.outcome (next endpoint r) with
    | .ok result =>
      trace (name ++ " after ok")
      return match action with
        | .wrap => some (wrapped name result)
        | _ => result
    | .error f =>
      trace (name ++ " after error")
      match action with
      | .mask => return Payload.ofAny? (.string ("masked by " ++ name))
      | _ => Serve.fail f

end Interceptor

end Accord
