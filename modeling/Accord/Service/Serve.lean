/-
# Serving

A handler serves the calls of one endpoint. It may look at and change what the
service remembers, report to the log, fail, or break down in the middle. An
interceptor stands in front of a handler: it sees the call first and the outcome
last, and decides whether the handler is asked at all.

## Main definitions

* `Session`: what lasts from call to call;
* `Halt`: how serving ends early;
* `Serve`: a computation that serves;
* `Handler`, `Interceptor`, `intercepted`;
* `Exchange`: a computation on the caller's side.
-/

import Accord.Log
import Accord.Service.Incoming
import Accord.Service.Payload

namespace Accord

/-- What lasts from call to call: what the service remembers, and what was logged. -/
structure Session (σ : Type) where
  state : σ
  log : Log := []

/-- How serving ends early: with a fault that the caller is told about, or by breaking down. -/
inductive Halt where
  | fault (f : Fault)
  | panic (message : Text)

/-- A computation that serves. What it did before it ended early stays done. -/
abbrev Serve (σ : Type) := ExceptT Halt (StateM (Session σ))

namespace Serve

variable {σ α : Type}

/-- Ends with a fault. -/
def fail (f : Fault) : Serve σ α := throw (.fault f)

/-- Goes on with a value, or ends with a fault. -/
def ofExcept : Except Fault α → Serve σ α
  | .ok a => pure a
  | .error f => fail f

/-- What the service remembers. -/
def state : Serve σ σ := do return (← get).state

/-- Changes what the service remembers. -/
def update (f : σ → σ) : Serve σ Unit := modify fun s => { s with state := f s.state }

/-- Reports to the log. -/
def report (e : LogEntry) : Serve σ Unit := modify fun s => { s with log := s.log ++ [e] }

/-- The outcome of a computation, if it does not break down. -/
def outcome (m : Serve σ α) : Serve σ (Except Fault α) :=
  ExceptT.mk do
    match ← m.run with
    | .ok a => return .ok (.ok a)
    | .error (.fault f) => return .ok (.error f)
    | .error (.panic message) => return .error (.panic message)

end Serve

/-- The endpoint that is being served. -/
structure Endpoint where
  service : Text
  name : Text
  method : Text
  path : Text
  deriving DecidableEq, Repr

/-- Serves a call; the endpoint is known if the call came by a route. -/
abbrev Handler (σ : Type) := Option Endpoint → Incoming → Serve σ (Option Payload)

/-- Stands in front of a handler. -/
abbrev Interceptor (σ : Type) :=
  Option Endpoint → Incoming → Handler σ → Serve σ (Option Payload)

/-- A handler with interceptors in front of it, the first of them outermost. -/
def intercepted {σ : Type} (interceptors : List (Interceptor σ)) (h : Handler σ) : Handler σ :=
  interceptors.foldr (fun i next endpoint request => i endpoint request next) h

/-- A computation on the caller's side: it may fail, but it does not break down. -/
abbrev Exchange (σ : Type) := ExceptT Fault (StateM (Session σ))

end Accord
