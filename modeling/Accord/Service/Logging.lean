/-
# Logging calls

An interceptor that reports the start and the end of each call. Errors that the
service declares are reported as information, other failures as errors.

## Main definitions

* `Interceptor.logging`: the interceptor;
* `Interceptor.silent`: one that does nothing.
-/

import Accord.Service.Serve

namespace Accord.Interceptor

variable {σ : Type}

/-- Does nothing but ask the handler. -/
def silent : Interceptor σ := fun endpoint request next => next endpoint request

/-- The fields that all entries of a call have. -/
def callFields (endpoint : Option Endpoint) (request : Incoming) : List LogField :=
  [.text "method" request.method] ++
    match endpoint with
    | some e => [.text "endpoint" (e.service ++ "." ++ e.name)]
    | none => []

/-- The entry for a call that failed. -/
def failed (fields : List LogField) (f : Fault) : LogEntry :=
  match f.service? with
  | some e =>
    ⟨.info, "request failed",
      fields ++ [.text "errorName" e.name, .text "errorCode" e.code]⟩
  | none => ⟨.error, "request failed", fields ++ [.text "error" f.message]⟩

/-- Reports the start and the end of each call. -/
def logging : Interceptor σ := fun endpoint request next => do
  let fields := callFields endpoint request
  Serve.report ⟨.debug, "request started", fields⟩
  match ← Serve.outcome (next endpoint request) with
  | .ok result =>
    Serve.report ⟨.info, "request completed", fields⟩
    return result
  | .error f =>
    Serve.report (failed fields f)
    Serve.fail f

end Accord.Interceptor
