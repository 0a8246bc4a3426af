/-
# Recording routes

A recorder keeps routes as they are registered, so that their handlers can be asked
directly.

## Main definitions

* `Recorder`: a list of routes;
* `Recorder.register`, `Recorder.route?`.
-/

import Accord.Service.Mux

namespace Accord

/-- The routes of endpoints, each of which is recorded once. -/
structure Recorder (σ : Type) where
  routes : List (Route σ) := []

namespace Recorder

variable {σ : Type} (r : Recorder σ)

/-- Records a route. -/
def register (route : Route σ) : Except Fault (Recorder σ) :=
  if r.routes.any fun known =>
      known.endpoint.service = route.endpoint.service &&
        known.endpoint.name = route.endpoint.name then
    .error (.plain ("endpoint " ++ route.title ++ " registered twice"))
  else .ok ⟨r.routes ++ [route]⟩

/-- The first route of an endpoint. -/
def route? (name : Text) : Option (Route σ) := r.routes.find? (·.endpoint.name = name)

/-- Serves a request as an endpoint does, whatever its path, with the codec of the answer. -/
def serve? (name : Text) (request : Incoming) : Option (Serve σ (Option Payload) × Codec) := do
  let route ← r.route? name
  return ((← route.handler?) none request, route.codec)

end Recorder

end Accord
