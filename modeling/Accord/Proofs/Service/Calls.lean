/-
# One call

A call that is dispatched runs the handler it was found for once, and what the caller gets is
made of the outcome of that run: the result taken through its wire form, or the fault that was
put into an envelope and taken out again. A call to an address where nothing is served changes
nothing, and the caller is told which address that was.

## Main definitions

* `Mux.answer`: what a caller gets for the outcome of a handler.

## Main results

* `Mux.call_of_find?`: a call that is dispatched;
* `Mux.call_of_none`: a call that is not.
-/

import Accord.Service.Mux

namespace Accord

/-! ### Steps of a computation -/

section

variable {σ ε α β : Type} {session after : σ}

/-- A computation that goes on after its first step. -/
theorem bind_apply_of_ok {x : ExceptT ε (StateM σ) α} {a : α}
    (h : x session = (.ok a, after)) (f : α → ExceptT ε (StateM σ) β) :
    (x >>= f) session = f a after := by
  have hstep : (x >>= f) session = ExceptT.bindCont f (x session).1 (x session).2 := rfl
  rw [hstep, h]
  rfl

/-- A computation that ends with its first step. -/
theorem bind_apply_of_error {x : ExceptT ε (StateM σ) α} {e : ε}
    (h : x session = (.error e, after)) (f : α → ExceptT ε (StateM σ) β) :
    (x >>= f) session = (.error e, after) := by
  have hstep : (x >>= f) session = ExceptT.bindCont f (x session).1 (x session).2 := rfl
  rw [hstep, h]
  rfl

theorem stateM_bind_apply {x : StateM σ α} {a : α} (h : x session = (a, after))
    (f : α → StateM σ β) : (x >>= f) session = f a after := by
  have hstep : (x >>= f) session = f (x session).1 (x session).2 := rfl
  rw [hstep, h]

theorem lift_apply {x : StateM σ α} {a : α} (h : x session = (a, after)) :
    (ExceptT.lift x : ExceptT ε (StateM σ) α) session = (.ok a, after) := by
  have hstep : (ExceptT.lift x : ExceptT ε (StateM σ) α) session =
      (.ok (x session).1, (x session).2) := rfl
  rw [hstep, h]

theorem Exchange.liftM_ok_bind (a : α) (f : α → Exchange σ β) :
    (liftM (.ok a : Except Fault α) : Exchange σ α) >>= f = f a := rfl

theorem Serve.ofExcept_ok_bind (a : α) (f : α → Serve σ β) :
    Serve.ofExcept (.ok a) >>= f = f a := rfl

end

namespace Mux

variable {σ α β : Type} {m : Mux σ} {id : Uuid} {r : Request} {path : Text}

/-! ### Outcomes -/

/-- The session after a report. -/
def noted (m : Mux σ) (e : LogEntry) (session : Session σ) : Session σ := (m.report e session).2

/-- The outcome of a handler for the mux: one that breaks down has failed. -/
def settled (m : Mux σ) : Except Halt α × Session σ → Except Fault α × Session σ
  | (.ok a, after) => (.ok a, after)
  | (.error (.fault f), after) => (.error f, after)
  | (.error (.panic message), after) =>
    (.error (.plain ("handler panic: " ++ message)),
      m.noted ⟨.error, "PANIC recovered", [.text "panic" message]⟩ after)

/-- What a caller gets for the outcome of a handler. -/
def answer (m : Mux σ) (id : Uuid) (endpoint : Endpoint) (take : α → Except Fault β)
    (outcome : Except Halt α × Session σ) : Except Fault β × Session σ :=
  match m.settled outcome with
  | (.ok a, after) => (take a, after)
  | (.error f, after) => (.error (m.receivedFault id f), m.noted (failure endpoint f) after)

/-- A handler that wraps the result of a computation answers as the computation does. -/
theorem answer_bind_pure {γ : Type} (endpoint : Endpoint) (take : γ → Except Fault β)
    (x : Serve σ α) (wrap : α → γ) (session : Session σ) :
    m.answer id endpoint take ((x >>= fun a => pure (wrap a) : Serve σ γ) session) =
      m.answer id endpoint (fun a => take (wrap a)) (x session) := by
  rcases hx : x session with ⟨outcome, after⟩
  cases outcome with
  | ok a =>
    rw [bind_apply_of_ok hx]
    rfl
  | error halt =>
    rw [bind_apply_of_error hx]
    cases halt <;> rfl

theorem invoke_apply (h : Handler σ) (endpoint : Endpoint) (seen : Incoming)
    (session : Session σ) :
    m.invoke h endpoint seen session = m.settled (h (some endpoint) seen session) := by
  rcases hrun : h (some endpoint) seen session with ⟨outcome, after⟩
  refine (stateM_bind_apply hrun _).trans ?_
  rcases outcome with (f | message) | result <;> rfl

/-! ### Dispatch -/

/-- A call to an address where nothing is served changes nothing. -/
theorem call_of_none (hpath : r.path = .ok path) (hfind : m.find? r.method path = none)
    (receiver : Receiver α) (session : Session σ) :
    m.call id r receiver session =
      (.error (m.receivedFault id
        (.service (.generic (GenericError.notFound.withParam "path" (.string path))))),
        session) := by
  unfold call
  rw [hpath, Exchange.liftM_ok_bind, hfind]
  rfl

/-- A call that is dispatched runs its handler once and answers with the outcome. -/
theorem call_of_find? {found : Registered σ} {values : Template.Values} {seen : Incoming}
    (hpath : r.path = .ok path) (hfind : m.find? r.method path = some (found, values))
    (hseen : incoming r values = .ok seen) (hno : m.interceptors = []) (receiver : Receiver α)
    (session : Session σ) :
    m.call id r receiver session =
      m.answer id found.route.endpoint (receive found r.responseCodec receiver)
        (found.handler (some found.route.endpoint) seen session) := by
  have hinvoke := invoke_apply (m := m) found.handler found.route.endpoint seen session
  unfold call answer
  rw [hpath, Exchange.liftM_ok_bind, hfind]
  dsimp only
  rw [hseen, Exchange.liftM_ok_bind, hno]
  generalize m.settled (found.handler (some found.route.endpoint) seen session) = outcome
    at hinvoke
  obtain ⟨result, after⟩ := outcome
  have hlift : (ExceptT.lift
      (m.invoke (intercepted [] found.handler) found.route.endpoint seen).run :
        Exchange σ (Except Fault (Option Payload))) session = (.ok result, after) :=
    lift_apply hinvoke
  rw [bind_apply_of_ok hlift]
  cases result with
  | error f => rfl
  | ok p => cases receive found r.responseCodec receiver p <;> rfl

end Mux

end Accord
