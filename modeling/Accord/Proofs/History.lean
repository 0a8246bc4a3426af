/-
# Histories of calls

An object that is called again and again gives an answer to each call and is changed by it. What
is true of it at the start and stays true with every call, whatever was called and answered
before, is true after every sequence of calls.

## Main definitions

* `History.final`: the object after calls;
* `History.trace`: the calls with the answers they got.

## Main results

* `History.invariant`: what every call keeps, every history keeps.
-/

import Mathlib.Data.List.Induction

namespace Accord.History

variable {σ ι α : Type} (step : σ → ι → α × σ)

/-- The object after calls. -/
def final (s : σ) (calls : List ι) : σ := calls.foldl (fun s i => (step s i).2) s

/-- Calls with the answers they get. -/
def trace : σ → List ι → List (ι × α)
  | _, [] => []
  | s, i :: rest => (i, (step s i).1) :: trace (step s i).2 rest

theorem final_concat (s : σ) (calls : List ι) (i : ι) :
    final step s (calls ++ [i]) = (step (final step s calls) i).2 := by
  simp [final]

theorem trace_concat (s : σ) (calls : List ι) (i : ι) :
    trace step s (calls ++ [i]) =
      trace step s calls ++ [(i, (step (final step s calls) i).1)] := by
  induction calls generalizing s with
  | nil => rfl
  | cons j rest ih =>
    rw [List.cons_append, trace, ih, trace, List.cons_append]
    rfl

variable {step}

/-- What holds at the start and is kept by every call holds after every history. It may speak of
the calls and the answers so far. -/
theorem invariant {Inv : List (ι × α) → σ → Prop} {s : σ} (hstart : Inv [] s)
    (hstep : ∀ past s i, Inv past s → Inv (past ++ [(i, (step s i).1)]) (step s i).2)
    (calls : List ι) : Inv (trace step s calls) (final step s calls) := by
  induction calls using List.reverseRecOn with
  | nil => exact hstart
  | append_singleton front i ih =>
    rw [trace_concat, final_concat]
    exact hstep _ _ i ih

end Accord.History
