/-
# Outcomes in sequence

A computation made of steps that may fail succeeds exactly when its steps do, each with what
the one before it gave.

## Main definitions

* `Outcome.Yields`: what is true of the result of a computation that succeeds.

## Main results

* `Outcome.bind_eq_ok`: the steps of a computation that succeeds;
* `Outcome.isOk_iff`: a computation that succeeds has a result;
* `Outcome.mapM_eq_ok`, `Outcome.exists_of_mapM`: a step for every element of a list;
* `Outcome.Yields.bind`, `Outcome.Yields.mapM`: what is true of results, step by step.
-/

import Accord.Text.Basic
import Mathlib.Data.List.Forall2

namespace Accord.Outcome

variable {ε α β : Type}

theorem ok_bind (a : α) (f : α → Except ε β) : Except.ok a >>= f = f a := rfl

theorem mapError_ok {ε' : Type} (a : α) (f : ε → ε') :
    (Except.ok a : Except ε α).mapError f = .ok a := rfl

theorem mapError_eq_ok {ε' : Type} {x : Except ε α} {f : ε → ε'} {a : α} :
    x.mapError f = .ok a ↔ x = .ok a := by
  cases x with
  | error e => simp [Except.mapError]
  | ok a => simp [Except.mapError]

theorem map_eq_ok {x : Except ε α} {f : α → β} {b : β} :
    x.map f = .ok b ↔ ∃ a, x = .ok a ∧ f a = b := by
  cases x with
  | error e => simp [Except.map]
  | ok a => simp [Except.map]

theorem map_eq_error {x : Except ε α} {f : α → β} {e : ε} :
    x.map f = .error e ↔ x = .error e := by
  cases x with
  | error e => simp [Except.map]
  | ok a => simp [Except.map]

/-- Two steps succeed when the first does, and the second with its result. -/
theorem bind_eq_ok {x : Except ε α} {f : α → Except ε β} {b : β} :
    x >>= f = .ok b ↔ ∃ a, x = .ok a ∧ f a = .ok b := by
  cases x with
  | error e => simp [bind, Except.bind]
  | ok a => simp [bind, Except.bind]

/-- A computation has succeeded when there is a result. -/
theorem isOk_iff {x : Except ε α} : x.isOk = true ↔ ∃ a, x = .ok a := by
  cases x with
  | error e => simp [Except.isOk, Except.toBool]
  | ok a => simp [Except.isOk, Except.toBool]

/-- Steps that all succeed give the list of their results. -/
theorem mapM_eq_ok {f : α → Except ε β} {items : List α} {results : List β}
    (h : List.Forall₂ (fun a b => f a = .ok b) items results) :
    items.mapM f = .ok results := by
  induction h with
  | nil => rfl
  | cons ha _ ih =>
    rw [List.mapM_cons, ha, ok_bind, ih, ok_bind]
    rfl

/-- Each result of steps that all succeed is the result of one of them. -/
theorem exists_of_mapM {f : α → Except ε β} {items : List α} {results : List β}
    (h : items.mapM f = .ok results) : ∀ b ∈ results, ∃ a ∈ items, f a = .ok b := by
  induction items generalizing results with
  | nil =>
    obtain rfl : [] = results := Except.ok.inj h
    simp
  | cons a items ih =>
    rw [List.mapM_cons] at h
    obtain ⟨b, hb, hrest⟩ := bind_eq_ok.mp h
    obtain ⟨bs, hbs, heq⟩ := bind_eq_ok.mp hrest
    obtain rfl : b :: bs = results := Except.ok.inj heq
    intro b' hb'
    rcases List.mem_cons.mp hb' with rfl | hmem
    · exact ⟨a, List.mem_cons_self, hb⟩
    · obtain ⟨a', ha', hstep⟩ := ih hbs b' hmem
      exact ⟨a', List.mem_cons_of_mem _ ha', hstep⟩

/-! ### What is true of results -/

/-- What is true of the result of a computation that succeeds. -/
def Yields (x : Except ε α) (Q : α → Prop) : Prop := ∀ a, x = .ok a → Q a

namespace Yields

variable {x : Except ε α} {f : α → Except ε β} {P Q : α → Prop} {R : β → Prop}

theorem ok {a : α} (h : Q a) : Yields (.ok a : Except ε α) Q := by
  intro b hb
  cases hb
  exact h

theorem error (e : ε) : Yields (.error e) Q := by
  intro a ha
  cases ha

theorem trivial (x : Except ε α) : Yields x fun _ => True := fun _ _ => True.intro

theorem bind (hx : Yields x P) (hf : ∀ a, P a → Yields (f a) R) : Yields (x >>= f) R := by
  intro b h
  obtain ⟨a, ha, hb⟩ := bind_eq_ok.mp h
  exact hf a (hx a ha) b hb

theorem map {g : α → β} (hx : Yields x fun a => R (g a)) : Yields (x.map g) R := by
  intro b h
  obtain ⟨a, ha, rfl⟩ := map_eq_ok.mp h
  exact hx a ha

theorem mapError {ε' : Type} (hx : Yields x Q) (g : ε → ε') : Yields (x.mapError g) Q :=
  fun a h => hx a (mapError_eq_ok.mp h)

/-- What is true of the result for any element is true of all results. -/
theorem mapM (hf : ∀ a, Yields (f a) R) (items : List α) :
    Yields (items.mapM f) fun bs => ∀ b ∈ bs, R b := by
  intro bs h b hb
  obtain ⟨a, -, ha⟩ := exists_of_mapM h b hb
  exact hf a b ha

end Yields

end Accord.Outcome
