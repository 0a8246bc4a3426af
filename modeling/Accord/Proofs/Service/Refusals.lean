/-
# Arguments that are refused

A handler reads parameters of the path and headers into destinations of its own. An argument is
refused if it is missing or cannot be read, and in no other case. The fault then marks it as
invalid, and the destination holds what it held before.

## Main definitions

* `Incoming.RefusedIff`: an argument is refused under a condition, and is read otherwise.

## Main results

* `Incoming.refusedIff_pathParam`, `Incoming.refusedIff_optionalHeader`,
  `Incoming.refusedIff_requiredHeader`: the arguments of a call, however they are read;
* `Incoming.failed_reading_keeps_destination`: no failed reading changes its destination, from the
  primitives up to the arguments of a call.
-/

import Accord.Proofs.Service.Calls
import Accord.Proofs.Wire.Destination

namespace Accord

namespace Into

variable {ε σ : Type}

/-- A text cannot be read into a destination. -/
def Fails (receive : Text → Into ε σ Unit) (held : σ) (v : Text) : Prop :=
  ∃ e, (receive v held).1 = .error e

/-- What a destination holds after a text was read into it, if there was one. -/
def after (receive : Text → Into ε σ Unit) (held : σ) (v? : Option Text) : σ :=
  v?.elim held fun v => (receive v held).2

end Into

namespace Incoming

variable {σ α β : Type} {held after : σ} {answer : α} {bad bad' : Prop}
  {outcome : Except Fault α × σ}

/-- An argument is refused under a condition: its fault is marked as invalid, and the destination is
as before. Otherwise there is an answer, and the destination holds what was read. -/
def RefusedIff (bad : Prop) (held : σ) (answer : α) (after : σ) (outcome : Except Fault α × σ) :
    Prop :=
  (bad → ∃ f, outcome = (.error f, held) ∧ f.has .invalidArgument = true) ∧
    (¬ bad → outcome = (.ok answer, after))

namespace RefusedIff

theorem congr (h : RefusedIff bad held answer after outcome) (hbad : bad ↔ bad') :
    RefusedIff bad' held answer after outcome :=
  ⟨fun h' => h.1 (hbad.mpr h'), fun h' => h.2 fun h'' => h' (hbad.mp h'')⟩

theorem of_invalid (f : Fault) (h : bad) :
    RefusedIff bad held answer after (.error (invalid f), held) :=
  ⟨fun _ => ⟨invalid f, rfl, rfl⟩, fun h' => absurd h h'⟩

theorem of_ok (h : ¬ bad) : RefusedIff bad held answer after (.ok answer, after) :=
  ⟨fun h' => absurd h' h, fun _ => rfl⟩

/-- A refusal is passed on by what is done with the answer. -/
theorem bind {x : Into Fault σ α} (h : RefusedIff bad held answer after (x held))
    {f : α → Into Fault σ β} {answer' : β} (hf : f answer after = (.ok answer', after)) :
    RefusedIff bad held answer' after ((x >>= f) held) := by
  constructor
  · intro hbad
    obtain ⟨e, hx, he⟩ := h.1 hbad
    exact ⟨e, bind_apply_of_error hx f, he⟩
  · intro hgood
    exact (bind_apply_of_ok (h.2 hgood) f).trans hf

end RefusedIff

/-! ### One argument -/

section Argument

variable {title : Text} {p : Into Fault σ α}

theorem argument_of_ok {a : α} (h : p held = (.ok a, after)) :
    argument title p held = (.ok a, after) := by
  show ExceptT.tryCatch p _ held = _
  exact stateM_bind_apply h _

theorem argument_of_error {e : Fault} (h : p held = (.error e, after)) :
    argument title p held = (.error (invalid (.context title e)), after) := by
  show ExceptT.tryCatch p _ held = _
  exact stateM_bind_apply h _

end Argument

/-- A value that is there is refused if it cannot be read. -/
theorem refusedIff_argument (title : Text) {p : Into Fault σ Unit} (hp : p.Keeps) (held : σ) :
    RefusedIff (∃ e, (p held).1 = .error e) held () (p held).2 (argument title p held) := by
  have hkeeps := hp held
  rcases h : p held with ⟨outcome, after⟩
  rw [h] at hkeeps
  cases outcome with
  | ok a =>
    rw [argument_of_ok h]
    apply RefusedIff.of_ok
    rintro ⟨e, he⟩
    cases he
  | error e =>
    obtain rfl : after = held := hkeeps e rfl
    rw [argument_of_error h]
    exact RefusedIff.of_invalid _ ⟨e, rfl⟩

/-! ### The arguments of a call -/

section Call

variable (r : Incoming) (name : Text) {receive : Text → Into Fault σ Unit}

theorem refusedIff_pathParam (hkeeps : ∀ v, (receive v).Keeps) (held : σ) :
    RefusedIff (∀ v, r.pathParams.lookup name = some v → Into.Fails receive held v) held ()
      (Into.after receive held (r.pathParams.lookup name)) (r.pathParam name receive held) := by
  rw [pathParam]
  cases r.pathParams.lookup name with
  | none =>
    apply RefusedIff.of_invalid
    intro v hv
    cases hv
  | some v =>
    apply (refusedIff_argument _ (hkeeps v) held).congr
    simp [Into.Fails]

theorem refusedIff_optionalHeader (hkeeps : ∀ v, (receive v).Keeps) (held : σ) :
    RefusedIff (∃ v, (r.header.values name).head? = some v ∧ Into.Fails receive held v) held
      ((r.header.values name).head?.map fun _ => ())
      (Into.after receive held (r.header.values name).head?)
      (r.optionalHeader name receive held) := by
  rw [optionalHeader]
  cases r.header.values name with
  | nil =>
    apply RefusedIff.of_ok
    rintro ⟨v, hv, -⟩
    cases hv
  | cons v rest =>
    have hargument := refusedIff_argument ("header " ++ name) (hkeeps v) held
    apply (hargument.bind rfl).congr
    simp [Into.Fails]

/-- A header that has to be there is refused like one that may be left out, and also if it is
missing. -/
theorem refusedIff_requiredHeader (hkeeps : ∀ v, (receive v).Keeps) (held : σ) :
    RefusedIff (∀ v, (r.header.values name).head? = some v → Into.Fails receive held v) held ()
      (Into.after receive held (r.header.values name).head?)
      (r.requiredHeader name receive held) := by
  have hoptional := r.refusedIff_optionalHeader name hkeeps held
  rw [requiredHeader]
  cases h : r.header.values name with
  | nil =>
    rw [optionalHeader, h]
    apply RefusedIff.of_invalid
    intro v hv
    cases hv
  | cons v rest =>
    rw [h] at hoptional
    apply (hoptional.bind rfl).congr
    simp

end Call

end Incoming

/-! ### Readings that fail -/

/-- No failed reading changes its destination: not that of a primitive, from its text or its JSON,
and not that of a plain text, whatever type the destination is of and however that is declared. An
argument of a call is refused as invalid if it cannot be read, or has to be there and is not, and
then its destination is unchanged, too. In all other cases the destination holds what was read. -/
theorem failed_reading_keeps_destination :
    (∀ {ε σ : Type} {receive : Text → Into ε σ Unit} {read : Text → Except ε σ},
      OwnReading receive read → ∀ t, (receive t).Keeps ∧ (receive t).Stores (read t)) ∧
    (∀ t, (Wire.receiveOwnJson t).Keeps) ∧
    (∀ d s, (Wire.receivePlain d s).Keeps ∧
      ∀ held : Wire, (∀ type, held ≠ .absent type) →
        Wire.receivePlain d s held = Into.ending held (Wire.ofPlainAs d held.type s)) ∧
    ∀ (r : Incoming) (name : Text) (d : Declared) (held : Wire),
      Incoming.RefusedIff
        (∀ v, r.pathParams.lookup name = some v → Into.Fails (Wire.receivePlain d) held v) held ()
        (Into.after (Wire.receivePlain d) held (r.pathParams.lookup name))
        (r.pathParam name (Wire.receivePlain d) held) ∧
      Incoming.RefusedIff
        (∀ v, (r.header.values name).head? = some v → Into.Fails (Wire.receivePlain d) held v)
        held () (Into.after (Wire.receivePlain d) held (r.header.values name).head?)
        (r.requiredHeader name (Wire.receivePlain d) held) ∧
      Incoming.RefusedIff
        (∃ v, (r.header.values name).head? = some v ∧ Into.Fails (Wire.receivePlain d) held v)
        held ((r.header.values name).head?.map fun _ => ())
        (Into.after (Wire.receivePlain d) held (r.header.values name).head?)
        (r.optionalHeader name (Wire.receivePlain d) held) := by
  refine ⟨?_, Wire.keeps_receiveOwnJson, ?_, ?_⟩
  · intro ε σ receive read h t
    exact ⟨(h.stores t).keeps, h.stores t⟩
  · intro d s
    exact ⟨Wire.keeps_receivePlain d s, fun held h => Wire.receivePlain_apply d s h⟩
  · intro r name d held
    have hkeeps := Wire.keeps_receivePlain d
    exact ⟨r.refusedIff_pathParam name hkeeps held, r.refusedIff_requiredHeader name hkeeps held,
      r.refusedIff_optionalHeader name hkeeps held⟩

/-- A call with a number of nine bits and one that is not in decimal form. -/
def oversized : Incoming := { pathParams := [("n", "300")], header := [("Count", ["0x10"])] }

theorem failed_reading_keeps_destination_oversized :
    SafeLong.receiveText "9007199254740992" ⟨7⟩ =
      (.error (.outOfRange "9007199254740992"), ⟨7⟩) ∧
    (∃ f, oversized.pathParam "n" (Wire.receivePlain (.named "main.small")) (.integer 8 5) =
      (.error f, .integer 8 5) ∧ f.has .invalidArgument = true) ∧
    (∃ f, oversized.optionalHeader "Count" (Wire.receivePlain .asIs) (.integer 32 5) =
      (.error f, .integer 32 5) ∧ f.has .invalidArgument = true) := by
  obtain ⟨hown, -, -, hcall⟩ := failed_reading_keeps_destination
  have hgreat : Integer.read 64 "9007199254740992" = .ok 9007199254740992 := rfl
  refine ⟨?_, ?_, ?_⟩
  · apply ((hown .safelongText "9007199254740992").2 ⟨7⟩).trans
    rw [SafeLong.ofText, hgreat]
    rfl
  · apply (hcall oversized "n" (.named "main.small") (.integer 8 5)).1.1
    intro v hv
    obtain rfl : Text.ofString "300" = v := Option.some.inj hv
    exact ⟨_, rfl⟩
  · apply (hcall oversized "Count" .asIs (.integer 32 5)).2.2.1
    exact ⟨"0x10", rfl, _, rfl⟩

end Accord
