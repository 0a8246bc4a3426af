/-
# What a reading leaves in its destination

A text is read into a destination that holds a value already. The readings make their value apart
from the destination and store it after the last check, so that one that fails leaves what was
there, and one that succeeds leaves what the text spells. A primitive is read by its own rules, also
where it is the destination of a plain text, and a scalar under a name of its own by its kind.

## Main definitions

* `Into.Keeps`: a reading that fails changes nothing;
* `Into.Stores`: a reading does to a destination what a reading by value says;
* `OwnReading`: the readings of the primitives, text and JSON.

## Main results

* `OwnReading.stores`: every one of them stores what it reads;
* `Wire.receivePlain_apply`: so does the reading of a plain text;
* `Wire.keeps_receivePlain`, `Wire.keeps_receiveOwnJson`: where nothing is read, nothing changes.
-/

import Accord.Wire.Receive
import Mathlib.Data.Option.Basic

namespace Accord

namespace Into

variable {ε ε' σ τ α : Type}

/-- A reading that fails leaves the destination as it was. -/
def Keeps (p : Into ε σ α) : Prop := ∀ held e, (p held).1 = .error e → (p held).2 = held

/-- How a reading ends that stores a value if there is one, and otherwise fails and leaves the
destination as it was. -/
def ending (held : σ) : Except ε σ → Except ε Unit × σ
  | .ok a => (.ok (), a)
  | .error e => (.error e, held)

/-- A reading stores what is read by value, and fails where that fails. -/
def Stores (p : Into ε σ Unit) (made : Except ε σ) : Prop := ∀ held, p held = ending held made

theorem ending_keeps {held : σ} {made : Except ε σ} {e : ε}
    (h : (ending held made).1 = .error e) : (ending held made).2 = held := by
  cases made with
  | ok a => cases h
  | error e' => rfl

theorem Stores.keeps {p : Into ε σ Unit} {made : Except ε σ} (h : p.Stores made) : p.Keeps := by
  intro held e hfail
  rw [h held] at hfail ⊢
  exact ending_keeps hfail

theorem stores_set (a : σ) : Stores (set a : Into ε σ Unit) (.ok a) := fun _ => rfl

theorem stores_throw (e : ε) : Stores (throw e : Into ε σ Unit) (.error e) := fun _ => rfl

theorem stores_store (made : Except ε σ) : (store made).Stores made := by
  intro held
  cases made with
  | ok a => rfl
  | error e => rfl

/-- Where the part keeps what it held, the whole is as it was. -/
theorem part_apply {p : Into ε σ Unit} {made : Except ε σ} (h : p.Stores made) (held : σ)
    (wrap : σ → τ) (fault : ε → ε') :
    part held wrap fault p (wrap held) =
      ending (wrap held) ((made.map wrap).mapError fault) := by
  show ((p held).1.mapError fault, wrap (p held).2) = _
  rw [h held]
  cases made with
  | ok a => rfl
  | error e => rfl

theorem runFrom_eq {p : Into ε σ Unit} {made : Except ε σ} (h : p.Stores made) (start : σ) :
    runFrom start p = made.map fun a => ((), a) := by
  unfold runFrom
  rw [h start]
  cases made with
  | ok a => rfl
  | error e => rfl

end Into

/-! ### Primitives -/

namespace SafeLong

theorem stores_receiveText (t : Text) : (receiveText t).Stores (ofText t) := by
  unfold receiveText ofText
  cases Integer.read 64 t with
  | ok n => exact Into.stores_store _
  | error cause =>
    cases cause with
    | outOfRange => exact Into.stores_throw _
    | syntaxError => exact Into.stores_throw _

theorem stores_receiveJson (json : Text) : (receiveJson json).Stores (ofJson json) := by
  unfold receiveJson ofJson
  dsimp only
  split
  · cases Double.read json.trim with
    | error cause => exact Into.stores_throw _
    | ok d =>
      dsimp only
      cases d.toInt? with
      | none => exact Into.stores_throw _
      | some n =>
        dsimp only
        split
        · exact Into.stores_set _
        · exact Into.stores_throw _
  · exact stores_receiveText _

end SafeLong

namespace Double

theorem stores_receiveText (t : Text) : (receiveText t).Stores (ofText t) := by
  unfold receiveText ofText
  cases ofWord? t with
  | some d => exact Into.stores_set d
  | none =>
    dsimp only
    cases read t with
    | ok d => exact Into.stores_set d
    | error cause => exact Into.stores_throw _

theorem stores_receiveJson (json : Text) : (receiveJson json).Stores (ofJson json) := by
  unfold receiveJson ofJson
  dsimp only
  split
  · cases (Json.read json.trim).bind Json.text? with
    | error _ => exact Into.stores_throw _
    | ok s =>
      dsimp only
      -- A string is passed on only if it is one of the words, and those are always read.
      have hword := stores_receiveText s
      unfold ofText at hword
      cases h : ofWord? s with
      | none => exact Into.stores_throw _
      | some d =>
        rw [h] at hword
        exact hword
  · cases Json.read json.trim with
    | error _ => exact Into.stores_throw _
    | ok j =>
      cases j with
      | null => exact Into.stores_set _
      -- Every other value is asked for its number, and what matters is only whether it has one.
      | _ =>
        dsimp only
        split
        · next _ h =>
          rw [h]
          exact Into.stores_throw _
        · next d h =>
          rw [h]
          exact Into.stores_set d

end Double

namespace Binary

theorem stores_receiveText (t : Text) : (receiveText t).Stores (ofText t) := by
  unfold receiveText ofText
  cases Base64.decode t with
  | ok bytes => exact Into.stores_set bytes
  | error offset => exact Into.stores_throw _

theorem stores_receiveJson (json : Text) : (receiveJson json).Stores (ofJson json) := by
  unfold receiveJson ofJson
  dsimp only
  split
  · exact Into.stores_throw _
  · exact stores_receiveText _

end Binary

namespace Boolean

theorem stores_receiveText (t : Text) : (receiveText t).Stores (ofText t) := by
  unfold receiveText ofText
  split
  · exact Into.stores_set true
  · split
    · exact Into.stores_set false
    · exact Into.stores_throw _

end Boolean

/-- The readings that the primitives have of their own, each beside the reading by value. -/
inductive OwnReading : {ε σ : Type} → (Text → Into ε σ Unit) → (Text → Except ε σ) → Prop
  | safelongText : OwnReading SafeLong.receiveText SafeLong.ofText
  | safelongJson : OwnReading SafeLong.receiveJson SafeLong.ofJson
  | doubleText : OwnReading Double.receiveText Double.ofText
  | doubleJson : OwnReading Double.receiveJson Double.ofJson
  | binaryText : OwnReading Binary.receiveText Binary.ofText
  | binaryJson : OwnReading Binary.receiveJson Binary.ofJson
  | booleanText : OwnReading Boolean.receiveText Boolean.ofText
  | booleanJson : OwnReading Boolean.receiveJson Boolean.ofJson
  | uuidText : OwnReading Uuid.receiveText Uuid.ofText
  | ridText : OwnReading ResourceId.receiveText ResourceId.ofText
  | datetimeText : OwnReading Timestamp.receiveText Timestamp.ofText
  | bearertokenText : OwnReading BearerToken.receiveText BearerToken.ofText

theorem OwnReading.stores {ε σ : Type} {receive : Text → Into ε σ Unit} {read : Text → Except ε σ}
    (h : OwnReading receive read) (t : Text) : (receive t).Stores (read t) := by
  cases h with
  | safelongText => exact SafeLong.stores_receiveText t
  | safelongJson => exact SafeLong.stores_receiveJson t
  | doubleText => exact Double.stores_receiveText t
  | doubleJson => exact Double.stores_receiveJson t
  | binaryText => exact Binary.stores_receiveText t
  | binaryJson => exact Binary.stores_receiveJson t
  | booleanText => exact Boolean.stores_receiveText t
  | booleanJson => exact Boolean.stores_receiveText t.trim
  | uuidText => exact Into.stores_store _
  | ridText => exact Into.stores_store _
  | datetimeText => exact Into.stores_store _
  | bearertokenText => exact Into.stores_store _

/-! ### Plain text -/

namespace Wire

theorem readDouble_eq (wrap : Double → Wire) :
    readDouble wrap = readOwn Double.ofText wrap Double.WireError.fault := by
  funext s
  unfold readDouble readOwn
  cases Double.ofText s with
  | ok d => rfl
  | error e => rfl

theorem stores_receiveReal (wrap : Double → Wire) (s : Text) :
    (receiveReal wrap s).Stores (readDouble wrap s) := by
  unfold receiveReal
  rw [Into.runFrom_eq (Double.stores_receiveText s), readDouble_eq]
  unfold readOwn
  cases Double.ofText s with
  | ok d => exact Into.stores_store _
  | error e => exact Into.stores_store _

/-- A primitive is read into a destination of its type as it is read by value. -/
theorem part_readOwn {ε σ : Type} {receive : Text → Into ε σ Unit} {read : Text → Except ε σ}
    (h : OwnReading receive read) (held : σ) (wrap : σ → Wire) (fault : ε → Fault) (s : Text) :
    Into.part held wrap fault (receive s) (wrap held) =
      Into.ending (wrap held) (readOwn read wrap fault s) := by
  rw [Into.part_apply (h.stores s)]
  unfold readOwn
  cases read s with
  | ok a => rfl
  | error e => rfl

theorem part_keeps {ε σ : Type} {receive : Text → Into ε σ Unit} {read : Text → Except ε σ}
    (h : OwnReading receive read) {held : σ} {wrap : σ → Wire} {fault : ε → Fault} {s : Text}
    {f : Fault} (hfail : (Into.part held wrap fault (receive s) (wrap held)).1 = .error f) :
    (Into.part held wrap fault (receive s) (wrap held)).2 = wrap held := by
  rw [part_readOwn h] at hfail ⊢
  exact Into.ending_keeps hfail

theorem keeps_receiveOwnJson (t : Text) : (receiveOwnJson t).Keeps := by
  intro held f hfail
  cases held with
  | safelong n => exact part_keeps .safelongJson hfail
  | double d => exact part_keeps .doubleJson hfail
  | binary bytes => exact part_keeps .binaryJson hfail
  | boolean b => exact part_keeps .booleanJson hfail
  | _ => rfl

/-- A reading into a destination beside a reading by value. -/
def Follows (held : Wire) (s : Text) (p : Into Fault Wire Unit) (read : Text → Except Fault Wire) :
    Prop :=
  p held = Into.ending held (read s)

theorem follows_byType (s : Text) {held : Wire} (h : ∀ type, held ≠ .absent type) :
    Option.Rel (Follows held s) (receiveByType s held) (readByType held.type) := by
  cases held with
  | safelong held => exact .some (part_readOwn .safelongText held ..)
  | double held =>
    rw [type, readByType, readDouble_eq]
    exact .some (part_readOwn .doubleText held ..)
  | binary held => exact .some (part_readOwn .binaryText held ..)
  | uuid held => exact .some (part_readOwn .uuidText held ..)
  | rid held => exact .some (part_readOwn .ridText held ..)
  | datetime held => exact .some (part_readOwn .datetimeText held ..)
  | bearertoken held => exact .some (part_readOwn .bearertokenText held ..)
  | boolean held => exact .some (part_readOwn .booleanText held ..)
  | string t => exact .some rfl
  | bool b => exact .some (Into.stores_store _ _)
  | integer bits n =>
    -- Integers of 32 bits are told by the type, all others by their kind.
    simp only [receiveByType, type, readByType]
    split
    · exact .some (Into.stores_store _ _)
    · exact .none
  | real d => exact .some (stores_receiveReal real s _)
  | absent type => exact absurd rfl (h type)
  | unsigned | single | any | present | list | map => exact .none

theorem follows_byKind (s : Text) {held : Wire} (h : ∀ type, held ≠ .absent type) :
    Option.Rel (Follows held s) (receiveByKind s held) (readByKind held.type) := by
  cases held with
  | string t => exact .some rfl
  | bool b => exact .some (Into.stores_store _ _)
  | integer bits n => exact .some (Into.stores_store _ _)
  | single d => exact .some (stores_receiveReal _ s _)
  | real d => exact .some (stores_receiveReal _ s _)
  | safelong n => exact .some (Into.stores_store _ _)
  | double d => exact .some (stores_receiveReal _ s _)
  | bearertoken t => exact .some rfl
  | boolean b => exact .some (Into.stores_store _ _)
  | absent type => exact absurd rfl (h type)
  | unsigned | binary | uuid | rid | datetime | any | present | list | map => exact .none

theorem rel_or {α β : Type} {r : α → β → Prop} {a a' : Option α} {b b' : Option β}
    (h : Option.Rel r a b) (h' : Option.Rel r a' b') : Option.Rel r (a.or a') (b.or b') := by
  cases h with
  | some hab => exact .some hab
  | none => exact h'

theorem receiveTold_apply {held : Wire} {s : Text} {told : Option (Into Fault Wire Unit)}
    {read? : Option (Text → Except Fault Wire)} (h : Option.Rel (Follows held s) told read?)
    (spelling : Text) :
    receiveTold spelling told held = Into.ending held (match read? with
      | some read => read s
      | none => .error (.plain ("cannot decode plain text into *" ++ spelling))) := by
  cases h with
  | some hread => exact hread
  | none => rfl

/-- A plain text is read into a destination as it is read by value. -/
theorem receivePlain_apply (d : Declared) (s : Text) {held : Wire}
    (h : ∀ type, held ≠ .absent type) :
    receivePlain d s held = Into.ending held (ofPlainAs d held.type s) := by
  have hkind := follows_byKind s h
  cases d with
  | asIs => exact receiveTold_apply (rel_or (follows_byType s h) hkind) held.type.spelling
  | named spelling => exact receiveTold_apply hkind spelling

theorem keeps_receivePlain (d : Declared) (s : Text) : (receivePlain d s).Keeps := by
  intro held e hfail
  by_cases h : ∃ type, held = .absent type
  -- No scalar is absent, so there is nothing to be told here.
  · obtain ⟨type, rfl⟩ := h
    cases d with
    | asIs => rfl
    | named spelling => rfl
  · have hstores := receivePlain_apply d s (not_exists.mp h)
    rw [hstores] at hfail ⊢
    exact Into.ending_keeps hfail

end Wire

end Accord
