/-
# Plain text and back

Writing tells a value by its type or by its kind, and so does reading, but not by the same lists:
an integer of 64 bits is written by its type and read by its kind, and under a new name by its kind
both times. Both ways write and read the same texts, so what is written is read back either way. An
integer is read exactly from the texts that spell one of its width.

## Main definitions

* `Wire.Sent`: a value that can be sent as plain text;
* `Wire.IsScalar`: a string, a truth value or an integer, whose type may be declared anew.

## Main results

* `Wire.plainAs_integer`, `Wire.ofPlainAs_integer`: the declaration of an integer does not matter;
* `Wire.ofPlainAs_integer_iff`: what is read as an integer;
* `Wire.Sent.readsBack`: what is written is read back;
* `Wire.plain_exact`: plain text as a whole.
-/

import Accord.Proofs.Primitive.Rereading
import Accord.Proofs.Primitive.ResourceId
import Accord.Wire.Plain

namespace Accord.Wire

variable {d : Declared} {s : Text} {v : Wire}

/-! ### Integers -/

/-- An integer is written in decimal, however its type is declared. -/
theorem plainAs_integer (d : Declared) (bits : Nat) (n : Int) :
    plainAs d (.integer bits n) = .ok (Text.ofInt n) := by
  cases d with
  | named spelling => rfl
  | asIs =>
    -- By its type for two widths, and by its kind for the others.
    unfold plainAs plainByType
    dsimp only
    split <;> rfl

/-- An integer is read in one way, however its type is declared. -/
theorem ofPlainAs_integer (d : Declared) (bits : Nat) (s : Text) :
    ofPlainAs d (.integer bits) s = readInteger bits (.integer bits) s := by
  cases d with
  | named spelling => rfl
  | asIs =>
    -- By its type for one width, and by its kind for the others.
    unfold ofPlainAs readByType
    dsimp only
    by_cases hbits : bits = 32
    · rw [if_pos hbits]
      rfl
    · rw [if_neg hbits]
      rfl

theorem readInteger_eq_ok_iff {bits : Nat} {wrap : Int → Wire} :
    readInteger bits wrap s = .ok v ↔ ∃ n, Integer.read bits s = .ok n ∧ wrap n = v := by
  unfold readInteger
  cases Integer.read bits s with
  | error e => simp
  | ok n => simp

/-- What is read as an integer: a text that spells one of its width. -/
theorem ofPlainAs_integer_iff (d : Declared) (width : Nat) :
    ofPlainAs d (.integer (width + 1)) s = .ok v ↔
      ∃ n, Integer.Spells s n ∧ -(2 ^ width : Int) ≤ n ∧ n < 2 ^ width ∧
        v = .integer (width + 1) n := by
  rw [ofPlainAs_integer, readInteger_eq_ok_iff]
  constructor
  · rintro ⟨n, hread, rfl⟩
    obtain ⟨hspells, hlow, hhigh⟩ := Integer.read_eq_ok_iff.mp hread
    exact ⟨n, hspells, hlow, hhigh, rfl⟩
  · rintro ⟨n, hspells, hlow, hhigh, rfl⟩
    exact ⟨n, Integer.read_eq_ok_iff.mpr ⟨hspells, hlow, hhigh⟩, rfl⟩

/-! ### Values -/

/-- A string, a truth value or an integer. -/
inductive IsScalar : Wire → Prop
  | string (t : Text) : IsScalar (.string t)
  | bool (b : Bool) : IsScalar (.bool b)
  | integer (bits : Nat) (n : Int) : IsScalar (.integer bits n)

/-- A value that can be sent as plain text. An integer fits its width, and a primitive with rules
of its own keeps to them. -/
inductive Sent : Wire → Prop
  | string (t : Text) : Sent (.string t)
  | bool (b : Bool) : Sent (.bool b)
  | integer {width : Nat} {n : Int} (hlow : -(2 ^ width : Int) ≤ n) (hhigh : n < 2 ^ width) :
      Sent (.integer (width + 1) n)
  | safelong {n : Int} (h : |n| ≤ 2 ^ 53 - 1) : Sent (.safelong ⟨n⟩)
  | binary (bytes : Text) : Sent (.binary bytes)
  | uuid (u : Uuid) : Sent (.uuid u)
  | rid {r : ResourceId} (h : r.Valid) : Sent (.rid r)
  | bearertoken {t : BearerToken} (h : t.valid = true) : Sent (.bearertoken t)
  | boolean (b : Bool) : Sent (.boolean b)

/-- A value is written, and read back from what is written. -/
def ReadsBack (d : Declared) (v : Wire) : Prop :=
  ∃ t, v.plainAs d = .ok t ∧ ofPlainAs d v.type t = .ok v

theorem readOwn_eq_ok {α ε : Type} {read : Text → Except ε α} {wrap : α → Wire}
    {fault : ε → Fault} {a : α} (h : read s = .ok a) :
    readOwn read wrap fault s = .ok (wrap a) := by
  rw [readOwn, h]

/-- A scalar is read back, however its type is declared. -/
theorem Sent.readsBack_of_isScalar (h : v.Sent) (hscalar : v.IsScalar) (d : Declared) :
    ReadsBack d v := by
  cases hscalar with
  | string t =>
    refine ⟨t, ?_, ?_⟩
    · cases d <;> rfl
    · cases d <;> rfl
  | bool b =>
    have hread : readBool .bool (Boolean.text b) = .ok (.bool b) := by
      cases b <;> rfl
    refine ⟨Boolean.text b, ?_, ?_⟩
    · cases d <;> rfl
    · cases d <;> exact hread
  | integer bits n =>
    cases h with
    | integer hlow hhigh =>
      refine ⟨Text.ofInt n, plainAs_integer d _ n, ?_⟩
      exact (ofPlainAs_integer_iff d _).mpr ⟨n, Integer.spells_ofInt n, hlow, hhigh, rfl⟩

/-- A value of a type that is declared as it is is read back. -/
theorem Sent.readsBack (h : v.Sent) : ReadsBack .asIs v := by
  cases h with
  | string t => exact (Sent.string t).readsBack_of_isScalar (.string t) .asIs
  | bool b => exact (Sent.bool b).readsBack_of_isScalar (.bool b) .asIs
  | integer hlow hhigh =>
    exact (Sent.integer hlow hhigh).readsBack_of_isScalar (.integer _ _) .asIs
  | safelong hsafe =>
    rw [← SafeLong.most_eq] at hsafe
    have hwritten := SafeLong.text?_eq_ok_iff.mpr ⟨hsafe, rfl⟩
    exact ⟨_, Outcome.mapError_eq_ok.mpr hwritten, readOwn_eq_ok (SafeLong.ofText_text hsafe)⟩
  | binary bytes => exact ⟨_, rfl, readOwn_eq_ok (Binary.ofText_encode bytes)⟩
  | uuid u => exact ⟨_, rfl, readOwn_eq_ok u.ofText_text⟩
  | rid hvalid =>
    have hwritten := ResourceId.text?_eq_ok_iff.mpr ⟨hvalid, rfl⟩
    have hread := ResourceId.ofText_eq_ok_iff.mpr ⟨hvalid, rfl⟩
    exact ⟨_, Outcome.mapError_eq_ok.mpr hwritten, readOwn_eq_ok hread⟩
  | bearertoken hvalid =>
    have hwritten := BearerToken.text?_eq_ok_iff.mpr ⟨hvalid, rfl⟩
    have hread := BearerToken.ofText_eq_ok_iff.mpr ⟨hvalid, rfl⟩
    exact ⟨_, Outcome.mapError_eq_ok.mpr hwritten, readOwn_eq_ok hread⟩
  | boolean b => exact ⟨_, rfl, readOwn_eq_ok (Boolean.ofText_text b)⟩

/-- Plain text is exact: what can be sent is written and read back, a scalar also if its type was
declared under a new name, and an integer of a width is read exactly from the texts that spell one
of that width, whatever its type is called. -/
theorem plain_exact (d : Declared) :
    (∀ v : Wire, v.Sent → d = .asIs ∨ v.IsScalar →
      ∃ t, v.plainAs d = .ok t ∧ ofPlainAs d v.type t = .ok v) ∧
    (∀ (width : Nat) (s : Text) (v : Wire),
      ofPlainAs d (.integer (width + 1)) s = .ok v ↔
        ∃ n, Integer.Spells s n ∧ -(2 ^ width : Int) ≤ n ∧ n < 2 ^ width ∧
          v = .integer (width + 1) n) ∧
    ∀ (bits : Nat) (s : Text), ofPlainAs d (.integer bits) s = ofPlain (.integer bits) s := by
  refine ⟨fun v hsent hd => ?_, fun width s v => ofPlainAs_integer_iff d width, fun bits s => ?_⟩
  · rcases hd with rfl | hscalar
    · exact hsent.readsBack
    · exact hsent.readsBack_of_isScalar hscalar d
  · rw [ofPlain, ofPlainAs_integer, ofPlainAs_integer]

/-- The least integer of eight bits, under a new name. -/
theorem plain_exact_least :
    Sent (.integer 8 (-128)) ∧
      ∃ t, plainAs (.named "Offset") (.integer 8 (-128)) = .ok t ∧
        ofPlainAs (.named "Offset") (.integer 8) t = .ok (.integer 8 (-128)) := by
  have hsent : Sent (.integer 8 (-128)) := Sent.integer (by decide) (by decide)
  exact ⟨hsent, (plain_exact (.named "Offset")).1 _ hsent (.inr (.integer 8 (-128)))⟩

end Accord.Wire
