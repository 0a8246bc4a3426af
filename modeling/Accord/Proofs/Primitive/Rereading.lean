/-
# Reading, writing and reading again

Many texts are read as one value: with a plus or leading zeros, with line ends in base64, with
braces around an identifier or a long fraction of a second. All of them are written in one way, and
that way is read as the same value again. The exception is an offset from universal time that can
be read but is written as one that cannot.

## Main definitions

* `Rereads`: what is read from a text is written and read again as the same value.

## Main results

* `SafeLong.ofText_eq_ok_iff`, `BearerToken.ofText_eq_ok_iff`: what is read;
* `Rereads.primitives`: for which texts this is so, for six primitives.
-/

import Accord.Primitive.BearerToken
import Accord.Proofs.Primitive.Binary
import Accord.Proofs.Primitive.SafeLong
import Accord.Proofs.Primitive.Timestamp
import Accord.Proofs.Primitive.Uuid

namespace Accord

/-! ### Safe integers -/

namespace SafeLong

variable {t : Text} {n : Int}

/-- What is read in plain text: an integer in the safe range. -/
theorem ofText_eq_ok_iff :
    ofText t = .ok ⟨n⟩ ↔ Integer.read 64 t = .ok n ∧ |n| ≤ most := by
  unfold ofText
  split
  · next m hread =>
    rw [hread, ofInt, ite_valid_eq_ok_iff, Except.ok.injEq]
    tauto
  · next hread => simp [hread]
  · next cause hread => simp [hread]

/-- A safe integer that is written is read back. -/
theorem ofText_text (h : |n| ≤ most) : ofText (SafeLong.mk n).text = .ok ⟨n⟩ := by
  have hsmall := abs_lt.mp (lt_of_safe h)
  have hlimit : ((1 <<< 63 : Nat) : Int) = 9223372036854775808 := by decide
  have hread : Integer.read 64 (Text.ofInt n) = .ok n := by
    apply Integer.read_ofInt
    · omega
    · omega
  exact ofText_eq_ok_iff.mpr ⟨hread, h⟩

end SafeLong

/-! ### Tokens and truth values -/

namespace BearerToken

variable {t : Text} {token : BearerToken}

theorem ofText_eq_ok_iff : ofText t = .ok token ↔ token.valid = true ∧ token.value = t := by
  unfold ofText valid
  constructor
  · intro h
    split at h
    · next htoken =>
      cases h
      exact ⟨htoken, rfl⟩
    · cases h
  · rintro ⟨hvalid, rfl⟩
    exact if_pos hvalid

theorem text?_eq_ok_iff : token.text? = .ok t ↔ token.valid = true ∧ token.value = t := by
  unfold text?
  cases token.valid with
  | true => simp
  | false => simp

end BearerToken

theorem Boolean.ofText_text (b : Bool) : Boolean.ofText (Boolean.text b) = .ok b := by
  cases b <;> decide

/-! ### Reading again -/

/-- What is read from a text can be written, and what is written is read as the same value. -/
def Rereads {α ε : Type} (read : Text → Except ε α) (write : α → Option Text) (s : Text) : Prop :=
  ∀ v, read s = .ok v → ∃ t, write v = some t ∧ read t = .ok v

namespace Rereads

variable {α ε : Type} {read : Text → Except ε α} {print : α → Text}

/-- A value that is always written and read back. -/
theorem of_reads_back (h : ∀ v, read (print v) = .ok v) (s : Text) :
    Rereads read (fun v => some (print v)) s := fun v _ => ⟨print v, rfl, h v⟩

theorem safelong (s : Text) : Rereads SafeLong.ofText (fun v => v.text?.toOption) s := by
  intro v hread
  have hsafe : |v.value| ≤ SafeLong.most := (SafeLong.ofText_eq_ok_iff.mp hread).2
  have hwritten : v.text? = .ok v.text := SafeLong.text?_eq_ok_iff.mpr ⟨hsafe, rfl⟩
  exact ⟨v.text, congrArg Except.toOption hwritten, SafeLong.ofText_text hsafe⟩

theorem bearertoken (s : Text) : Rereads BearerToken.ofText (fun v => v.text?.toOption) s := by
  intro v hread
  -- A token is its own text.
  have hwritten : v.text? = .ok s :=
    BearerToken.text?_eq_ok_iff.mpr (BearerToken.ofText_eq_ok_iff.mp hread)
  exact ⟨s, congrArg Except.toOption hwritten, hread⟩

/-- A timestamp is read again unless its offset is spelled as 24 hours and 60 minutes. -/
theorem datetime_iff (s : Text) :
    Rereads Timestamp.ofText (fun v => some v.text) s ↔
      ¬ ((∃ v, Timestamp.ofText s = .ok v) ∧ Text.ofString "24:60" <:+ s) := by
  constructor
  · rintro h ⟨⟨v, hread⟩, hspelled⟩
    obtain ⟨t, hwritten, hagain⟩ := h v hread
    rw [← Option.some.inj hwritten] at hagain
    exact (Timestamp.ofText_text_iff hread).mp hagain hspelled
  · intro h v hread
    refine ⟨v.text, rfl, (Timestamp.ofText_text_iff hread).mpr fun hspelled => ?_⟩
    exact h ⟨⟨v, hread⟩, hspelled⟩

/-- Every text that is read as a primitive is read as a value that is written and read again as the
same, but for a timestamp with an offset of 24 hours and 60 minutes. -/
theorem primitives (s : Text) :
    Rereads SafeLong.ofText (fun v => v.text?.toOption) s ∧
    Rereads Binary.ofText (fun v => some (Base64.encode v)) s ∧
    Rereads Uuid.ofText (fun v => some v.text) s ∧
    Rereads BearerToken.ofText (fun v => v.text?.toOption) s ∧
    Rereads Boolean.ofText (fun v => some (Boolean.text v)) s ∧
    (Rereads Timestamp.ofText (fun v => some v.text) s ↔
      ¬ ((∃ v, Timestamp.ofText s = .ok v) ∧ Text.ofString "24:60" <:+ s)) :=
  ⟨safelong s, of_reads_back Binary.ofText_encode s, of_reads_back Uuid.ofText_text s,
    bearertoken s, of_reads_back Boolean.ofText_text s, datetime_iff s⟩

/-- A timestamp with an hour of one digit, a comma and an offset of 60 minutes. -/
theorem primitives_comma :
    Timestamp.ofText "2024-03-01T1:20:30,50+05:60" = .ok ⟨1709234430, 500000000, 21600⟩ ∧
      ∃ t, some (Timestamp.text ⟨1709234430, 500000000, 21600⟩) = some t ∧
        Timestamp.ofText t = .ok ⟨1709234430, 500000000, 21600⟩ := by
  have hread : Timestamp.ofText "2024-03-01T1:20:30,50+05:60" =
      .ok ⟨1709234430, 500000000, 21600⟩ := by decide +kernel
  have hrereads := (primitives "2024-03-01T1:20:30,50+05:60").2.2.2.2.2.mpr
    fun h => absurd h.2 (by decide +kernel)
  exact ⟨hread, hrereads _ hread⟩

/-- An offset of 24 hours and 60 minutes is read, written as 25 hours, and not read again. -/
theorem not_datetime_most_offset :
    Timestamp.ofText "2024-01-01T00:00:00+24:60" = .ok ⟨1703977200, 0, 90000⟩ ∧
      Timestamp.text ⟨1703977200, 0, 90000⟩ = "2024-01-01T00:00:00+25:00" ∧
      Timestamp.ofText "2024-01-01T00:00:00+25:00" =
        .error (.outOfRange "time zone offset hour") := by
  decide +kernel

end Rereads

end Accord
