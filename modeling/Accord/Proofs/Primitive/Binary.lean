/-
# Binary data in JSON

Binary data is written as a string, and read from a string by taking what stands between the
quotes. That is what the string denotes as long as it holds no escape. A string with an escape
holds a backslash, which is no base64, so it is refused whatever it denotes.

## Main results

* `Binary.ofJson_between`: between the quotes the plain text form is read;
* `Binary.toOption_ofJson`: what is read from a string literal;
* `Binary.ofJson_literal_iff`: when a literal is read as the text it denotes.
-/

import Accord.Primitive.Scalar
import Accord.Proofs.Json.Grammar
import Accord.Proofs.Text.Base64
import Accord.Proofs.Text.Characters

namespace Accord.Binary

variable {source value t : Text}

/-! ### Plain text -/

theorem ofText_eq_ok_iff {bytes : Text} : ofText t = .ok bytes ↔ Base64.decode t = .ok bytes := by
  unfold ofText
  cases Base64.decode t with
  | error offset => simp
  | ok decoded => simp

/-- Bytes that are written are read back. -/
theorem ofText_encode (bytes : Text) : ofText (Base64.encode bytes) = .ok bytes :=
  ofText_eq_ok_iff.mpr (Base64.decode_encode bytes)

/-- A text with a byte that is no base64 is refused. -/
theorem toOption_ofText_eq_none {b : UInt8} (hb : b ∈ t) (hcode : Base64.isCodeByte b = false) :
    (ofText t).toOption = none := by
  cases hread : ofText t with
  | error e => rfl
  | ok bytes =>
    have hall := Base64.isCodeByte_of_decode (ofText_eq_ok_iff.mp hread)
    rw [hall b hb] at hcode
    cases hcode

/-! ### Strings -/

/-- What stands between the quotes is read as it is. -/
theorem ofJson_between (body : Text) :
    ofJson (Text.byte '"' :: (body ++ [Text.byte '"'])) = ofText body := by
  have htrim := @Text.trim_of_visible_ends (Text.byte '"') (Text.byte '"') (by decide) (by decide)
    body
  have hlast : (Text.byte '"' :: (body ++ [Text.byte '"'])).getLast? = some (Text.byte '"') := by
    rw [← List.cons_append, List.getLast?_append, List.getLast?_singleton]
    rfl
  unfold ofJson
  rw [htrim]
  dsimp only
  rw [hlast, if_neg (by simp), List.drop_succ_cons, List.drop_zero, List.dropLast_concat]

/-- A string literal with an escape. -/
def Escaped (source : Text) : Prop := Text.byte '\\' ∈ source

instance (source : Text) : Decidable (Escaped source) :=
  inferInstanceAs (Decidable (Text.byte '\\' ∈ source))

/-- A literal without an escape is read as the text it denotes, and one with an escape not at
all. -/
theorem toOption_ofJson (h : Json.Literal source value) :
    (ofJson source).toOption = if Escaped source then none else (ofText value).toOption := by
  obtain ⟨body, rfl, -, hvalue⟩ := h
  rw [ofJson_between]
  have hescaped : Escaped (Text.byte '"' :: (body ++ [Text.byte '"'])) ↔ Text.byte '\\' ∈ body := by
    have hquote : Text.byte '\\' ≠ Text.byte '"' := by decide
    simp [Escaped, hquote]
  split
  case isTrue hescape => exact toOption_ofText_eq_none (hescaped.mp hescape) (by decide)
  case isFalse hescape =>
    -- Every byte stands for itself.
    have hplain : ∀ b ∈ body, b ≠ Text.byte '\\' := by
      intro b hb heq
      exact hescape (hescaped.mpr (heq ▸ hb))
    have hsame := Json.unescapeFrom_append_of_ne hplain []
    rw [List.append_nil] at hsame
    have hbody : some value = some body := by
      rw [← hvalue, Json.unescape, hsame]
      simp [Json.unescapeFrom]
    rw [Option.some.inj hbody]

/-- When a string literal is read as the text it denotes, and when two literals that denote the
same text are read alike: if they have no escapes, or denote no base64. What is written is always
read back. -/
theorem ofJson_literal_iff (source value : Text) (h : Json.Literal source value) :
    ((ofJson source).toOption = (ofText value).toOption ↔
      ¬ Escaped source ∨ (ofText value).toOption = none) ∧
    (∀ other, Json.Literal other value →
      ((ofJson source).toOption = (ofJson other).toOption ↔
        (Escaped source ↔ Escaped other) ∨ (ofText value).toOption = none)) ∧
    ∀ bytes, ofJson (json bytes) = .ok bytes := by
  refine ⟨?_, fun other hother => ?_, fun bytes => ?_⟩
  · rw [toOption_ofJson h]
    by_cases hsource : Escaped source
    · simp [hsource, eq_comm]
    · simp [hsource]
  · rw [toOption_ofJson h, toOption_ofJson hother]
    by_cases hsource : Escaped source <;> by_cases hescape : Escaped other <;>
      simp [hsource, hescape, eq_comm]
  · have hjson : json bytes = Text.byte '"' :: (Base64.encode bytes ++ [Text.byte '"']) := rfl
    rw [hjson, ofJson_between, ofText_encode]

/-- A literal without escapes, with the padding and a slash in it. -/
theorem ofJson_literal_iff_slash :
    Json.Literal "\"//8=\"" "//8=" ∧
      (ofJson "\"//8=\"").toOption = (ofText "//8=").toOption := by
  have hbody : Json.stringBody "//8=\"" = some (Text.ofString "//8=", []) := by decide +kernel
  have hvalue : Json.unescape "//8=" = some (Text.ofString "//8=") := by decide +kernel
  have hliteral : Json.Literal "\"//8=\"" "//8=" :=
    ⟨"//8=", rfl, (Json.inside_of_stringBody hbody).2, hvalue⟩
  exact ⟨hliteral, (ofJson_literal_iff _ _ hliteral).1.mpr (.inl (by decide))⟩

/-- A slash may be escaped in JSON, and is refused then. -/
theorem ofJson_escaped_slash :
    Json.Literal "\"\\/\\/8=\"" "//8=" ∧ ofText "//8=" = .ok [255, 255] ∧
      ofJson "\"\\/\\/8=\"" = .error (.notBase64 0) := by
  have hbody : Json.stringBody "\\/\\/8=\"" = some (Text.ofString "\\/\\/8=", []) := by
    decide +kernel
  have hvalue : Json.unescape "\\/\\/8=" = some (Text.ofString "//8=") := by decide +kernel
  have hread : ofText "\\/\\/8=" = .error (.notBase64 0) := by decide +kernel
  refine ⟨⟨"\\/\\/8=", rfl, (Json.inside_of_stringBody hbody).2, hvalue⟩,
    by decide +kernel, ?_⟩
  exact (ofJson_between "\\/\\/8=").trans hread

end Accord.Binary
