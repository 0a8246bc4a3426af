/-
# String literals

A text that is written as a string literal is read back as itself, but that a stray byte comes
back as the replacement character. Each symbol is written in one of three ways, and each way is
read by itself, whatever follows.

## Main definitions

* `Json.Written`: the ways in which a part of a text is written inside a literal.

## Main results

* `Json.written_quoteSymbol`: how a symbol is written;
* `Json.stringAfterQuote_quote`: a literal is read up to its closing quote.
-/

import Accord.Json.Writer
import Accord.Proofs.Text.Utf8

namespace Accord.Json

variable {b : UInt8} {c : Char} {written meant rest : Text}

/-! ### Parts of a literal -/

/-- A byte that stands for itself inside a literal. -/
def isPlainByte (b : UInt8) : Bool := b != Text.byte '"' && b != Text.byte '\\' && b != 0

/-- How a part of a text is written inside a literal: by a short escape, by number, or as it
is. -/
inductive Written : (written meant : Text) → Prop
  | short {e b : UInt8} (h : shortEscape? e = some b) : Written [Text.byte '\\', e] [b]
  | numbered {h₁ h₂ h₃ h₄ : UInt8} {u : Nat} (h : hex4? h₁ h₂ h₃ h₄ = some u)
      (hu : isHigh u = false) :
      Written [Text.byte '\\', Text.byte 'u', h₁, h₂, h₃, h₄] (unitBytes u)
  | plain {t : Text} (h : ∀ b ∈ t, isPlainByte b = true) : Written t t

theorem stringBody_cons_plain (h : isPlainByte b = true) (rest : Text) :
    stringBody (b :: rest) = (stringBody rest).map fun p => (b :: p.1, p.2) := by
  simp only [isPlainByte, Bool.and_eq_true, bne_iff_ne, ne_eq] at h
  obtain ⟨⟨hquote, hslash⟩, hzero⟩ := h
  rw [stringBody.eq_def]
  simp only [hquote, hslash, hzero, if_false]

theorem unescapeFrom_cons_plain (h : isPlainByte b = true) (rest : Text) :
    unescapeFrom 0 (b :: rest) = (unescapeFrom 0 rest).map (b :: ·) := by
  simp only [isPlainByte, Bool.and_eq_true, bne_iff_ne, ne_eq] at h
  rw [unescapeFrom.eq_def]
  simp only [h.1.2, if_false]

theorem stringBody_cons_backslash (e : UInt8) (rest : Text) :
    stringBody (Text.byte '\\' :: e :: rest) =
      (stringBody rest).map fun p => (Text.byte '\\' :: e :: p.1, p.2) := by
  rw [stringBody.eq_def]
  rfl

theorem stringBody_cons_quote (rest : Text) :
    stringBody (Text.byte '"' :: rest) = some ([], rest) := by
  rw [stringBody.eq_def]
  rfl

theorem isPlainByte_of_hexValue? {v : Nat} (h : Text.hexValue? b = some v) :
    isPlainByte b = true := by
  have table : ∀ b, (Text.hexValue? b).isSome = true → isPlainByte b = true :=
    Text.forall_byte (by decide +kernel)
  exact table b (by rw [h]; rfl)

/-- The digits of an escape by number stand for themselves when the end of a literal is looked
for. -/
theorem isPlainByte_of_hex4? {h₁ h₂ h₃ h₄ : UInt8} {u : Nat} (h : hex4? h₁ h₂ h₃ h₄ = some u) :
    isPlainByte h₁ = true ∧ isPlainByte h₂ = true ∧ isPlainByte h₃ = true ∧
      isPlainByte h₄ = true := by
  simp only [hex4?, Option.bind_eq_bind, Option.bind_eq_some_iff] at h
  obtain ⟨_, hd₁, _, hd₂, _, hd₃, _, hd₄, -⟩ := h
  exact ⟨isPlainByte_of_hexValue? hd₁, isPlainByte_of_hexValue? hd₂,
    isPlainByte_of_hexValue? hd₃, isPlainByte_of_hexValue? hd₄⟩

/-- The end of a literal is looked for behind each part of it. -/
theorem Written.stringBody_append (h : Written written meant) (rest : Text) :
    stringBody (written ++ rest) = (stringBody rest).map fun p => (written ++ p.1, p.2) := by
  cases h with
  | short h => exact stringBody_cons_backslash _ rest
  | numbered h hu =>
    obtain ⟨hp₁, hp₂, hp₃, hp₄⟩ := isPlainByte_of_hex4? h
    simp only [List.cons_append, List.nil_append, stringBody_cons_backslash,
      stringBody_cons_plain hp₁, stringBody_cons_plain hp₂, stringBody_cons_plain hp₃,
      stringBody_cons_plain hp₄, Option.map_map]
    rfl
  | plain h =>
    induction written with
    | nil => simp
    | cons b t ih =>
      rw [List.cons_append, stringBody_cons_plain (h b List.mem_cons_self),
        ih fun b hb => h b (List.mem_cons_of_mem _ hb), Option.map_map]
      rfl

/-- Each part of a literal denotes what it was written for. -/
theorem Written.unescapeFrom_append (h : Written written meant) (rest : Text) :
    unescapeFrom 0 (written ++ rest) = (unescapeFrom 0 rest).map (meant ++ ·) := by
  cases h with
  | @short e b h =>
    have hu : e ≠ Text.byte 'u' := by
      rintro rfl
      cases h
    rw [List.cons_append, List.cons_append, unescapeFrom.eq_def]
    simp only [if_true, if_neg hu, h, Option.bind_some, List.nil_append]
    rfl
  | numbered h hu =>
    simp only [List.cons_append, List.nil_append]
    rw [unescapeFrom.eq_def]
    simp only [if_true, h, hu, Option.bind_some, Bool.false_eq_true, if_false]
  | plain h =>
    induction written with
    | nil => simp
    | cons b t ih =>
      rw [List.cons_append, unescapeFrom_cons_plain (h b List.mem_cons_self),
        ih fun b hb => h b (List.mem_cons_of_mem _ hb), Option.map_map]
      rfl

/-! ### Symbols -/

/-- What is escaped by number. -/
def isNumbered (c : Char) : Bool := c.toNat < 0x20 || isWebUnsafe c

/-- The code points that are escaped by number are spelled by four digits that denote them. -/
theorem hex_of_isNumbered (h : isNumbered c = true) :
    ∃ h₁ h₂ h₃ h₄, Text.hex 4 c.toNat = [h₁, h₂, h₃, h₄] ∧ hex4? h₁ h₂ h₃ h₄ = some c.toNat ∧
      isHigh c.toNat = false ∧ isLow c.toNat = false := by
  have table : ∀ n ∈ List.range 32 ++ [0x3C, 0x3E, 0x26, 0x2028, 0x2029],
      Text.hex 4 n = [Text.hexDigit (n / 4096), Text.hexDigit (n / 256 % 16),
        Text.hexDigit (n / 16 % 16), Text.hexDigit (n % 16)] ∧
      hex4? (Text.hexDigit (n / 4096)) (Text.hexDigit (n / 256 % 16))
        (Text.hexDigit (n / 16 % 16)) (Text.hexDigit (n % 16)) = some n ∧
      isHigh n = false ∧ isLow n = false := by
    decide +kernel
  -- The line and paragraph separators are compared by number, the others as characters.
  have hmem : c.toNat ∈ List.range 32 ++ [0x3C, 0x3E, 0x26, 0x2028, 0x2029] := by
    simp only [isNumbered, isWebUnsafe, Bool.or_eq_true, decide_eq_true_eq] at h
    rw [List.mem_append, List.mem_range]
    rcases h with h | (((rfl | rfl) | rfl) | h) | h
    · exact .inl h
    · exact .inr (by decide)
    · exact .inr (by decide)
    · exact .inr (by decide)
    · exact .inr (by simp [h])
    · exact .inr (by simp [h])
  exact ⟨_, _, _, _, table _ hmem⟩

theorem isPlainByte_of_mem_utf8EncodeChar (hquote : c ≠ '"') (hslash : c ≠ '\\')
    (hc : 0x20 ≤ c.toNat) (h : b ∈ String.utf8EncodeChar c) : isPlainByte b = true := by
  -- The one byte of a small character is its number; the bytes of the others are above 127.
  have hne : ∀ d : Char, c ≠ d → c.val.toNat ≠ d.val.toNat := fun d hcd heq =>
    hcd (Char.ext (UInt32.toNat_inj.mp heq))
  have hq : c.val.toNat ≠ 34 := hne '"' hquote
  have hs : c.val.toNat ≠ 92 := hne '\\' hslash
  have hc : 0x20 ≤ c.val.toNat := hc
  simp only [isPlainByte, Bool.and_eq_true, bne_iff_ne, ne_eq, ← UInt8.toNat_inj]
  have : (Text.byte '"').toNat = 34 := rfl
  have : (Text.byte '\\').toNat = 92 := rfl
  have : (0 : UInt8).toNat = 0 := rfl
  rcases Text.mem_utf8EncodeChar h with ⟨-, hb⟩ | hb <;> omega

theorem written_quoteChar (c : Char) : Written (quoteChar c) (String.utf8EncodeChar c) := by
  unfold quoteChar
  split
  · exact .short (e := Text.byte '"') (by decide)
  · exact .short (e := Text.byte '\\') (by decide)
  · exact .short (e := Text.byte 'n') (by decide)
  · exact .short (e := Text.byte 'r') (by decide)
  · exact .short (e := Text.byte 't') (by decide)
  · next hquote hslash _ _ _ =>
    split
    · next hnumbered =>
      obtain ⟨h₁, h₂, h₃, h₄, hhex, hvalue, hhigh, hlow⟩ := hex_of_isNumbered hnumbered
      have hunit : unitBytes c.toNat = String.utf8EncodeChar c := by
        simp [unitBytes, hhigh, hlow, Char.ofNat_toNat]
      rw [hhex, ← hunit]
      exact .numbered hvalue hhigh
    · next hnumbered =>
      have hc : 0x20 ≤ c.toNat := by
        simp only [Bool.or_eq_true, decide_eq_true_eq, not_or] at hnumbered
        omega
      exact .plain fun b hb => isPlainByte_of_mem_utf8EncodeChar hquote hslash hc hb

/-- A symbol is written for the character that is shown for it. -/
theorem written_quoteSymbol (s : Symbol) :
    Written (quoteSymbol s) (String.utf8EncodeChar s.shown) := by
  cases s with
  | char c => exact written_quoteChar c
  | stray b =>
    have hunit : unitBytes 0xFFFD = String.utf8EncodeChar (Char.ofNat 0xFFFD) := by decide
    rw [Symbol.shown, ← hunit]
    change Written [Text.byte '\\', Text.byte 'u', Text.byte 'f', Text.byte 'f', Text.byte 'f',
      Text.byte 'd'] (unitBytes 0xFFFD)
    exact .numbered (by decide) (by decide)

/-! ### Literals -/

/-- The inside of the literal of a text. -/
def literalBody (t : Text) : Text := t.symbols.flatMap quoteSymbol

theorem quote_eq (t : Text) : quote t = Text.byte '"' :: (literalBody t ++ [Text.byte '"']) := rfl

section Parts

variable {α : Type} {write denote : α → Text}

/-- A literal that is written part by part ends with its closing quote. -/
theorem stringBody_flatMap (h : ∀ part, Written (write part) (denote part)) (parts : List α)
    (rest : Text) :
    stringBody (parts.flatMap write ++ Text.byte '"' :: rest) =
      some (parts.flatMap write, rest) := by
  induction parts with
  | nil => exact stringBody_cons_quote rest
  | cons part parts ih =>
    rw [List.flatMap_cons, List.append_assoc, (h part).stringBody_append, ih]
    rfl

/-- A literal that is written part by part denotes what its parts were written for. -/
theorem unescape_flatMap (h : ∀ part, Written (write part) (denote part)) (parts : List α) :
    unescape (parts.flatMap write) = some (parts.flatMap denote) := by
  unfold unescape
  induction parts with
  | nil => rfl
  | cons part parts ih =>
    rw [List.flatMap_cons, (h part).unescapeFrom_append, ih]
    rfl

end Parts

theorem stringBody_literalBody (t rest : Text) :
    stringBody (literalBody t ++ Text.byte '"' :: rest) = some (literalBody t, rest) :=
  stringBody_flatMap written_quoteSymbol t.symbols rest

theorem unescape_literalBody (t : Text) : unescape (literalBody t) = some t.scrub := by
  unfold literalBody Text.scrub Text.ofChars Text.chars
  rw [unescape_flatMap written_quoteSymbol, List.flatMap_map]

/-- A literal is read up to its closing quote. -/
theorem stringAfterQuote_quote (t rest : Text) :
    stringAfterQuote (literalBody t ++ Text.byte '"' :: rest) =
      some (t.scrub, quote t, rest) := by
  simp only [stringAfterQuote, stringBody_literalBody, unescape_literalBody,
    Option.bind_eq_bind, Option.bind_some]
  rfl

end Accord.Json
