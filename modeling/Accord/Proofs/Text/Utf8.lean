/-
# Symbols and their bytes

The symbols of a text make up the text again, byte for byte. A well-formed text is therefore the
encoding of its characters, and a text that begins and ends with visible characters has no white
space to trim.

## Main results

* `Text.bytes_symbols`: the bytes of the symbols of a text are the text;
* `Text.exists_chars`: a well-formed text is the encoding of characters;
* `Text.trim_of_visible`: a text of visible ASCII characters has nothing to trim.
-/

import Accord.Text.Category
import Mathlib.Data.List.Basic

namespace Accord.Text

variable {b : UInt8} {rest t : Text} {c : Char} {k x : Nat}

/-! ### Bytes -/

/-- What holds of all 256 numbers of a byte holds of every byte. -/
theorem forall_byte {P : UInt8 → Prop} (h : ∀ i : Fin 256, P (UInt8.ofNat i)) (b : UInt8) :
    P b := by
  have hb := h ⟨b.toNat, b.toNat_lt⟩
  rwa [UInt8.ofNat_toNat] at hb

/-- Different strings have different bytes. -/
theorem ofString_inj {a b : String} : ofString a = ofString b ↔ a = b := by
  constructor
  · intro h
    have hbytes : a.toList.utf8Encode = b.toList.utf8Encode := congrArg List.toByteArray h
    rw [String.utf8Encode_toList, String.utf8Encode_toList] at hbytes
    exact String.toByteArray_inj.mp hbytes
  · rintro rfl
    rfl

/-! ### Characters -/

/-- The bytes of a character by its code point. -/
theorem utf8EncodeChar_eq {v : Nat} (h : c.val.toNat = v) :
    String.utf8EncodeChar c =
      if v ≤ 127 then [UInt8.ofNat v]
      else if v ≤ 2047 then [UInt8.ofNat (v / 64 % 32 + 192), UInt8.ofNat (v % 64 + 128)]
      else if v ≤ 65535 then
        [UInt8.ofNat (v / 4096 % 16 + 224), UInt8.ofNat (v / 64 % 64 + 128),
          UInt8.ofNat (v % 64 + 128)]
      else
        [UInt8.ofNat (v / 262144 % 8 + 240), UInt8.ofNat (v / 4096 % 64 + 128),
          UInt8.ofNat (v / 64 % 64 + 128), UInt8.ofNat (v % 64 + 128)] := by
  subst h
  rfl

/-- The bytes of a character are the character itself or no ASCII. -/
theorem mem_utf8EncodeChar (h : b ∈ String.utf8EncodeChar c) :
    c.val.toNat ≤ 127 ∧ b.toNat = c.val.toNat ∨ 128 ≤ b.toNat := by
  rw [utf8EncodeChar_eq rfl] at h
  split at h
  · next hone =>
    obtain rfl := List.mem_singleton.mp h
    exact .inl ⟨hone, Nat.mod_eq_of_lt (by omega)⟩
  refine .inr ?_
  split at h
  · simp only [List.mem_cons, List.not_mem_nil, or_false] at h
    rcases h with rfl | rfl <;> simp only [UInt8.toNat_ofNat'] <;> omega
  split at h
  · simp only [List.mem_cons, List.not_mem_nil, or_false] at h
    rcases h with rfl | rfl | rfl <;> simp only [UInt8.toNat_ofNat'] <;> omega
  · simp only [List.mem_cons, List.not_mem_nil, or_false] at h
    rcases h with rfl | rfl | rfl | rfl <;> simp only [UInt8.toNat_ofNat'] <;> omega

/-! ### Sequences -/

theorem tail?_eq_some (h : tail? b = some x) : b.toNat = 0x80 + x ∧ x < 64 := by
  unfold tail? at h
  split at h
  case isFalse => cases h
  case isTrue hrange =>
    obtain rfl := Option.some.inj h
    simp only [Bool.and_eq_true, decide_eq_true_eq, UInt8.le_iff_toNat_le,
      UInt8.lt_iff_toNat_lt] at hrange
    obtain ⟨hlow, hhigh⟩ := hrange
    have : (0x80 : UInt8).toNat = 128 := rfl
    have : (0xC0 : UInt8).toNat = 192 := rfl
    omega

theorem toNat_ofNat_of_valid {n : Nat} (h : n.isValidChar) : (Char.ofNat n).val.toNat = n := by
  have hn : Char.ofNat n = Char.ofNatAux n h := dif_pos h
  rw [hn]
  rfl

/-- A character has its code point, which lies in the range that was asked for. -/
theorem scalar?_eq_some {least most code : Nat} (hmost : most ≤ 0x10FFFF)
    (h : scalar? least most code = some c) : c.val.toNat = code ∧ least ≤ code ∧ code ≤ most := by
  unfold scalar? at h
  split at h
  case isFalse => cases h
  case isTrue hrange =>
    obtain rfl := Option.some.inj h
    simp only [Bool.and_eq_true, Bool.not_eq_true', Bool.and_eq_false_iff, decide_eq_true_eq,
      decide_eq_false_iff_not] at hrange
    have hvalid : code.isValidChar := by
      unfold Nat.isValidChar
      omega
    exact ⟨toNat_ofNat_of_valid hvalid, hrange.1⟩

theorem ofNat_eq_of_toNat {n : Nat} (h : n = b.toNat) : UInt8.ofNat n = b := by
  rw [h, UInt8.ofNat_toNat]

/-- A character of a well-formed sequence is encoded by the bytes of the sequence. -/
theorem encode_of_sequence? (h : sequence? b rest = some (c, k)) :
    String.utf8EncodeChar c = b :: rest.take k := by
  unfold sequence? at h
  simp only [UInt8.lt_iff_toNat_lt] at h
  have h80 : (0x80 : UInt8).toNat = 128 := rfl
  have hC0 : (0xC0 : UInt8).toNat = 192 := rfl
  have hE0 : (0xE0 : UInt8).toNat = 224 := rfl
  have hF0 : (0xF0 : UInt8).toNat = 240 := rfl
  have hF8 : (0xF8 : UInt8).toNat = 248 := rfl
  rw [h80, hC0, hE0, hF0, hF8] at h
  split at h
  · next hone =>
    obtain ⟨rfl, rfl⟩ := Prod.mk.inj (Option.some.inj h)
    have hv := toNat_ofNat_of_valid (n := b.toNat) (Or.inl (by omega))
    rw [utf8EncodeChar_eq hv, List.take_zero, if_pos (by omega), ofNat_eq_of_toNat rfl]
  split at h
  · cases h
  split at h
  · -- Two bytes: the limits on the character give those on the bytes.
    rcases rest with _ | ⟨b₁, rest⟩
    · cases h
    · simp only [Option.bind_eq_bind, Option.bind_eq_some_iff, Option.pure_def,
        Option.some.injEq, Prod.mk.injEq] at h
      obtain ⟨x, hx, c', hc, rfl, rfl⟩ := h
      obtain ⟨hb₁, hx⟩ := tail?_eq_some hx
      obtain ⟨hv, hlow, hhigh⟩ := scalar?_eq_some (by omega) hc
      rw [utf8EncodeChar_eq hv, if_neg (by omega), if_pos (by omega)]
      rw [ofNat_eq_of_toNat (b := b) (by omega), ofNat_eq_of_toNat (b := b₁) (by omega)]
      rfl
  split at h
  · -- Three bytes.
    rcases rest with _ | ⟨b₁, _ | ⟨b₂, rest⟩⟩
    · cases h
    · cases h
    · simp only [Option.bind_eq_bind, Option.bind_eq_some_iff, Option.pure_def,
        Option.some.injEq, Prod.mk.injEq] at h
      obtain ⟨x, hx, y, hy, c', hc, rfl, rfl⟩ := h
      obtain ⟨hb₁, hx⟩ := tail?_eq_some hx
      obtain ⟨hb₂, hy⟩ := tail?_eq_some hy
      obtain ⟨hv, hlow, hhigh⟩ := scalar?_eq_some (by omega) hc
      rw [utf8EncodeChar_eq hv, if_neg (by omega), if_neg (by omega), if_pos (by omega)]
      rw [ofNat_eq_of_toNat (b := b) (by omega), ofNat_eq_of_toNat (b := b₁) (by omega),
        ofNat_eq_of_toNat (b := b₂) (by omega)]
      rfl
  split at h
  · -- Four bytes.
    rcases rest with _ | ⟨b₁, _ | ⟨b₂, _ | ⟨b₃, rest⟩⟩⟩
    · cases h
    · cases h
    · cases h
    · simp only [Option.bind_eq_bind, Option.bind_eq_some_iff, Option.pure_def,
        Option.some.injEq, Prod.mk.injEq] at h
      obtain ⟨x, hx, y, hy, z, hz, c', hc, rfl, rfl⟩ := h
      obtain ⟨hb₁, hx⟩ := tail?_eq_some hx
      obtain ⟨hb₂, hy⟩ := tail?_eq_some hy
      obtain ⟨hb₃, hz⟩ := tail?_eq_some hz
      obtain ⟨hv, hlow, hhigh⟩ := scalar?_eq_some (by omega) hc
      rw [utf8EncodeChar_eq hv, if_neg (by omega), if_neg (by omega), if_neg (by omega)]
      rw [ofNat_eq_of_toNat (b := b) (by omega), ofNat_eq_of_toNat (b := b₁) (by omega),
        ofNat_eq_of_toNat (b := b₂) (by omega), ofNat_eq_of_toNat (b := b₃) (by omega)]
      rfl
  · cases h

/-! ### Texts -/

theorem bytes_symbolsFrom (skip : Nat) (t : Text) :
    (symbolsFrom skip t).flatMap Symbol.bytes = t.drop skip := by
  induction t generalizing skip with
  | nil => cases skip <;> rfl
  | cons b rest ih =>
    cases skip with
    | succ k => exact ih k
    | zero =>
      cases hs : sequence? b rest with
      | none => simp [symbolsFrom, hs, Symbol.bytes, ih]
      | some found =>
        obtain ⟨c, k⟩ := found
        simp [symbolsFrom, hs, Symbol.bytes, ih, encode_of_sequence? hs]

/-- The symbols of a text make up the text. -/
theorem bytes_symbols (t : Text) : t.symbols.flatMap Symbol.bytes = t := bytes_symbolsFrom 0 t

/-- A well-formed text is the encoding of its characters. -/
theorem exists_chars (h : t.isUtf8 = true) :
    ∃ cs : List Char, t.symbols = cs.map Symbol.char ∧ t = ofChars cs := by
  have hall : ∀ s ∈ t.symbols, ∃ c, s = Symbol.char c := by
    intro s hs
    cases s with
    | char c => exact ⟨c, rfl⟩
    | stray b => exact absurd (List.all_eq_true.mp h _ hs) (by simp)
  obtain ⟨cs, hcs⟩ : ∃ cs : List Char, t.symbols = cs.map Symbol.char := by
    generalize t.symbols = symbols at hall
    induction symbols with
    | nil => exact ⟨[], rfl⟩
    | cons s symbols ih =>
      obtain ⟨c, rfl⟩ := hall s List.mem_cons_self
      obtain ⟨cs, rfl⟩ := ih fun s hs => hall s (List.mem_cons_of_mem _ hs)
      exact ⟨c :: cs, rfl⟩
  refine ⟨cs, hcs, ?_⟩
  calc t = (cs.map Symbol.char).flatMap Symbol.bytes := by rw [← hcs, bytes_symbols]
    _ = ofChars cs := by rw [List.flatMap_map]; rfl

/-- A well-formed text has no stray byte to replace. -/
theorem scrub_of_isUtf8 (h : t.isUtf8 = true) : t.scrub = t := by
  obtain ⟨cs, hsymbols, ht⟩ := exists_chars h
  have hchars : t.chars = cs := by
    rw [chars, hsymbols, List.map_map]
    exact List.map_id cs
  rw [scrub, hchars, ← ht]

/-! ### White space at the ends -/

theorem symbols_cons_of_ascii (h : b < 0x80) (rest : Text) :
    symbols (b :: rest) = .char (Char.ofNat b.toNat) :: symbols rest := by
  simp [symbols, symbolsFrom, sequence?, h]

/-- A visible ASCII character. -/
def isVisible (b : UInt8) : Bool := 0x20 < b && b < 0x7F

theorem lt_of_isVisible (h : isVisible b = true) : b < 0x80 := by
  simp only [isVisible, Bool.and_eq_true, decide_eq_true_eq, UInt8.lt_iff_toNat_lt] at h ⊢
  exact Nat.lt_trans h.2 (by decide)

theorem isBlank_of_isVisible (h : isVisible b = true) :
    isBlank (Char.ofNat b.toNat) = false := by
  have table : ∀ b : Fin 128, isVisible (UInt8.ofNat b) = true →
      isBlank (Char.ofNat b) = false := by decide +kernel
  have hlt := UInt8.lt_iff_toNat_lt.mp (lt_of_isVisible h)
  simpa [h] using table ⟨b.toNat, hlt⟩

theorem symbols_of_visible (h : ∀ b ∈ t, isVisible b = true) :
    t.symbols = t.map fun b => .char (Char.ofNat b.toNat) := by
  induction t with
  | nil => rfl
  | cons b rest ih =>
    rw [symbols_cons_of_ascii (lt_of_isVisible (h b List.mem_cons_self)),
      ih fun b hb => h b (List.mem_cons_of_mem _ hb)]
    rfl

theorem isUtf8_of_visible (h : ∀ b ∈ t, isVisible b = true) : t.isUtf8 = true := by
  rw [isUtf8, symbols_of_visible h]
  simp

/-- A text of visible characters has nothing to trim. -/
theorem trim_of_visible (h : ∀ b ∈ t, isVisible b = true) : t.trim = t := by
  have hblank : ∀ s ∈ t.symbols, isBlank s.shown = false := by
    rw [symbols_of_visible h]
    intro s hs
    obtain ⟨b, hb, rfl⟩ := List.mem_map.mp hs
    exact isBlank_of_isVisible (h b hb)
  have keep : ∀ l : List Symbol, (∀ s ∈ l, isBlank s.shown = false) →
      l.dropWhile (fun s => isBlank s.shown) = l := by
    intro l hl
    cases l with
    | nil => rfl
    | cons s l => simp [hl s List.mem_cons_self]
  have hreverse : ∀ s ∈ t.symbols.reverse, isBlank s.shown = false := fun s hs =>
    hblank s (List.mem_reverse.mp hs)
  simp only [trim, keep _ hblank, keep _ hreverse, List.reverse_reverse, bytes_symbols]

/-- A text that begins with a visible character is not all white space. -/
theorem trim_ne_nil (h : isVisible b = true) (rest : Text) : trim (b :: rest) ≠ [] := by
  have hfirst : isBlank (Symbol.char (Char.ofNat b.toNat)).shown = false :=
    isBlank_of_isVisible h
  simp only [trim, symbols_cons_of_ascii (lt_of_isVisible h), List.dropWhile_cons, hfirst,
    Bool.false_eq_true, if_false, List.reverse_cons]
  -- The first character ends what is left from the other side.
  rw [List.dropWhile_append]
  split
  · simp [hfirst, Symbol.bytes, String.utf8EncodeChar_ne_nil]
  · simp [Symbol.bytes, String.utf8EncodeChar_ne_nil]

end Accord.Text
