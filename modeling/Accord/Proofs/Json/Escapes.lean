/-
# Escapes in string literals

A string literal can be rewritten without changing the text it denotes: a character that is not
safe in a web page may be escaped by number, and everything else stays as it is. What makes this
more than a replacement byte by byte are pairs of escapes that denote one character together; a
rewritten character never becomes part of such a pair. A literal that is well formed denotes a
well-formed text.

## Main definitions

* `Json.Rewritten`: literals that differ in how unsafe characters are written.

## Main results

* `Json.Rewritten.unescape_eq`: rewriting keeps the text that is denoted;
* `Json.isUtf8_of_unescape`: a well-formed literal denotes a well-formed text.
-/

import Accord.Proofs.Json.Strings
import Accord.Proofs.Text.Characters

namespace Accord.Json

variable {b e c : UInt8} {h₁ h₂ h₃ h₄ : UInt8} {t t' rest v : Text} {u low : Nat}

/-! ### Escapes one at a time -/

theorem unescapeFrom_skip (k : Nat) (t : Text) : unescapeFrom k t = unescapeFrom 0 (t.drop k) := by
  induction t generalizing k with
  | nil => cases k <;> rfl
  | cons b rest ih =>
    cases k with
    | zero => rfl
    | succ k => exact ih k

theorem unescapeFrom_append_of_ne {w : Text} (h : ∀ b ∈ w, b ≠ Text.byte '\\') (rest : Text) :
    unescapeFrom 0 (w ++ rest) = (unescapeFrom 0 rest).map (w ++ ·) := by
  induction w with
  | nil => simp
  | cons b w ih =>
    obtain ⟨hb, hw⟩ := List.forall_mem_cons.mp h
    rw [List.cons_append, unescapeFrom.eq_def]
    simp only [if_neg hb, ih hw, Option.map_map]
    rfl

theorem unescapeFrom_short (h : shortEscape? e = some c) (rest : Text) :
    unescapeFrom 0 (Text.byte '\\' :: e :: rest) = (unescapeFrom 0 rest).map (c :: ·) :=
  (Written.short h).unescapeFrom_append rest

/-- The bytes of the character that two halves denote together. -/
def pairBytes (u low : Nat) : Text :=
  String.utf8EncodeChar (Char.ofNat (0x10000 + (u - 0xD800) * 0x400 + (low - 0xDC00)))

/-- The low half that completes an escape by number, if it is the first of a pair. -/
def completed? (u : Nat) (rest : Text) : Option Nat := if isHigh u then lowHalf? rest else none

theorem lowHalf?_of_completed? (h : completed? u rest = some low) : lowHalf? rest = some low := by
  unfold completed? at h
  split at h
  · exact h
  · cases h

/-- What an escape by number denotes depends on whether it is the first of a pair. -/
theorem unescapeFrom_numbered (h : hex4? h₁ h₂ h₃ h₄ = some u) (rest : Text) :
    unescapeFrom 0 (Text.byte '\\' :: Text.byte 'u' :: h₁ :: h₂ :: h₃ :: h₄ :: rest) =
      match completed? u rest with
      | some low => (unescapeFrom 0 (rest.drop 6)).map (pairBytes u low ++ ·)
      | none => (unescapeFrom 0 rest).map (unitBytes u ++ ·) := by
  rw [unescapeFrom.eq_def]
  simp only [if_true, h, Option.bind_some, unescapeFrom_skip 6]
  rfl

/-- An escape that can be read is short or by number. -/
theorem escape_cases (h : unescapeFrom 0 (Text.byte '\\' :: e :: rest) = some v) :
    (∃ c, shortEscape? e = some c) ∨
      ∃ h₁ h₂ h₃ h₄ after u, e = Text.byte 'u' ∧ rest = h₁ :: h₂ :: h₃ :: h₄ :: after ∧
        hex4? h₁ h₂ h₃ h₄ = some u := by
  rw [unescapeFrom.eq_def] at h
  simp only [if_true] at h
  split at h
  · next he =>
    split at h
    · next h₁ h₂ h₃ h₄ after =>
      obtain ⟨u, hu, -⟩ := Option.bind_eq_some_iff.mp h
      exact .inr ⟨h₁, h₂, h₃, h₄, after, u, he, rfl, hu⟩
    · cases h
  · obtain ⟨c, hc, -⟩ := Option.bind_eq_some_iff.mp h
    exact .inl ⟨c, hc⟩

theorem lowHalf?_eq_some_iff :
    lowHalf? t = some low ↔
      ∃ h₁ h₂ h₃ h₄ rest, t = Text.byte '\\' :: Text.byte 'u' :: h₁ :: h₂ :: h₃ :: h₄ :: rest ∧
        hex4? h₁ h₂ h₃ h₄ = some low ∧ isLow low = true := by
  constructor
  · intro h
    unfold lowHalf? at h
    split at h
    · next s u h₁ h₂ h₃ h₄ rest =>
      split at h
      · next hescape =>
        simp only [Bool.and_eq_true, decide_eq_true_eq] at hescape
        obtain ⟨rfl, rfl⟩ := hescape
        obtain ⟨n, hn, hlow⟩ := Option.bind_eq_some_iff.mp h
        split at hlow
        · next hislow =>
          obtain rfl := Option.some.inj hlow
          exact ⟨h₁, h₂, h₃, h₄, rest, rfl, hn, hislow⟩
        · cases hlow
      · cases h
    · cases h
  · rintro ⟨h₁, h₂, h₃, h₄, rest, rfl, hn, hislow⟩
    simp [lowHalf?, hn, hislow]

/-! ### Rewriting -/

/-- Insides of literals that differ only in how unsafe characters are written. -/
inductive Rewritten : Text → Text → Prop
  | nil : Rewritten [] []
  | plain {b : UInt8} {t t' : Text} (hb : isPlainByte b = true) (h : Rewritten t t') :
      Rewritten (b :: t) (b :: t')
  | escape (e : UInt8) {t t' : Text} (h : Rewritten t t') :
      Rewritten (Text.byte '\\' :: e :: t) (Text.byte '\\' :: e :: t')
  | numbered {c : Char} {t t' : Text} (hc : isWebUnsafe c = true) (h : Rewritten t t') :
      Rewritten (String.utf8EncodeChar c ++ t) (quoteChar c ++ t')

/-- The unsafe characters. -/
theorem isWebUnsafe_cases {c : Char} (h : isWebUnsafe c = true) :
    c = '<' ∨ c = '>' ∨ c = '&' ∨ c = Char.ofNat 0x2028 ∨ c = Char.ofNat 0x2029 := by
  simp only [isWebUnsafe, Bool.or_eq_true, decide_eq_true_eq] at h
  have hnat : ∀ n, c.toNat = n → c = Char.ofNat n := fun n hn => hn ▸ (Char.ofNat_toNat c).symm
  rcases h with (((h | h) | h) | h) | h
  · exact .inl h
  · exact .inr (.inl h)
  · exact .inr (.inr (.inl h))
  · exact .inr (.inr (.inr (.inl (hnat _ h))))
  · exact .inr (.inr (.inr (.inr (hnat _ h))))

/-- The bytes of an unsafe character stand for themselves, and none of them begins a digit. -/
theorem bytes_of_isWebUnsafe {c : Char} (h : isWebUnsafe c = true) :
    ∀ b ∈ String.utf8EncodeChar c, isPlainByte b = true ∧ Text.hexValue? b = none := by
  rcases isWebUnsafe_cases h with rfl | rfl | rfl | rfl | rfl <;> decide +kernel

/-- By number an unsafe character is written as one unit, which is no half of a pair. -/
theorem quoteChar_of_isWebUnsafe {c : Char} (h : isWebUnsafe c = true) :
    ∃ h₁ h₂ h₃ h₄, quoteChar c = [Text.byte '\\', Text.byte 'u', h₁, h₂, h₃, h₄] ∧
      hex4? h₁ h₂ h₃ h₄ = some c.toNat ∧ isHigh c.toNat = false ∧ isLow c.toNat = false ∧
      unitBytes c.toNat = String.utf8EncodeChar c := by
  rcases isWebUnsafe_cases h with rfl | rfl | rfl | rfl | rfl <;>
    exact ⟨_, _, _, _, rfl, by decide, by decide, by decide, by decide⟩

namespace Rewritten

/-- A digit is written as it is. -/
theorem of_cons_digit {u : Text} (hb : (Text.hexValue? b).isSome = true)
    (h : Rewritten (b :: t) u) : ∃ u', u = b :: u' ∧ Rewritten t u' := by
  obtain ⟨s, hs⟩ : ∃ s, b :: t = s := ⟨_, rfl⟩
  rw [hs] at h
  cases h with
  | nil => cases hs
  | plain hplain h =>
    obtain ⟨rfl, rfl⟩ := List.cons.inj hs
    exact ⟨_, rfl, h⟩
  | escape e h =>
    obtain ⟨rfl, -⟩ := List.cons.inj hs
    exact absurd hb (by decide)
  | @numbered c s s' hc h =>
    obtain ⟨first, tail, hbytes⟩ := List.exists_cons_of_ne_nil (String.utf8EncodeChar_ne_nil (c := c))
    rw [hbytes, List.cons_append] at hs
    obtain ⟨rfl, -⟩ := List.cons.inj hs
    have hnone := (bytes_of_isWebUnsafe hc b (by simp [hbytes])).2
    simp [hnone] at hb

/-- A digit was written as it is. -/
theorem of_digit_cons (hb : (Text.hexValue? b).isSome = true)
    (h : Rewritten t (b :: t')) : ∃ s, t = b :: s ∧ Rewritten s t' := by
  obtain ⟨s', hs⟩ : ∃ s', b :: t' = s' := ⟨_, rfl⟩
  rw [hs] at h
  cases h with
  | nil => cases hs
  | plain hplain h =>
    obtain ⟨rfl, rfl⟩ := List.cons.inj hs
    exact ⟨_, rfl, h⟩
  | escape e h =>
    obtain ⟨rfl, -⟩ := List.cons.inj hs
    exact absurd hb (by decide)
  | @numbered c s s' hc h =>
    obtain ⟨h₁, h₂, h₃, h₄, hquote, -⟩ := quoteChar_of_isWebUnsafe hc
    rw [hquote, List.cons_append] at hs
    obtain ⟨rfl, -⟩ := List.cons.inj hs
    exact absurd hb (by decide)

end Rewritten

theorem isSome_of_hex4? (h : hex4? h₁ h₂ h₃ h₄ = some u) :
    (Text.hexValue? h₁).isSome = true ∧ (Text.hexValue? h₂).isSome = true ∧
      (Text.hexValue? h₃).isSome = true ∧ (Text.hexValue? h₄).isSome = true := by
  simp only [hex4?, Option.bind_eq_bind, Option.bind_eq_some_iff] at h
  obtain ⟨_, hd₁, _, hd₂, _, hd₃, _, hd₄, -⟩ := h
  simp [hd₁, hd₂, hd₃, hd₄]

namespace Rewritten

/-- Four digits are written as they are. -/
theorem of_digits {u : Text} {n : Nat} (hn : hex4? h₁ h₂ h₃ h₄ = some n)
    (h : Rewritten (h₁ :: h₂ :: h₃ :: h₄ :: t) u) :
    ∃ u', u = h₁ :: h₂ :: h₃ :: h₄ :: u' ∧ Rewritten t u' := by
  obtain ⟨hd₁, hd₂, hd₃, hd₄⟩ := isSome_of_hex4? hn
  obtain ⟨u₁, rfl, ht₁⟩ := h.of_cons_digit hd₁
  obtain ⟨u₂, rfl, ht₂⟩ := ht₁.of_cons_digit hd₂
  obtain ⟨u₃, rfl, ht₃⟩ := ht₂.of_cons_digit hd₃
  obtain ⟨u₄, rfl, ht₄⟩ := ht₃.of_cons_digit hd₄
  exact ⟨u₄, rfl, ht₄⟩

/-- Four digits were written as they are. -/
theorem digits_of {n : Nat} (hn : hex4? h₁ h₂ h₃ h₄ = some n)
    (h : Rewritten t (h₁ :: h₂ :: h₃ :: h₄ :: t')) :
    ∃ s, t = h₁ :: h₂ :: h₃ :: h₄ :: s ∧ Rewritten s t' := by
  obtain ⟨hd₁, hd₂, hd₃, hd₄⟩ := isSome_of_hex4? hn
  obtain ⟨s₁, rfl, ht₁⟩ := h.of_digit_cons hd₁
  obtain ⟨s₂, rfl, ht₂⟩ := ht₁.of_digit_cons hd₂
  obtain ⟨s₃, rfl, ht₃⟩ := ht₂.of_digit_cons hd₃
  obtain ⟨s₄, rfl, ht₄⟩ := ht₃.of_digit_cons hd₄
  exact ⟨s₄, rfl, ht₄⟩

/-- A backslash that is not the first byte of an unsafe character begins an escape. -/
theorem of_cons_backslash {u : Text} (h : Rewritten (Text.byte '\\' :: e :: t) u) :
    ∃ u', u = Text.byte '\\' :: e :: u' ∧ Rewritten t u' := by
  obtain ⟨s, hs⟩ : ∃ s, Text.byte '\\' :: e :: t = s := ⟨_, rfl⟩
  rw [hs] at h
  cases h with
  | nil => cases hs
  | plain hplain h =>
    obtain ⟨rfl, -⟩ := List.cons.inj hs
    exact absurd hplain (by decide)
  | escape e h =>
    obtain ⟨-, hs⟩ := List.cons.inj hs
    obtain ⟨rfl, rfl⟩ := List.cons.inj hs
    exact ⟨_, rfl, h⟩
  | @numbered c s s' hc h =>
    obtain ⟨first, tail, hbytes⟩ := List.exists_cons_of_ne_nil (String.utf8EncodeChar_ne_nil (c := c))
    rw [hbytes, List.cons_append] at hs
    obtain ⟨rfl, -⟩ := List.cons.inj hs
    exact absurd (bytes_of_isWebUnsafe hc _ (by rw [hbytes]; exact List.mem_cons_self)).1 (by decide)

/-- A low half stays where it is, with what follows it. -/
theorem of_lowHalf? (h : Rewritten t t') (hlow : lowHalf? t = some low) :
    lowHalf? t' = some low ∧ Rewritten (t.drop 6) (t'.drop 6) := by
  obtain ⟨h₁, h₂, h₃, h₄, rest, rfl, hn, hislow⟩ := lowHalf?_eq_some_iff.mp hlow
  obtain ⟨u, rfl, hu⟩ := h.of_cons_backslash
  obtain ⟨rest', rfl, hrest⟩ := hu.of_digits hn
  exact ⟨lowHalf?_eq_some_iff.mpr ⟨h₁, h₂, h₃, h₄, rest', rfl, hn, hislow⟩, hrest⟩

/-- No low half comes into being. -/
theorem lowHalf?_eq_none (h : Rewritten t t') (hlow : lowHalf? t = none) : lowHalf? t' = none := by
  by_contra hsome
  obtain ⟨low, hlow'⟩ := Option.ne_none_iff_exists'.mp hsome
  obtain ⟨h₁, h₂, h₃, h₄, rest, hs, hn, hislow⟩ := lowHalf?_eq_some_iff.mp hlow'
  cases h with
  | nil => cases hs
  | plain hplain h =>
    obtain ⟨rfl, -⟩ := List.cons.inj hs
    exact absurd hplain (by decide)
  | escape e h =>
    -- The four digits behind the escape were there before.
    obtain ⟨-, hs⟩ := List.cons.inj hs
    obtain ⟨rfl, rfl⟩ := List.cons.inj hs
    obtain ⟨s, rfl, -⟩ := h.digits_of hn
    have hbefore := lowHalf?_eq_some_iff.mpr ⟨h₁, h₂, h₃, h₄, s, rfl, hn, hislow⟩
    rw [hlow] at hbefore
    cases hbefore
  | numbered hc h =>
    obtain ⟨k₁, k₂, k₃, k₄, hquote, hk, -, hnotlow, -⟩ := quoteChar_of_isWebUnsafe hc
    rw [hquote] at hs
    simp only [List.cons_append, List.nil_append, List.cons.injEq, true_and] at hs
    obtain ⟨rfl, rfl, rfl, rfl, -⟩ := hs
    rw [hk] at hn
    obtain rfl := Option.some.inj hn
    rw [hnotlow] at hislow
    cases hislow

theorem completed?_eq (h : Rewritten t t') (u : Nat) : completed? u t' = completed? u t := by
  unfold completed?
  split
  · cases hlow : lowHalf? t with
    | none => exact h.lowHalf?_eq_none hlow
    | some low => exact (h.of_lowHalf? hlow).1
  · rfl

/-- Rewriting keeps the text that is denoted. -/
theorem unescape_eq (h : Rewritten t t') (hv : unescape t = some v) : unescape t' = some v := by
  unfold unescape at hv ⊢
  -- The induction is on the length of the text: a pair of escapes is passed over as a whole.
  induction hlength : t.length using Nat.strongRecOn generalizing t t' v with
  | ind n ih =>
    subst hlength
    cases h with
    | nil => exact hv
    | @plain b t t' hb h =>
      rw [unescapeFrom_cons_plain hb, Option.map_eq_some_iff] at hv ⊢
      obtain ⟨v', hv', rfl⟩ := hv
      exact ⟨v', ih t.length (by simp) h hv' rfl, rfl⟩
    | @numbered c t t' hc h =>
      obtain ⟨h₁, h₂, h₃, h₄, hquote, hn, hhigh, -, hunit⟩ := quoteChar_of_isWebUnsafe hc
      have hplain := (Written.plain fun b hb => (bytes_of_isWebUnsafe hc b hb).1).unescapeFrom_append t
      have hnumbered := (Written.numbered hn hhigh).unescapeFrom_append t'
      rw [hplain, Option.map_eq_some_iff] at hv
      obtain ⟨v', hv', rfl⟩ := hv
      have hshorter := Text.length_lt_bytes_append (.char c) t
      rw [hquote, hnumbered, ih t.length hshorter h hv' rfl, hunit]
      rfl
    | @escape e t t' h =>
      rcases escape_cases hv with ⟨c, hc⟩ | ⟨h₁, h₂, h₃, h₄, rest, u, rfl, rfl, hn⟩
      · rw [unescapeFrom_short hc, Option.map_eq_some_iff] at hv ⊢
        obtain ⟨v', hv', rfl⟩ := hv
        exact ⟨v', ih t.length (by simp only [List.length_cons]; omega) h hv' rfl, rfl⟩
      · obtain ⟨rest', rfl, hrest⟩ := h.of_digits hn
        rw [unescapeFrom_numbered hn] at hv ⊢
        rw [hrest.completed?_eq]
        split at hv
        · next low hlow =>
          rw [Option.map_eq_some_iff] at hv ⊢
          obtain ⟨v', hv', rfl⟩ := hv
          have hshorter : (rest.drop 6).length < (Text.byte '\\' :: Text.byte 'u' :: h₁ :: h₂ :: h₃ ::
              h₄ :: rest).length := by
            simp only [List.length_drop, List.length_cons]
            omega
          have hhalf := lowHalf?_of_completed? hlow
          exact ⟨v', ih _ hshorter (hrest.of_lowHalf? hhalf).2 hv' rfl, rfl⟩
        · rw [Option.map_eq_some_iff] at hv ⊢
          obtain ⟨v', hv', rfl⟩ := hv
          have hshorter : rest.length < (Text.byte '\\' :: Text.byte 'u' :: h₁ :: h₂ :: h₃ ::
              h₄ :: rest).length := by
            simp only [List.length_cons]
            omega
          exact ⟨v', ih _ hshorter hrest hv' rfl, rfl⟩

end Rewritten

/-! ### Well-formed literals -/

theorem lt_of_hexValue? (h : (Text.hexValue? b).isSome = true) : b < 0x80 := by
  have table : ∀ b, (Text.hexValue? b).isSome = true → b < 0x80 :=
    Text.forall_byte (by decide +kernel)
  exact table b h

theorem lt_of_shortEscape? (h : shortEscape? e = some c) : e < 0x80 ∧ c < 0x80 := by
  have table : ∀ e, (shortEscape? e).all (fun c => e < 0x80 && c < 0x80) = true :=
    Text.forall_byte (by decide +kernel)
  simpa [h] using table e

/-- Behind an escape by number a well-formed text goes on. -/
theorem isUtf8_of_digits (hn : hex4? h₁ h₂ h₃ h₄ = some u) (rest : Text) :
    Text.isUtf8 (h₁ :: h₂ :: h₃ :: h₄ :: rest) = rest.isUtf8 := by
  obtain ⟨hd₁, hd₂, hd₃, hd₄⟩ := isSome_of_hex4? hn
  rw [Text.isUtf8_cons_of_ascii (lt_of_hexValue? hd₁), Text.isUtf8_cons_of_ascii (lt_of_hexValue? hd₂),
    Text.isUtf8_cons_of_ascii (lt_of_hexValue? hd₃), Text.isUtf8_cons_of_ascii (lt_of_hexValue? hd₄)]

/-- A low half is an escape, with well-formed text behind it. -/
theorem isUtf8_of_lowHalf? (h : lowHalf? t = some low) : Text.isUtf8 (t.drop 6) = t.isUtf8 := by
  obtain ⟨h₁, h₂, h₃, h₄, rest, rfl, hn, -⟩ := lowHalf?_eq_some_iff.mp h
  rw [Text.isUtf8_cons_of_ascii (by decide), Text.isUtf8_cons_of_ascii (by decide),
    isUtf8_of_digits hn]
  rfl

/-- A well-formed literal denotes a well-formed text. -/
theorem isUtf8_of_unescape (h : t.isUtf8 = true) (hv : unescape t = some v) : v.isUtf8 = true := by
  unfold unescape at hv
  -- On the length again; the text is taken a character or an escape at a time.
  induction hlength : t.length using Nat.strongRecOn generalizing t v with
  | ind n ih =>
    subst hlength
    cases hsymbols : t.symbols with
    | nil =>
      obtain rfl := Text.symbols_eq_nil hsymbols
      obtain rfl := Option.some.inj hv
      rfl
    | cons s ss =>
      obtain ⟨rest, rfl, -, -⟩ := Text.symbols_eq_cons hsymbols
      cases s with
      | stray b =>
        rw [Text.isUtf8, hsymbols] at h
        cases h
      | char c =>
        simp only [Symbol.bytes] at h hv ih
        rw [Text.isUtf8_encode_append] at h
        by_cases hslash : Text.byte '\\' ∈ String.utf8EncodeChar c
        · obtain rfl : c = '\\' := Text.eq_of_ascii_mem_encode (by decide) hslash
          rw [show String.utf8EncodeChar '\\' = [Text.byte '\\'] from rfl,
            List.singleton_append] at hv ih
          cases rest with
          | nil => cases hv
          | cons e rest =>
            rcases escape_cases hv with ⟨d, hd⟩ | ⟨h₁, h₂, h₃, h₄, after, u, rfl, rfl, hn⟩
            · obtain ⟨he, hascii⟩ := lt_of_shortEscape? hd
              rw [unescapeFrom_short hd, Option.map_eq_some_iff] at hv
              obtain ⟨v', hv', rfl⟩ := hv
              rw [Text.isUtf8_cons_of_ascii he] at h
              rw [Text.isUtf8_cons_of_ascii hascii]
              exact ih _ (by simp only [List.length_cons]; omega) h hv' rfl
            · rw [Text.isUtf8_cons_of_ascii (by decide), isUtf8_of_digits hn] at h
              rw [unescapeFrom_numbered hn] at hv
              split at hv
              · next low hlow =>
                obtain ⟨v', hv', rfl⟩ := Option.map_eq_some_iff.mp hv
                rw [← isUtf8_of_lowHalf? (lowHalf?_of_completed? hlow)] at h
                rw [pairBytes, Text.isUtf8_encode_append]
                exact ih _ (by simp only [List.length_cons, List.length_drop]; omega) h hv' rfl
              · obtain ⟨v', hv', rfl⟩ := Option.map_eq_some_iff.mp hv
                rw [unitBytes, Text.isUtf8_encode_append]
                exact ih _ (by simp only [List.length_cons]; omega) h hv' rfl
        · rw [unescapeFrom_append_of_ne fun b hb heq => hslash (heq ▸ hb),
            Option.map_eq_some_iff] at hv
          obtain ⟨v', hv', rfl⟩ := hv
          have hshorter := Text.length_lt_bytes_append (.char c) rest
          rw [Text.isUtf8_encode_append]
          exact ih _ hshorter h hv' rfl

end Accord.Json
