/-
# Characters and where they end

An encoded character in front of any bytes is read as that character, so that the bytes which
follow it are read as if they stood alone. A stray byte is never ASCII, and an ASCII byte is never
part of a longer sequence: a text can be cut in front of it and behind it, and both sides of a
well-formed text are well formed.

## Main results

* `Text.symbols_encode_append`: a character is read back, whatever follows;
* `Text.symbols_eq_cons`: the first symbol of a text and the text behind it;
* `Text.symbols_append_ascii`: an ASCII byte separates the symbols around it;
* `Text.trim_of_visible_ends`: a text between two visible characters has nothing to trim.
-/

import Accord.Proofs.Text.Utf8

namespace Accord.Text

variable {b : UInt8} {rest t tail : Text} {c : Char} {k x : Nat} {s : Symbol}

/-! ### Encoded characters -/

theorem toNat_ofNat_of_lt {n : Nat} (h : n < 256) : (UInt8.ofNat n).toNat = n := by
  rw [UInt8.toNat_ofNat']
  exact Nat.mod_eq_of_lt h

theorem tail?_ofNat (h : x < 64) : tail? (UInt8.ofNat (x + 128)) = some x := by
  have hx := toNat_ofNat_of_lt (n := x + 128) (by omega)
  have h80 : (0x80 : UInt8).toNat = 128 := rfl
  have hC0 : (0xC0 : UInt8).toNat = 192 := rfl
  rw [tail?, if_pos, hx]
  · exact congrArg some (by omega)
  · simp only [Bool.and_eq_true, decide_eq_true_eq, UInt8.le_iff_toNat_le,
      UInt8.lt_iff_toNat_lt, hx, h80, hC0]
    omega

theorem scalar?_of_toNat {least most v : Nat} (h : c.val.toNat = v) (hlow : least ≤ v)
    (hhigh : v ≤ most) : scalar? least most v = some c := by
  have hvalid : v < 0xD800 ∨ 0xDFFF < v ∧ v < 0x110000 := h ▸ c.valid
  have hchar : Char.ofNat v = c := by
    rw [← h]
    exact Char.ofNat_toNat c
  rw [scalar?, if_pos, hchar]
  simp only [Bool.and_eq_true, Bool.not_eq_true', Bool.and_eq_false_iff, decide_eq_true_eq,
    decide_eq_false_iff_not]
  omega

/-- The bytes of a character are read as that character, whatever follows. -/
theorem sequence?_of_encode (h : String.utf8EncodeChar c = b :: tail) (rest : Text) :
    sequence? b (tail ++ rest) = some (c, tail.length) := by
  have hvalid : c.val.toNat < 0xD800 ∨ 0xDFFF < c.val.toNat ∧ c.val.toNat < 0x110000 := c.valid
  have h80 : (0x80 : UInt8).toNat = 128 := rfl
  have hC0 : (0xC0 : UInt8).toNat = 192 := rfl
  have hE0 : (0xE0 : UInt8).toNat = 224 := rfl
  have hF0 : (0xF0 : UInt8).toNat = 240 := rfl
  have hF8 : (0xF8 : UInt8).toNat = 248 := rfl
  obtain ⟨v, hv⟩ : ∃ v, c.val.toNat = v := ⟨_, rfl⟩
  rw [hv] at hvalid
  rw [utf8EncodeChar_eq hv] at h
  unfold sequence?
  simp only [UInt8.lt_iff_toNat_lt, h80, hC0, hE0, hF0, hF8]
  -- The number of bytes decides about the first of them, and the others carry six bits each.
  split at h
  · next hone =>
    obtain ⟨rfl, rfl⟩ := List.cons.inj h
    have hb := toNat_ofNat_of_lt (n := v) (by omega)
    rw [if_pos (by omega), hb, ← hv]
    exact congrArg (fun c => some (c, 0)) (Char.ofNat_toNat c)
  split at h
  · next hmore htwo =>
    obtain ⟨rfl, rfl⟩ := List.cons.inj h
    have hb := toNat_ofNat_of_lt (n := v / 64 % 32 + 192) (by omega)
    rw [if_neg (by omega), if_neg (by omega), if_pos (by omega), hb]
    have hcode : (v / 64 % 32 + 192 - 192) * 64 + v % 64 = v := by omega
    simp only [List.cons_append, List.nil_append, Option.bind_eq_bind,
      tail?_ofNat (Nat.mod_lt v (by decide : 64 > 0)), Option.bind_some, hcode,
      scalar?_of_toNat hv (show 0x80 ≤ v by omega) (show v ≤ 0x7FF by omega)]
    rfl
  split at h
  · next hmore hthree =>
    obtain ⟨rfl, rfl⟩ := List.cons.inj h
    have hb := toNat_ofNat_of_lt (n := v / 4096 % 16 + 224) (by omega)
    rw [if_neg (by omega), if_neg (by omega), if_neg (by omega), if_pos (by omega), hb]
    have hcode : ((v / 4096 % 16 + 224 - 224) * 64 + v / 64 % 64) * 64 + v % 64 = v := by omega
    simp only [List.cons_append, List.nil_append, Option.bind_eq_bind,
      tail?_ofNat (Nat.mod_lt _ (by decide : 64 > 0)), Option.bind_some, hcode,
      scalar?_of_toNat hv (show 0x800 ≤ v by omega) (show v ≤ 0xFFFF by omega)]
    rfl
  · next hmore =>
    obtain ⟨rfl, rfl⟩ := List.cons.inj h
    have hb := toNat_ofNat_of_lt (n := v / 262144 % 8 + 240) (by omega)
    rw [if_neg (by omega), if_neg (by omega), if_neg (by omega), if_neg (by omega),
      if_pos (by omega), hb]
    have hcode : (((v / 262144 % 8 + 240 - 240) * 64 + v / 4096 % 64) * 64 + v / 64 % 64) * 64 +
        v % 64 = v := by omega
    simp only [List.cons_append, List.nil_append, Option.bind_eq_bind,
      tail?_ofNat (Nat.mod_lt _ (by decide : 64 > 0)), Option.bind_some, hcode,
      scalar?_of_toNat hv (show 0x10000 ≤ v by omega) (show v ≤ 0x10FFFF by omega)]
    rfl

/-! ### Symbols one after the other -/

theorem symbolsFrom_eq (k : Nat) (t : Text) : symbolsFrom k t = symbols (t.drop k) := by
  induction t generalizing k with
  | nil => cases k <;> rfl
  | cons b rest ih =>
    cases k with
    | zero => rfl
    | succ k => exact ih k

/-- A character is read back, whatever follows. -/
theorem symbols_encode_append (c : Char) (rest : Text) :
    symbols (String.utf8EncodeChar c ++ rest) = .char c :: symbols rest := by
  obtain ⟨b, tail, h⟩ := List.exists_cons_of_ne_nil (String.utf8EncodeChar_ne_nil (c := c))
  have hfound := sequence?_of_encode h rest
  rw [h, List.cons_append, symbols, symbolsFrom, hfound]
  simp only [symbolsFrom_eq, List.drop_left]

/-- A text begins with the bytes of its first symbol, and the other symbols are those of the text
behind them. A stray byte is not ASCII. -/
theorem symbols_eq_cons {ss : List Symbol} (h : t.symbols = s :: ss) :
    ∃ rest, t = s.bytes ++ rest ∧ ss = rest.symbols ∧ ∀ b, s = .stray b → 0x80 ≤ b := by
  cases t with
  | nil => cases h
  | cons b rest =>
    rw [symbols, symbolsFrom] at h
    cases hs : sequence? b rest with
    | some found =>
      obtain ⟨c, k⟩ := found
      rw [hs] at h
      obtain ⟨rfl, rfl⟩ := List.cons.inj h
      refine ⟨rest.drop k, ?_, symbolsFrom_eq k rest, by simp⟩
      rw [Symbol.bytes, encode_of_sequence? hs, List.cons_append, List.take_append_drop]
    | none =>
      rw [hs] at h
      obtain ⟨rfl, rfl⟩ := List.cons.inj h
      refine ⟨rest, rfl, rfl, ?_⟩
      intro b' hb'
      obtain rfl := Symbol.stray.inj hb'
      by_contra hb
      rw [sequence?.eq_def, if_pos (UInt8.not_le.mp hb)] at hs
      cases hs

theorem symbols_eq_nil (h : t.symbols = []) : t = [] := by
  rw [← bytes_symbols t, h]
  rfl

theorem length_lt_bytes_append (s : Symbol) (rest : Text) :
    rest.length < (s.bytes ++ rest).length := by
  have hne : s.bytes ≠ [] := by
    cases s with
    | char c => exact String.utf8EncodeChar_ne_nil
    | stray b => exact List.cons_ne_nil b []
  have hpos := List.length_pos_iff.mpr hne
  rw [List.length_append]
  omega

/-! ### Well-formed texts -/

theorem isUtf8_encode_append (c : Char) (rest : Text) :
    isUtf8 (String.utf8EncodeChar c ++ rest) = isUtf8 rest := by
  simp [isUtf8, symbols_encode_append]

theorem isUtf8_cons_of_ascii (h : b < 0x80) (rest : Text) : isUtf8 (b :: rest) = isUtf8 rest := by
  simp [isUtf8, symbols_cons_of_ascii h]

/-- The byte of an ASCII character is the character. -/
theorem encode_of_ascii (h : b < 0x80) : String.utf8EncodeChar (Char.ofNat b.toNat) = [b] := by
  have hb : sequence? b [] = some (Char.ofNat b.toNat, 0) := by
    rw [sequence?.eq_def, if_pos h]
  exact encode_of_sequence? hb

/-- Of the bytes of a character only a whole one is ASCII. -/
theorem eq_of_ascii_mem_encode (h : b < 0x80) (hb : b ∈ String.utf8EncodeChar c) :
    c = Char.ofNat b.toNat := by
  have hlt : b.toNat < 128 := UInt8.lt_iff_toNat_lt.mp h
  rcases mem_utf8EncodeChar hb with ⟨-, hc⟩ | hc
  · rw [hc]
    exact (Char.ofNat_toNat c).symm
  · omega

/-- The bytes of a symbol behind its first one are not ASCII. -/
theorem le_of_mem_tail {first : UInt8} (h : s.bytes = first :: tail) (hb : b ∈ tail) :
    0x80 ≤ b := by
  by_contra hlt
  have hlt := UInt8.not_le.mp hlt
  cases s with
  | stray b' =>
    obtain ⟨-, rfl⟩ := List.cons.inj h
    cases hb
  | char c =>
    rw [Symbol.bytes] at h
    rw [eq_of_ascii_mem_encode (c := c) hlt (by simp [h, hb]), encode_of_ascii hlt] at h
    obtain ⟨-, rfl⟩ := List.cons.inj h
    cases hb

/-! ### Texts that are cut at an ASCII byte -/

/-- A sequence is found exactly where a character is encoded. -/
theorem sequence?_eq_some_iff {k : Nat} :
    sequence? b t = some (c, k) ↔
      ∃ tail rest, t = tail ++ rest ∧ String.utf8EncodeChar c = b :: tail ∧ k = tail.length := by
  constructor
  · intro h
    have hbytes := encode_of_sequence? h
    have hfound := sequence?_of_encode hbytes (t.drop k)
    rw [List.take_append_drop, h] at hfound
    obtain ⟨-, hk⟩ := Prod.mk.inj (Option.some.inj hfound)
    exact ⟨t.take k, t.drop k, (List.take_append_drop k t).symm, hbytes, hk⟩
  · rintro ⟨tail, rest, rfl, hbytes, rfl⟩
    exact sequence?_of_encode hbytes rest

/-- No sequence goes beyond an ASCII byte. -/
theorem sequence?_append_ascii (hb : b < 0x80) (first : UInt8) (left right : Text) :
    sequence? first (left ++ b :: right) = sequence? first left := by
  refine Option.ext fun found => ?_
  obtain ⟨c, k⟩ := found
  rw [sequence?_eq_some_iff, sequence?_eq_some_iff]
  constructor
  · rintro ⟨tail, rest, hsplit, hbytes, hk⟩
    rcases List.append_eq_append_iff.mp hsplit with ⟨more, rfl, hmore⟩ | ⟨more, rfl, -⟩
    · cases more with
      | nil => exact ⟨left, [], by simp, by simpa using hbytes, by simpa using hk⟩
      | cons b' more =>
        obtain ⟨rfl, -⟩ := List.cons.inj hmore
        have hle : 0x80 ≤ b := le_of_mem_tail (s := .char c) hbytes (by simp)
        exact absurd hb (UInt8.not_lt.mpr hle)
    · exact ⟨tail, more, rfl, hbytes, hk⟩
  · rintro ⟨tail, rest, rfl, hbytes, hk⟩
    exact ⟨tail, rest ++ b :: right, List.append_assoc _ _ _, hbytes, hk⟩

/-- An ASCII byte separates the symbols on its left from those on its right. -/
theorem symbols_append_ascii (hb : b < 0x80) (left right : Text) :
    symbols (left ++ b :: right) =
      left.symbols ++ .char (Char.ofNat b.toNat) :: right.symbols := by
  induction hlength : left.length using Nat.strongRecOn generalizing left with
  | ind n ih =>
    subst hlength
    cases left with
    | nil => exact symbols_cons_of_ascii hb right
    | cons first left =>
      rw [List.cons_append, symbols, symbolsFrom, symbols, symbolsFrom, sequence?_append_ascii hb]
      cases hs : sequence? first left with
      | none => exact congrArg (.stray first :: ·) (ih left.length (by simp) left rfl)
      | some found =>
        obtain ⟨c, k⟩ := found
        obtain ⟨tail, rest, rfl, -, rfl⟩ := sequence?_eq_some_iff.mp hs
        simp only [symbolsFrom_eq, List.append_assoc, List.drop_left, List.cons_append]
        exact congrArg (.char c :: ·)
          (ih rest.length (by simp only [List.length_cons, List.length_append]; omega) rest rfl)

theorem isUtf8_append_ascii (hb : b < 0x80) (left right : Text) :
    isUtf8 (left ++ b :: right) = (left.isUtf8 && right.isUtf8) := by
  simp [isUtf8, symbols_append_ascii hb]

/-! ### Texts between visible characters -/

/-- A text between two visible characters has nothing to trim. -/
theorem trim_of_visible_ends {first last : UInt8} (hfirst : isVisible first = true)
    (hlast : isVisible last = true) (t : Text) :
    trim (first :: (t ++ [last])) = first :: (t ++ [last]) := by
  have hend := symbols_append_ascii (lt_of_isVisible hlast) (first :: t) []
  rw [List.cons_append] at hend
  have hleft : (symbols (first :: (t ++ [last]))).dropWhile (fun s => isBlank s.shown) =
      symbols (first :: (t ++ [last])) := by
    have hblank : isBlank (Symbol.char (Char.ofNat first.toNat)).shown = false :=
      isBlank_of_isVisible hfirst
    rw [symbols_cons_of_ascii (lt_of_isVisible hfirst), List.dropWhile_cons, if_neg (by simp [hblank])]
  have hright : (symbols (first :: (t ++ [last]))).reverse.dropWhile (fun s => isBlank s.shown) =
      (symbols (first :: (t ++ [last]))).reverse := by
    have hblank : isBlank (Symbol.char (Char.ofNat last.toNat)).shown = false :=
      isBlank_of_isVisible hlast
    rw [hend, List.reverse_append]
    exact List.dropWhile_cons_of_neg (by simp [hblank])
  simp only [trim, hleft, hright, List.reverse_reverse, bytes_symbols]

end Accord.Text
