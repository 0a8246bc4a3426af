/-
# White space and letter case

The white space at the ends of a text is dropped character by character, and a text is put into
lower case character by character. What comes out as a small ASCII letter is a letter in the first
place: neither white space nor a digit turns into one.

## Main results

* `Text.trim_between`, `Text.exists_trim_eq`: what is dropped at the ends;
* `Text.lower_ofChars`, `Text.exists_chars_of_lower`: lower case, character by character;
* `Text.isSeparator_of_toLower`: white space and digits do not turn into letters.
-/

import Accord.Proofs.Text.Cases

namespace Accord.Text

variable {b : UInt8} {t name : Text} {c : Char} {cs lead core tail : List Char}

/-! ### Characters of a text -/

theorem ofChars_append (cs ds : List Char) : ofChars (cs ++ ds) = ofChars cs ++ ofChars ds :=
  List.flatMap_append

theorem symbols_ofChars (cs : List Char) : symbols (ofChars cs) = cs.map .char := by
  induction cs with
  | nil => rfl
  | cons c cs ih =>
    have hcons : ofChars (c :: cs) = String.utf8EncodeChar c ++ ofChars cs := rfl
    rw [hcons, symbols_encode_append, ih, List.map_cons]

theorem chars_ofChars (cs : List Char) : chars (ofChars cs) = cs := by
  rw [chars, symbols_ofChars, List.map_map]
  exact List.map_id cs

theorem bytes_map_char (cs : List Char) :
    (cs.map Symbol.char).flatMap Symbol.bytes = ofChars cs := by
  rw [List.flatMap_map]
  rfl

/-- An ASCII text is the encoding of its bytes as characters. -/
theorem ofChars_of_ascii (h : ∀ b ∈ t, b < 0x80) :
    ofChars (t.map fun b => Char.ofNat b.toNat) = t := by
  induction t with
  | nil => rfl
  | cons b t ih =>
    obtain ⟨hb, ht⟩ := List.forall_mem_cons.mp h
    have hcons : ofChars ((b :: t).map fun b => Char.ofNat b.toNat) =
        String.utf8EncodeChar (Char.ofNat b.toNat) ++
          ofChars (t.map fun b => Char.ofNat b.toNat) := rfl
    rw [hcons, encode_of_ascii hb, ih ht]
    rfl

/-! ### White space at the ends -/

/-- All characters are white space. -/
def AllBlank (cs : List Char) : Prop := ∀ c ∈ cs, isBlank c = true

theorem AllBlank.append {ds : List Char} (hcs : AllBlank cs) (hds : AllBlank ds) :
    AllBlank (cs ++ ds) :=
  List.forall_mem_append.mpr ⟨hcs, hds⟩

/-- Characters are trimmed as a list. -/
theorem trim_ofChars (cs : List Char) :
    trim (ofChars cs) =
      ofChars (((cs.dropWhile isBlank).reverse.dropWhile isBlank).reverse) := by
  have hshown : (fun s : Symbol => isBlank s.shown) ∘ Symbol.char = isBlank := rfl
  unfold trim
  dsimp only
  rw [symbols_ofChars, List.dropWhile_map, hshown, ← List.map_reverse, List.dropWhile_map, hshown,
    ← List.map_reverse, bytes_map_char]

/-- White space is dropped up to the first and the last character that is none. -/
theorem trim_between (hlead : AllBlank lead) (htail : AllBlank tail)
    (hfirst : ∀ c ∈ core.head?, isBlank c = false)
    (hlast : ∀ c ∈ core.getLast?, isBlank c = false) :
    trim (ofChars (lead ++ (core ++ tail))) = ofChars core := by
  have keep {cs ds : List Char} (hne : cs ≠ []) (h : ∀ c ∈ cs.head?, isBlank c = false) :
      (cs ++ ds).dropWhile isBlank = cs ++ ds := by
    obtain ⟨c, rest, rfl⟩ := List.exists_cons_of_ne_nil hne
    exact List.dropWhile_cons_of_neg (by simp [h c rfl])
  rw [trim_ofChars, List.dropWhile_append_of_pos hlead]
  by_cases hcore : core = []
  · -- There is nothing but white space.
    have hnone : (tail ++ []).dropWhile isBlank = [] := List.dropWhile_append_of_pos htail
    rw [List.append_nil] at hnone
    rw [hcore, List.nil_append, hnone]
    rfl
  · have hreverse : AllBlank tail.reverse := fun c hc => htail c (List.mem_reverse.mp hc)
    have hend := @keep core.reverse [] (by simpa using hcore) (by simpa using hlast)
    rw [List.append_nil] at hend
    rw [keep hcore hfirst, List.reverse_append, List.dropWhile_append_of_pos hreverse, hend,
      List.reverse_reverse]

/-- What is shown for a stray byte is no white space and has no case. -/
theorem isBlank_replacement : isBlank (Char.ofNat 0xFFFD) = false ∧
    toLower (Char.ofNat 0xFFFD) = Char.ofNat 0xFFFD := by
  decide +kernel

/-- Symbols that are shown as white space are characters. -/
theorem exists_blank {ss : List Symbol} (h : ∀ s ∈ ss, isBlank s.shown = true) :
    ∃ cs, AllBlank cs ∧ ss.flatMap Symbol.bytes = ofChars cs := by
  induction ss with
  | nil => exact ⟨[], by simp [AllBlank], rfl⟩
  | cons s ss ih =>
    obtain ⟨hs, hss⟩ := List.forall_mem_cons.mp h
    obtain ⟨cs, hcs, hbytes⟩ := ih hss
    cases s with
    | stray b => exact absurd hs (by simp [Symbol.shown, isBlank_replacement.1])
    | char c =>
      refine ⟨c :: cs, List.forall_mem_cons.mpr ⟨hs, hcs⟩, ?_⟩
      rw [List.flatMap_cons, hbytes]
      rfl

/-- Trimming drops white space only. -/
theorem exists_trim_eq (t : Text) :
    ∃ lead tail, AllBlank lead ∧ AllBlank tail ∧ t = ofChars lead ++ (t.trim ++ ofChars tail) := by
  have hbefore := List.takeWhile_append_dropWhile (p := fun s => isBlank s.shown) (l := t.symbols)
  have hbehind := List.takeWhile_append_dropWhile (p := fun s => isBlank s.shown)
    (l := (t.symbols.dropWhile fun s => isBlank s.shown).reverse)
  obtain ⟨lead, hlead, hleadBytes⟩ :=
    exists_blank (List.all_eq_true.mp (List.all_takeWhile (l := t.symbols)))
  obtain ⟨tail, htail, htailBytes⟩ := exists_blank fun s hs =>
    List.all_eq_true.mp (List.all_takeWhile
      (l := (t.symbols.dropWhile fun s => isBlank s.shown).reverse)) s (List.mem_reverse.mp hs)
  refine ⟨lead, tail, hlead, htail, ?_⟩
  have hinner := congrArg List.reverse hbehind
  rw [List.reverse_append, List.reverse_reverse] at hinner
  calc t = t.symbols.flatMap Symbol.bytes := (bytes_symbols t).symm
    _ = ofChars lead ++ (t.trim ++ ofChars tail) := by
      rw [← hbefore, List.flatMap_append, hleadBytes, ← hinner, List.flatMap_append, htailBytes]
      rfl

/-! ### Lower case -/

/-- Only the first stretch of the table is about ASCII characters. -/
theorem toLower_of_ascii (h : c.toNat < 0x80) : toLower c = mapCase (lowerRuns.take 1) c := by
  have hrest : ((lowerRuns.drop 1).all fun run => 0x80 ≤ run.1) = true := by decide +kernel
  have hnone (p : Nat × Nat × Nat × Int → Bool) (hp : ∀ run, p run = true → run.1 ≤ c.toNat) :
      (lowerRuns.drop 1).find? p = none := by
    refine List.find?_eq_none.mpr fun run hrun hfound => ?_
    have hfirst := of_decide_eq_true (List.all_eq_true.mp hrest run hrun)
    have hcode := hp run hfound
    omega
  unfold toLower mapCase
  dsimp only
  nth_rewrite 1 [← List.take_append_drop 1 lowerRuns]
  rw [List.find?_append, hnone, Option.or_none]
  rintro ⟨first, last, step, offset⟩ hfound
  simp only [Bool.and_eq_true, decide_eq_true_eq] at hfound
  exact hfound.1.1

theorem encode_toLower_of_ascii (b : UInt8) (h : b < 0x80) :
    String.utf8EncodeChar (toLower (Char.ofNat b.toNat)) = [lowerByte b] := by
  have table : ∀ b : UInt8, b < 0x80 → (Char.ofNat b.toNat).toNat < 0x80 ∧
      String.utf8EncodeChar (mapCase (lowerRuns.take 1) (Char.ofNat b.toNat)) = [lowerByte b] :=
    forall_byte (by decide +kernel)
  obtain ⟨hascii, hlower⟩ := table b h
  rw [toLower_of_ascii hascii, hlower]

/-- A text is put into lower case character by character. -/
theorem lower_ofChars (cs : List Char) : lower (ofChars cs) = ofChars (cs.map toLower) := by
  unfold lower
  split
  · -- A text of ASCII characters is treated byte by byte.
    next hascii =>
    induction cs with
    | nil => rfl
    | cons c cs ih =>
      have hcons : ofChars (c :: cs) = String.utf8EncodeChar c ++ ofChars cs := rfl
      rw [hcons, List.all_append, Bool.and_eq_true] at hascii
      obtain ⟨b, rest, hbytes⟩ :=
        List.exists_cons_of_ne_nil (String.utf8EncodeChar_ne_nil (c := c))
      have hb : b < 0x80 := by
        have hfirst := List.all_eq_true.mp hascii.1 b (by simp [hbytes])
        simpa using hfirst
      obtain rfl := eq_of_ascii_mem_encode hb (c := c) (by simp [hbytes])
      have hmap : ofChars ((Char.ofNat b.toNat :: cs).map toLower) =
          String.utf8EncodeChar (toLower (Char.ofNat b.toNat)) ++ ofChars (cs.map toLower) := rfl
      rw [hcons, encode_of_ascii hb, hmap, encode_toLower_of_ascii b hb, List.map_append,
        ih hascii.2]
      rfl
  · rw [chars_ofChars]

theorem chars_lower (t : Text) : chars (lower t) = t.chars.map toLower := by
  by_cases hascii : t.all (· < 0x80) = true
  · have hbytes : ∀ b ∈ t, b < 0x80 := fun b hb => by simpa using List.all_eq_true.mp hascii b hb
    rw [← ofChars_of_ascii hbytes, lower_ofChars, chars_ofChars, chars_ofChars]
  · rw [lower, if_neg hascii, chars_ofChars]

/-- A text with an ASCII lower case is well formed. -/
theorem exists_chars_of_lower (h : lower t = name) (hname : ∀ b ∈ name, b < 0x80) :
    ∃ cs, t = ofChars cs ∧ ofChars (cs.map toLower) = name := by
  suffices hchars : ∃ cs, t = ofChars cs by
    obtain ⟨cs, rfl⟩ := hchars
    exact ⟨cs, rfl, lower_ofChars cs ▸ h⟩
  unfold lower at h
  split at h
  · next hascii =>
    refine ⟨t.map fun b => Char.ofNat b.toNat, (ofChars_of_ascii fun b hb => ?_).symm⟩
    simpa using List.all_eq_true.mp hascii b hb
  · -- A stray byte would be shown as a character that is not ASCII.
    have hutf8 : t.isUtf8 = true := by
      refine List.all_eq_true.mpr fun s hs => ?_
      cases s with
      | char c => rfl
      | stray b =>
        have hshown : Char.ofNat 0xFFFD ∈ t.chars := List.mem_map.mpr ⟨.stray b, hs, rfl⟩
        have hbyte : (0xEF : UInt8) ∈ String.utf8EncodeChar (toLower (Char.ofNat 0xFFFD)) := by
          rw [isBlank_replacement.2]
          decide
        have hmem : (0xEF : UInt8) ∈ name := by
          rw [← h]
          exact List.mem_flatMap.mpr ⟨_, List.mem_map.mpr ⟨_, hshown, rfl⟩, hbyte⟩
        exact absurd (hname _ hmem) (by decide)
    obtain ⟨cs, -, hcs⟩ := exists_chars hutf8
    exact ⟨cs, hcs⟩

/-- A character that no letter comes from: white space, a digit or a point. -/
def isSeparator (c : Char) : Bool := isBlank c || c = '.' || (48 ≤ c.toNat && c.toNat ≤ 57)

/-- Capital letters, signs and small ASCII letters separate nothing. -/
theorem isSeparator_of_lt (h : c.toNat < 134) (hseparator : isSeparator c = true) :
    isCapital (category c) = false ∧ isSign (category c) = false ∧
      isLowerByte (UInt8.ofNat c.toNat) = false := by
  have table : ∀ code : Fin 134, isSeparator (Char.ofNat code) = true →
      isCapital (category (Char.ofNat code)) = false ∧ isSign (category (Char.ofNat code)) = false ∧
        isLowerByte (UInt8.ofNat code) = false := by
    decide +kernel
  have hrow := table ⟨c.toNat, h⟩
  rw [Char.ofNat_toNat] at hrow
  exact hrow hseparator

/-- Above the ASCII characters only the category makes a character white space. -/
theorem isSeparator_of_le (h : 134 ≤ c.toNat) (hseparator : isSeparator c = true) :
    isCapital (category c) = false ∧ isSign (category c) = false := by
  have hpoint : c ≠ '.' := by
    rintro rfl
    exact absurd h (by decide)
  simp only [isSeparator, isBlank, hpoint, decide_false, Bool.or_eq_true, Bool.and_eq_true,
    decide_eq_true_eq, Bool.false_eq_true, or_false] at hseparator
  rcases hseparator with ((hcode | hcode) | hcategory) | hcode
  · omega
  · omega
  · revert hcategory
    cases category c <;> decide
  · omega

/-- What becomes a small ASCII letter is neither white space nor part of a number. -/
theorem isSeparator_of_toLower (hb : isLowerByte b = true) (h : toLower c = Char.ofNat b.toNat) :
    isSeparator c = false := by
  rw [Bool.eq_false_iff]
  intro hseparator
  rcases mapCase_cases agrees_lowerRuns.raised c with ⟨hsame, -⟩ | ⟨run, hrun, hsource, -⟩
  · -- A character that stays as it is is the letter itself.
    obtain rfl : c = Char.ofNat b.toNat := hsame.symm.trans h
    have hbyte : b.toNat ≤ 122 := by
      simp only [isLowerByte, Bool.and_eq_true, decide_eq_true_eq] at hb
      exact UInt8.le_iff_toNat_le.mp hb.2
    have hcode : (Char.ofNat b.toNat).toNat = b.toNat := toNat_ofNat_of_valid (.inl (by omega))
    have hlower := (isSeparator_of_lt (by omega) hseparator).2.2
    rw [hcode, UInt8.ofNat_toNat, hb] at hlower
    cases hlower
  · have hkind := agrees_lowerRuns.source run hrun _ hsource
    have hnone : isCapital (category c) = false ∧ isSign (category c) = false := by
      by_cases hcode : c.toNat < 134
      · obtain ⟨hcapital, hsign, -⟩ := isSeparator_of_lt hcode hseparator
        exact ⟨hcapital, hsign⟩
      · exact isSeparator_of_le (by omega) hseparator
    rw [← category, kind] at hkind
    split at hkind
    · rw [hnone.2] at hkind
      cases hkind
    · rw [hnone.1] at hkind
      cases hkind

end Accord.Text
