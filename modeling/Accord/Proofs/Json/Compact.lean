/-
# Compact texts

A JSON text that is made compact denotes the value that it denoted before: the white space between
its tokens is dropped, and inside its string literals an unsafe character is escaped by number.
Since tokens begin and end with ASCII bytes, a text is made compact part by part. What the writer
puts together is compact already.

## Main definitions

* `Json.bare`: what a value says, whatever text it was read from;
* `Json.Compacts`: the compact form of a part of a text.

## Main results

* `Json.Denotes.exists_compact`, `Json.exists_compact_of_read`: the compact form of a text denotes
  the same value;
* `Json.compacts_quote`, `Json.compacts_arrayOf`, `Json.compacts_objectOf`: what is written is
  compact.
-/

import Accord.Proofs.Json.Escapes
import Accord.Proofs.Json.Grammar

namespace Accord.Json

variable {b : UInt8} {t t' u u' body gap source : Text} {c : Char} {j : Json}

/-! ### Values without their spelling -/

mutual

/-- What a value says, whatever text it was read from. Numbers keep their digits. -/
def bare : Json → Json
  | null => null
  | bool b => bool b
  | number literal => number literal
  | string _ value => string [] value
  | array _ items => array [] (bareItems items)
  | object _ members => object [] (bareMembers members)

/-- What the elements of an array say. -/
def bareItems : List Json → List Json
  | [] => []
  | j :: rest => j.bare :: bareItems rest

/-- What the members of an object say. -/
def bareMembers : List (Text × Json) → List (Text × Json)
  | [] => []
  | (k, j) :: rest => (k, j.bare) :: bareMembers rest

end

/-! ### Between tokens -/

/-- A part of a JSON text takes its compact form wherever it stands. -/
def Compacts (t t' : Text) : Prop :=
  ∀ rest : Text, compactFrom .outside (t ++ rest).symbols =
    t' ++ compactFrom .outside rest.symbols

theorem compacts_nil : Compacts [] [] := fun _ => rfl

theorem Compacts.append (h : Compacts t t') (hu : Compacts u u') :
    Compacts (t ++ u) (t' ++ u') := by
  intro rest
  rw [List.append_assoc, h, hu, List.append_assoc]

/-- Between tokens an ASCII byte that opens no literal is kept unless it is white space. -/
theorem compactStep_outside : ∀ b : UInt8, b < 0x80 → b ≠ Text.byte '"' →
    compactStep .outside (.char (Char.ofNat b.toNat)) =
      (.outside, if isSpace b then [] else [b]) :=
  Text.forall_byte (by decide +kernel)

/-- A byte of a token that is no string literal. -/
def isTokenByte (b : UInt8) : Bool := b < 0x80 && b != Text.byte '"' && !isSpace b

theorem compacts_byte (h : isTokenByte b = true) : Compacts [b] [b] := by
  intro rest
  simp only [isTokenByte, Bool.and_eq_true, decide_eq_true_eq, bne_iff_ne, Bool.not_eq_true'] at h
  obtain ⟨⟨hascii, hquote⟩, hspace⟩ := h
  rw [List.singleton_append, Text.symbols_cons_of_ascii hascii, compactFrom,
    compactStep_outside b hascii hquote, hspace]
  rfl

theorem compacts_token (h : ∀ b ∈ t, isTokenByte b = true) : Compacts t t := by
  induction t with
  | nil => exact compacts_nil
  | cons b t ih =>
    obtain ⟨hb, ht⟩ := List.forall_mem_cons.mp h
    exact (compacts_byte hb).append (ih ht)

theorem compacts_gap (h : gap.all isSpace = true) : Compacts gap [] := by
  induction gap with
  | nil => exact compacts_nil
  | cons b gap ih =>
    rw [List.all_cons, Bool.and_eq_true] at h
    obtain ⟨hb, hgap⟩ := h
    have hascii := lt_of_isSpace hb
    have hquote : b ≠ Text.byte '"' := by
      rintro rfl
      exact absurd hb (by decide)
    intro rest
    rw [List.cons_append, Text.symbols_cons_of_ascii hascii, compactFrom,
      compactStep_outside b hascii hquote, hb]
    exact ih hgap rest

theorem isTokenByte_of_isNumberByte (h : isNumberByte b = true) : isTokenByte b = true := by
  have table : ∀ b, isNumberByte b = true → isTokenByte b = true :=
    Text.forall_byte (by decide +kernel)
  exact table b h

/-! ### Inside a literal -/

theorem Inside.of_cons (h : Inside (b :: t)) (hb : b ≠ Text.byte '\\') :
    isPlainByte b = true ∧ Inside t := by
  cases h with
  | plain hplain h => exact ⟨hplain, h⟩
  | escape e h => exact absurd rfl hb

theorem Inside.of_backslash (h : Inside (Text.byte '\\' :: t)) :
    ∃ e rest, t = e :: rest ∧ Inside rest := by
  cases h with
  | plain hplain h => exact absurd hplain (by decide)
  | escape e h => exact ⟨e, _, rfl, h⟩

/-- Bytes among which no escape begins stand for themselves. -/
theorem Inside.of_append {w : Text} (h : Inside (w ++ t)) (hw : ∀ b ∈ w, b ≠ Text.byte '\\') :
    (∀ b ∈ w, isPlainByte b = true) ∧ Inside t := by
  induction w with
  | nil => exact ⟨by simp, h⟩
  | cons b w ih =>
    obtain ⟨hb, hw⟩ := List.forall_mem_cons.mp hw
    obtain ⟨hplain, hrest⟩ := h.of_cons hb
    obtain ⟨hbytes, ht⟩ := ih hrest hw
    exact ⟨List.forall_mem_cons.mpr ⟨hplain, hbytes⟩, ht⟩

theorem Rewritten.plain_append {w : Text} (hw : ∀ b ∈ w, isPlainByte b = true)
    (h : Rewritten t t') : Rewritten (w ++ t) (w ++ t') := by
  induction w with
  | nil => exact h
  | cons b w ih =>
    obtain ⟨hb, hw⟩ := List.forall_mem_cons.mp hw
    exact .plain hb (ih hw)

/-- What is rewritten can still stand between quotes. -/
theorem Rewritten.inside (h : Rewritten t t') : Inside t' := by
  induction h with
  | nil => exact .nil
  | plain hb _ ih => exact .plain hb ih
  | escape e _ ih => exact .escape e ih
  | numbered hc _ ih =>
    obtain ⟨h₁, h₂, h₃, h₄, hquote, hn, -⟩ := quoteChar_of_isWebUnsafe hc
    obtain ⟨hp₁, hp₂, hp₃, hp₄⟩ := isPlainByte_of_hex4? hn
    rw [hquote]
    exact .escape _ (.plain hp₁ (.plain hp₂ (.plain hp₃ (.plain hp₄ ih))))

theorem ne_backslash_of_le (h : 0x80 ≤ b) : b ≠ Text.byte '\\' := by
  rintro rfl
  exact absurd h (by decide)

/-- A symbol that begins no escape is rewritten alone. -/
theorem compactStep_inString {s : Symbol} {rest : Text} (h : Inside (s.bytes ++ rest))
    (hstray : ∀ b, s = .stray b → 0x80 ≤ b) (hslash : s ≠ .char '\\') :
    Inside rest ∧ ∃ out, compactStep .inString s = (.inString, out) ∧
      ∀ {t t' : Text}, Rewritten t t' → Rewritten (s.bytes ++ t) (out ++ t') := by
  cases s with
  | stray b =>
    obtain ⟨hplain, hrest⟩ := h.of_cons (ne_backslash_of_le (hstray b rfl))
    exact ⟨hrest, [b], rfl, .plain hplain⟩
  | char c =>
    have hbytes : ∀ b ∈ String.utf8EncodeChar c, b ≠ Text.byte '\\' := by
      rintro b hb rfl
      exact hslash (congrArg Symbol.char (Text.eq_of_ascii_mem_encode (by decide) hb))
    obtain ⟨hplain, hrest⟩ := h.of_append hbytes
    have hquote : c ≠ '"' := by
      rintro rfl
      exact absurd (hplain (Text.byte '"') (by decide)) (by decide)
    have hbackslash : c ≠ '\\' := fun hc => hslash (congrArg Symbol.char hc)
    refine ⟨hrest, ?_⟩
    by_cases hunsafe : isWebUnsafe c = true
    · have hout : quoteChar c = Text.ofString "\\u" ++ Text.hex 4 c.toNat := by
        rcases isWebUnsafe_cases hunsafe with rfl | rfl | rfl | rfl | rfl <;> rfl
      refine ⟨quoteChar c, ?_, .numbered hunsafe⟩
      rw [compactStep, if_neg hquote, if_neg hbackslash, if_pos hunsafe, hout]
    · refine ⟨String.utf8EncodeChar c, ?_, .plain_append hplain⟩
      rw [compactStep, if_neg hquote, if_neg hbackslash, if_neg hunsafe]
      rfl

/-- The inside of a literal is rewritten up to its closing quote. -/
theorem Inside.compactFrom_append (h : Inside body) (ss : List Symbol) :
    compactFrom .inString (body.symbols ++ .char '"' :: ss) =
        compactFrom .inString body.symbols ++ Text.byte '"' :: compactFrom .outside ss ∧
      Rewritten body (compactFrom .inString body.symbols) := by
  -- On the length, symbol by symbol; the symbol behind a backslash is passed over with it.
  induction hlength : body.length using Nat.strongRecOn generalizing body with
  | ind n ih =>
    subst hlength
    cases hsymbols : body.symbols with
    | nil =>
      obtain rfl := Text.symbols_eq_nil hsymbols
      exact ⟨rfl, .nil⟩
    | cons s more =>
      obtain ⟨rest, rfl, rfl, hstray⟩ := Text.symbols_eq_cons hsymbols
      have hshorter := Text.length_lt_bytes_append s rest
      by_cases hslash : s = .char '\\'
      · subst hslash
        obtain ⟨e, tail, rfl, htail⟩ := h.of_backslash
        cases hnext : Text.symbols (e :: tail) with
        | nil => cases Text.symbols_eq_nil hnext
        | cons s' more =>
          obtain ⟨rest, hrest, rfl, -⟩ := Text.symbols_eq_cons hnext
          have hslash : compactStep .inString (.char '\\') =
              (.afterBackslash, [Text.byte '\\']) := by decide
          have hstep : compactStep .afterBackslash s' = (.inString, s'.bytes) := by
            cases s' <;> rfl
          -- What follows the escaped byte in its symbol is not ASCII.
          obtain ⟨first, bytes, hbytes⟩ : ∃ first bytes, s'.bytes = first :: bytes := by
            refine List.exists_cons_of_ne_nil fun hnil => ?_
            have := Text.length_lt_bytes_append s' []
            simp [hnil] at this
          rw [hbytes, List.cons_append] at hrest
          obtain ⟨rfl, rfl⟩ := List.cons.inj hrest
          obtain ⟨hplain, hinside⟩ := htail.of_append fun b hb =>
            ne_backslash_of_le (Text.le_of_mem_tail hbytes hb)
          obtain ⟨hclose, hbody⟩ := ih rest.length (by
            simp only [List.length_append, List.length_cons] at hshorter ⊢
            omega) hinside rfl
          simp only [List.cons_append, compactFrom, hslash, hstep, hclose, hbytes,
            List.append_assoc, true_and]
          exact .escape e (.plain_append hplain hbody)
      · obtain ⟨hrest, out, hstep, hrewritten⟩ := compactStep_inString h hstray hslash
        obtain ⟨hclose, hbody⟩ := ih rest.length hshorter hrest rfl
        rw [List.cons_append, compactFrom, compactFrom, hstep]
        dsimp only
        rw [hclose, List.append_assoc]
        exact ⟨rfl, hrewritten hbody⟩

/-- A literal between tokens. -/
theorem Inside.compacts (h : Inside body) :
    Compacts (Text.byte '"' :: (body ++ [Text.byte '"']))
      (Text.byte '"' :: (compactFrom .inString body.symbols ++ [Text.byte '"'])) := by
  intro rest
  obtain ⟨hclose, -⟩ := h.compactFrom_append rest.symbols
  rw [List.cons_append, List.append_assoc, List.singleton_append,
    Text.symbols_cons_of_ascii (by decide), Text.symbols_append_ascii (by decide), compactFrom]
  have hopen : compactStep .outside (.char (Char.ofNat (Text.byte '"').toNat)) =
      (.inString, [Text.byte '"']) := by decide
  have hquote : Char.ofNat (Text.byte '"').toNat = '"' := by decide
  rw [hopen, hquote]
  dsimp only
  rw [hclose]
  simp

/-- The compact form of a literal denotes the same text. -/
theorem Literal.exists_compacts {value : Text} (h : Literal source value) :
    ∃ source', Compacts source source' ∧ Literal source' value := by
  obtain ⟨body, rfl, hinside, hvalue⟩ := h
  obtain ⟨-, hrewritten⟩ := hinside.compactFrom_append []
  exact ⟨_, hinside.compacts, _, rfl, hrewritten.inside, hrewritten.unescape_eq hvalue⟩

/-! ### Values -/

/-- The compact form of a part of a text denotes what the part denotes. -/
def Kept (t : Text) : Phrase → Prop
  | .value j => ∃ t' j', Compacts t t' ∧ Denotes t' (.value j') ∧ j'.bare = j.bare
  | .items items => ∃ t' items', Compacts t t' ∧ Denotes t' (.items items') ∧
      bareItems items' = bareItems items
  | .member key j => ∃ t' j', Compacts t t' ∧ Denotes t' (.member key j') ∧ j'.bare = j.bare
  | .members ms => ∃ t' ms', Compacts t t' ∧ Denotes t' (.members ms') ∧
      bareMembers ms' = bareMembers ms

theorem Denotes.kept {p : Phrase} (h : Denotes t p) : Kept t p := by
  have hnone : List.all ([] : Text) isSpace = true := rfl
  induction h with
  | nullWord => exact ⟨_, _, compacts_token (List.all_eq_true.mp rfl), .nullWord, rfl⟩
  | trueWord => exact ⟨_, _, compacts_token (List.all_eq_true.mp rfl), .trueWord, rfl⟩
  | falseWord => exact ⟨_, _, compacts_token (List.all_eq_true.mp rfl), .falseWord, rfl⟩
  | number hfirst hbytes hread =>
    exact ⟨_, _, compacts_token fun b hb => isTokenByte_of_isNumberByte (hbytes b hb),
      .number hfirst hbytes hread, rfl⟩
  | string h =>
    obtain ⟨source', hcompact, hliteral⟩ := h.exists_compacts
    exact ⟨source', _, hcompact, .string hliteral, rfl⟩
  | emptyArray hgap =>
    exact ⟨_, _, (compacts_byte (by decide)).append
      ((compacts_gap hgap).append (compacts_byte (by decide))), .emptyArray hnone, rfl⟩
  | array hgap _ ih =>
    obtain ⟨t', items', hcompact, hitems, hbare⟩ := ih
    refine ⟨_, _, (compacts_byte (by decide)).append ((compacts_gap hgap).append hcompact),
      .array hnone hitems, ?_⟩
    rw [bare, bare, hbare]
  | emptyObject hgap =>
    exact ⟨_, _, (compacts_byte (by decide)).append
      ((compacts_gap hgap).append (compacts_byte (by decide))), .emptyObject hnone, rfl⟩
  | object hgap _ ih =>
    obtain ⟨t', ms', hcompact, hms, hbare⟩ := ih
    refine ⟨_, _, (compacts_byte (by decide)).append ((compacts_gap hgap).append hcompact),
      .object hnone hms, ?_⟩
    rw [bare, bare, hbare]
  | lastItem _ hgap ih =>
    obtain ⟨t', j', hcompact, hj, hbare⟩ := ih
    refine ⟨_, _, hcompact.append ((compacts_gap hgap).append (compacts_byte (by decide))),
      .lastItem hj hnone, ?_⟩
    simp only [bareItems, hbare]
  | item _ hgap hgap' _ ih ihmore =>
    obtain ⟨t', j', hcompact, hj, hbare⟩ := ih
    obtain ⟨u', items', hmore, hitems, hbares⟩ := ihmore
    refine ⟨_, _, hcompact.append ((compacts_gap hgap).append ((compacts_byte (by decide)).append
      ((compacts_gap hgap').append hmore))), .item hj hnone hnone hitems, ?_⟩
    rw [bareItems, bareItems, hbare, hbares]
  | member hkey h₁ h₂ _ h₃ ih =>
    obtain ⟨source', hcompactKey, hliteral⟩ := hkey.exists_compacts
    obtain ⟨t', j', hcompact, hj, hbare⟩ := ih
    have hmember := Denotes.member hliteral hnone hnone hj hnone
    exact ⟨_, _, hcompactKey.append ((compacts_gap h₁).append ((compacts_byte (by decide)).append
      ((compacts_gap h₂).append (hcompact.append (compacts_gap h₃))))),
      hmember, hbare⟩
  | lastMember _ ih =>
    obtain ⟨t', j', hcompact, hj, hbare⟩ := ih
    refine ⟨_, _, hcompact.append (compacts_byte (by decide)), .lastMember hj, ?_⟩
    simp only [bareMembers, hbare]
  | moreMembers _ hgap _ ih ihmore =>
    obtain ⟨t', j', hcompact, hj, hbare⟩ := ih
    obtain ⟨u', ms', hmore, hms, hbares⟩ := ihmore
    refine ⟨_, _, hcompact.append ((compacts_byte (by decide)).append
      ((compacts_gap hgap).append hmore)), .moreMembers hj hnone hms, ?_⟩
    rw [bareMembers, bareMembers, hbare, hbares]

/-- A byte inside a literal that stays as it is. -/
theorem compactFrom_cons (hb : b < 0x80)
    (h : compactStep .inString (.char (Char.ofNat b.toNat)) = (.inString, [b])) (rest : Text) :
    compactFrom .inString (Text.symbols (b :: rest)) =
      b :: compactFrom .inString rest.symbols := by
  rw [Text.symbols_cons_of_ascii hb, compactFrom, h]
  rfl

/-- An escape stays as it is. -/
theorem compactFrom_escape (e : UInt8) (he : e < 0x80) (rest : Text) :
    compactFrom .inString (Text.symbols (Text.byte '\\' :: e :: rest)) =
      Text.byte '\\' :: e :: compactFrom .inString rest.symbols := by
  have hslash : compactStep .inString (.char (Char.ofNat (Text.byte '\\').toNat)) =
      (.afterBackslash, [Text.byte '\\']) := by decide
  have hstep : compactStep .afterBackslash (.char (Char.ofNat e.toNat)) = (.inString, [e]) :=
    congrArg (Prod.mk Place.inString) (Text.encode_of_ascii he)
  rw [Text.symbols_cons_of_ascii (by decide), Text.symbols_cons_of_ascii he, compactFrom, hslash]
  dsimp only
  rw [compactFrom, hstep]
  rfl

theorem compactFrom_hexDigit (h : (Text.hexValue? b).isSome = true) (rest : Text) :
    compactFrom .inString (Text.symbols (b :: rest)) =
      b :: compactFrom .inString rest.symbols := by
  have table : ∀ b, (Text.hexValue? b).isSome = true →
      compactStep .inString (.char (Char.ofNat b.toNat)) = (.inString, [b]) :=
    Text.forall_byte (by decide +kernel)
  exact compactFrom_cons (lt_of_hexValue? h) (table b h) rest

/-- An escape by number stays as it is. -/
theorem compactFrom_numbered {h₁ h₂ h₃ h₄ : UInt8} {n : Nat} (hn : hex4? h₁ h₂ h₃ h₄ = some n)
    (rest : Text) :
    compactFrom .inString
        (Text.symbols (Text.byte '\\' :: Text.byte 'u' :: h₁ :: h₂ :: h₃ :: h₄ :: rest)) =
      Text.byte '\\' :: Text.byte 'u' :: h₁ :: h₂ :: h₃ :: h₄ ::
        compactFrom .inString rest.symbols := by
  obtain ⟨hd₁, hd₂, hd₃, hd₄⟩ := isSome_of_hex4? hn
  rw [compactFrom_escape _ (by decide), compactFrom_hexDigit hd₁, compactFrom_hexDigit hd₂,
    compactFrom_hexDigit hd₃, compactFrom_hexDigit hd₄]

/-- A character that was written into a literal stays as it is. -/
theorem compactFrom_quoteChar (c : Char) (rest : Text) :
    compactFrom .inString (Text.symbols (quoteChar c ++ rest)) =
      quoteChar c ++ compactFrom .inString rest.symbols := by
  unfold quoteChar
  split
  · exact compactFrom_escape (Text.byte '"') (by decide) rest
  · exact compactFrom_escape (Text.byte '\\') (by decide) rest
  · exact compactFrom_escape (Text.byte 'n') (by decide) rest
  · exact compactFrom_escape (Text.byte 'r') (by decide) rest
  · exact compactFrom_escape (Text.byte 't') (by decide) rest
  · next hquote hslash _ _ _ =>
    split
    · next hnumbered =>
      obtain ⟨h₁, h₂, h₃, h₄, hhex, hvalue, -⟩ := hex_of_isNumbered hnumbered
      rw [hhex]
      exact compactFrom_numbered hvalue rest
    · next hsafe =>
      have hunsafe : ¬ isWebUnsafe c = true := fun h => hsafe (by simp [h])
      rw [Text.symbols_encode_append, compactFrom, compactStep, if_neg hquote, if_neg hslash,
        if_neg hunsafe]
      rfl

theorem compactFrom_quoteSymbol (s : Symbol) (rest : Text) :
    compactFrom .inString (Text.symbols (quoteSymbol s ++ rest)) =
      quoteSymbol s ++ compactFrom .inString rest.symbols := by
  cases s with
  | char c => exact compactFrom_quoteChar c rest
  | stray b =>
    have hn : hex4? (Text.byte 'f') (Text.byte 'f') (Text.byte 'f') (Text.byte 'd') =
        some 0xFFFD := by decide
    exact compactFrom_numbered hn rest

theorem compacts_quote (t : Text) : Compacts (quote t) (quote t) := by
  have hbody : compactFrom .inString (literalBody t).symbols = literalBody t := by
    unfold literalBody
    induction t.symbols with
    | nil => rfl
    | cons s symbols ih => rw [List.flatMap_cons, compactFrom_quoteSymbol, ih]
  obtain ⟨-, hinside⟩ := inside_of_stringBody (stringBody_literalBody t [])
  have hliteral := hinside.compacts
  rwa [hbody] at hliteral

/-- Parts of an array or an object, one after the other. -/
theorem compacts_listed {parts : List Text} (h : ∀ part ∈ parts, Compacts part part) :
    Compacts (listed parts) (listed parts) := by
  induction parts with
  | nil => exact compacts_nil
  | cons part parts ih =>
    obtain ⟨hpart, hparts⟩ := List.forall_mem_cons.mp h
    by_cases hempty : parts = []
    · subst hempty
      exact hpart
    · rw [listed_cons hempty]
      exact hpart.append ((compacts_byte (by decide)).append (ih hparts))

theorem compacts_arrayOf {items : List Text} (h : ∀ t ∈ items, Compacts t t) :
    Compacts (arrayOf items) (arrayOf items) := by
  rw [arrayOf_eq]
  exact (compacts_byte (by decide)).append
    ((compacts_listed h).append (compacts_byte (by decide)))

theorem compacts_objectOf {ms : List (Text × Text)} (h : ∀ m ∈ ms, Compacts m.2 m.2) :
    Compacts (objectOf ms) (objectOf ms) := by
  have hmembers : ∀ part ∈ ms.map memberText, Compacts part part := by
    intro part hpart
    obtain ⟨m, hm, rfl⟩ := List.mem_map.mp hpart
    exact (compacts_quote m.1).append ((compacts_byte (by decide)).append (h m hm))
  rw [objectOf_eq]
  exact (compacts_byte (by decide)).append
    ((compacts_listed hmembers).append (compacts_byte (by decide)))

end Accord.Json
