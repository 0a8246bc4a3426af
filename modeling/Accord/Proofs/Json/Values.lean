/-
# Written values

What the writer puts together is read back part by part. A text that is read as a value stays one
wherever it stands, as long as nothing follows that could go on with a number: it can therefore be
an element of an array or a member of an object, and arrays and objects of such texts are such
texts again, with any white space between their tokens.

## Main definitions

* `Json.Reads`: a text is read as a value wherever it stands;
* `Json.Literal`: a string literal and the text it denotes;
* `Json.Phrase`, `Json.Parsed`: the parts of a JSON text and how the reader takes them.

## Main results

* `Json.Literal.reads`, `Json.reads_number`, `Json.reads_null`: literals;
* `Json.reads_array`, `Json.reads_object`: arrays and objects of any layout;
* `Json.reads_arrayOf`, `Json.reads_objectOf`: those that the writer makes;
* `Json.read_append`: a text that is read as a value and the white space after it.
-/

import Accord.Proofs.Json.Strings
import Accord.Proofs.Text.Pieces
import Mathlib.Data.List.Forall2

namespace Accord.Json

variable {b : UInt8} {t u body source key rest blank literal gap gap' : Text} {j : Json}
  {fuel : Nat} {items : List Json} {ms : List (Text × Json)}

/-! ### Texts that are read as values -/

/-- Nothing follows that could go on with a number. -/
def Ends (rest : Text) : Prop := ∀ b ∈ rest.head?, isNumberByte b = false

/-- A byte that is neither white space nor the end of an array or an object. -/
def startsValue (b : UInt8) : Bool :=
  !isSpace b && b != Text.byte ']' && b != Text.byte '\x7d'

/-- A text is read as a value wherever it stands. -/
structure Reads (t : Text) (j : Json) : Prop where
  first : ∃ b rest, t = b :: rest ∧ startsValue b = true
  source : j.source = t
  value_eq : ∀ fuel rest, t.length < fuel → Ends rest → value fuel (t ++ rest) = some (j, t, rest)

theorem ends_nil : Ends [] := by
  intro b hb
  cases hb

theorem ends_cons (h : isNumberByte b = false) (rest : Text) : Ends (b :: rest) := by
  intro c hc
  obtain rfl := Option.some.inj hc
  exact h

theorem isNumberByte_of_isSpace (h : isSpace b = true) : isNumberByte b = false := by
  simp only [isSpace, Bool.or_eq_true, decide_eq_true_eq] at h
  rcases h with ((rfl | rfl) | rfl) | rfl <;> decide

theorem ends_of_blank (h : blank.all isSpace = true) : Ends blank := by
  cases blank with
  | nil => exact ends_nil
  | cons b rest => exact ends_cons (isNumberByte_of_isSpace (List.all_eq_true.mp h b (by simp))) rest

theorem spaces_cons (h : isSpace b = false) (rest : Text) :
    spaces (b :: rest) = ([], b :: rest) := by
  simp [spaces, h]

theorem isSpace_of_startsValue (h : startsValue b = true) : isSpace b = false := by
  simp only [startsValue, Bool.and_eq_true, Bool.not_eq_true'] at h
  exact h.1.1

/-- No white space stands before a value. -/
theorem Reads.spaces_append (h : Reads t j) (rest : Text) :
    spaces (t ++ rest) = ([], t ++ rest) := by
  obtain ⟨b, tail, rfl, hb⟩ := h.first
  exact spaces_cons (isSpace_of_startsValue hb) (tail ++ rest)

/-- A text that holds a value and white space after it. -/
theorem read_append (h : Reads t j) (hblank : blank.all isSpace = true) :
    read (t ++ blank) = .ok j := by
  have hfuel : t.length < (t ++ blank).length + 1 := by
    rw [List.length_append]
    omega
  have hvalue := h.value_eq _ blank hfuel (ends_of_blank hblank)
  simp only [read, readFirst, h.spaces_append, hvalue]
  exact if_pos hblank

theorem read_of_reads (h : Reads t j) : read t = .ok j := by
  have hread : read (t ++ []) = .ok j := read_append h rfl
  rwa [List.append_nil] at hread

/-! ### String literals -/

/-- What can stand between the quotes of a string literal. -/
inductive Inside : Text → Prop
  | nil : Inside []
  | plain {b : UInt8} {t : Text} (h : isPlainByte b = true) (ht : Inside t) : Inside (b :: t)
  | escape (e : UInt8) {t : Text} (ht : Inside t) : Inside (Text.byte '\\' :: e :: t)

/-- A literal ends with the first quote that is not escaped. -/
theorem Inside.stringBody_append (h : Inside body) (rest : Text) :
    stringBody (body ++ Text.byte '"' :: rest) = some (body, rest) := by
  induction h with
  | nil => exact stringBody_cons_quote rest
  | plain hb _ ih => rw [List.cons_append, stringBody_cons_plain hb, ih]; rfl
  | escape e _ ih =>
    rw [List.cons_append, List.cons_append, stringBody_cons_backslash, ih]
    rfl

theorem inside_of_stringBody (h : stringBody t = some (body, rest)) :
    t = body ++ Text.byte '"' :: rest ∧ Inside body := by
  fun_induction stringBody t generalizing body with
  | case1 => cases h
  | case2 t => obtain ⟨rfl, rfl⟩ := Prod.mk.inj (Option.some.inj h); exact ⟨rfl, .nil⟩
  | case3 => cases h
  | case4 => cases h
  | case5 e t _ _ ih =>
    obtain ⟨⟨inner, after⟩, hinner, heq⟩ := Option.map_eq_some_iff.mp h
    obtain ⟨rfl, rfl⟩ := Prod.mk.inj heq
    obtain ⟨rfl, hinside⟩ := ih hinner
    exact ⟨rfl, .escape e hinside⟩
  | case6 b t hquote hzero hslash ih =>
    obtain ⟨⟨inner, after⟩, hinner, heq⟩ := Option.map_eq_some_iff.mp h
    obtain ⟨rfl, rfl⟩ := Prod.mk.inj heq
    obtain ⟨rfl, hinside⟩ := ih hinner
    exact ⟨rfl, .plain (by simp [isPlainByte, hquote, hzero, hslash]) hinside⟩

/-- A string literal and the text it denotes. -/
def Literal (source value : Text) : Prop :=
  ∃ body, source = Text.byte '"' :: (body ++ [Text.byte '"']) ∧ Inside body ∧
    unescape body = some value

theorem literal_of_stringAfterQuote {value : Text}
    (h : stringAfterQuote t = some (value, source, rest)) :
    Literal source value ∧ Text.byte '"' :: t = source ++ rest := by
  simp only [stringAfterQuote, Option.bind_eq_bind, Option.bind_eq_some_iff] at h
  obtain ⟨⟨body, after⟩, hbody, value', hvalue, heq⟩ := h
  cases heq
  obtain ⟨rfl, hinside⟩ := inside_of_stringBody hbody
  have hquote : Text.ofString "\"" = [Text.byte '"'] := rfl
  exact ⟨⟨body, rfl, hinside, hvalue⟩, by simp [hquote]⟩

/-- A literal is read up to its closing quote, whatever follows. -/
theorem Literal.stringAfterQuote_append {value : Text} (h : Literal source value) (rest : Text) :
    ∃ after, source ++ rest = Text.byte '"' :: after ∧
      stringAfterQuote after = some (value, source, rest) := by
  obtain ⟨body, rfl, hinside, hvalue⟩ := h
  refine ⟨body ++ Text.byte '"' :: rest, by simp, ?_⟩
  simp only [stringAfterQuote, hinside.stringBody_append, hvalue, Option.bind_eq_bind,
    Option.bind_some]
  rfl

/-! ### White space -/

theorem exists_spaces (t : Text) :
    ∃ gap rest, spaces t = (gap, rest) ∧ t = gap ++ rest ∧ gap.all isSpace = true :=
  ⟨_, _, rfl, List.takeWhile_append_dropWhile.symm, List.all_takeWhile⟩

/-- The white space in front of a token is passed over. -/
theorem spaces_append (hgap : gap.all isSpace = true) (hb : isSpace b = false) (rest : Text) :
    spaces (gap ++ b :: rest) = (gap, b :: rest) := by
  rw [List.all_eq_true] at hgap
  rw [spaces, List.takeWhile_append_of_pos hgap, List.dropWhile_append_of_pos hgap]
  simp [hb]

theorem ends_append (hgap : gap.all isSpace = true) (hb : isNumberByte b = false) (rest : Text) :
    Ends (gap ++ b :: rest) := by
  cases gap with
  | nil => exact ends_cons hb rest
  | cons c gap => exact ends_cons (isNumberByte_of_isSpace (List.all_eq_true.mp hgap c (by simp))) _

/-! ### Literals -/

theorem reads_null : Reads "null" .null where
  first := ⟨Text.byte 'n', "ull", by decide, by decide⟩
  source := rfl
  value_eq fuel rest hfuel _ := by
    obtain ⟨fuel, rfl⟩ := Nat.exists_eq_add_of_lt hfuel
    rfl

theorem reads_true : Reads "true" (.bool true) where
  first := ⟨Text.byte 't', "rue", by decide, by decide⟩
  source := rfl
  value_eq fuel rest hfuel _ := by
    obtain ⟨fuel, rfl⟩ := Nat.exists_eq_add_of_lt hfuel
    rfl

theorem reads_false : Reads "false" (.bool false) where
  first := ⟨Text.byte 'f', "alse", by decide, by decide⟩
  source := rfl
  value_eq fuel rest hfuel _ := by
    obtain ⟨fuel, rfl⟩ := Nat.exists_eq_add_of_lt hfuel
    rfl

theorem Literal.reads {value : Text} (h : Literal source value) :
    Reads source (.string source value) where
  first := by
    obtain ⟨body, rfl, -⟩ := h
    exact ⟨Text.byte '"', _, rfl, by decide⟩
  source := rfl
  value_eq fuel rest hfuel _ := by
    obtain ⟨fuel, rfl⟩ := Nat.exists_eq_add_of_lt hfuel
    obtain ⟨after, hafter, hstring⟩ := h.stringAfterQuote_append rest
    rw [hafter, Json.value.eq_def]
    simp only [if_true, hstring, Option.bind_eq_bind, Option.bind_some]
    rfl

theorem literal_quote (t : Text) : Literal (quote t) t.scrub :=
  (literal_of_stringAfterQuote (stringAfterQuote_quote t [])).1

/-- A string literal is read as the text it was written for. -/
theorem reads_quote (t : Text) : Reads (quote t) (.string (quote t) t.scrub) :=
  (literal_quote t).reads

theorem reads_quote_of_isUtf8 (h : t.isUtf8 = true) : Reads (quote t) (.string (quote t) t) := by
  have hread := reads_quote t
  rwa [Text.scrub_of_isUtf8 h] at hread

/-- The bytes that begin a number begin no other value. -/
theorem startsValue_of_number : ∀ first : UInt8,
    (first = Text.byte '-' || Text.isDigitByte first) = true →
      startsValue first = true ∧ first ≠ Text.byte '"' ∧ first ≠ Text.byte '[' ∧
        first ≠ Text.byte '\x7b' ∧ first ≠ Text.byte 'n' ∧ first ≠ Text.byte 't' ∧
        first ≠ Text.byte 'f' :=
  Text.forall_byte (by decide +kernel)

/-- The bytes of a number are read up to what follows it. -/
theorem numberLiteral_append (hbytes : ∀ b ∈ literal, isNumberByte b = true)
    (hread : Double.read literal ≠ .error .syntaxError) (hrest : Ends rest) :
    numberLiteral (literal ++ rest) = some (.number literal, literal, rest) := by
  -- A number goes as far as its bytes do, so that what follows must not begin with one of them.
  have hnone : rest.takeWhile isNumberByte = [] ∧ rest.dropWhile isNumberByte = rest := by
    cases rest with
    | nil => exact ⟨rfl, rfl⟩
    | cons b rest => simp [hrest b rfl]
  have htake : (literal ++ rest).takeWhile isNumberByte = literal := by
    rw [List.takeWhile_append_of_pos hbytes, hnone.1, List.append_nil]
  have hdrop : (literal ++ rest).dropWhile isNumberByte = rest := by
    rw [List.dropWhile_append_of_pos hbytes, hnone.2]
  simp only [numberLiteral, htake, hdrop]

/-- A number literal is read as it is. -/
theorem reads_number {first : UInt8} {tail : Text}
    (hfirst : (first = Text.byte '-' || Text.isDigitByte first) = true)
    (hbytes : ∀ b ∈ first :: tail, isNumberByte b = true)
    (hread : Double.read (first :: tail) ≠ .error .syntaxError) :
    Reads (first :: tail) (.number (first :: tail)) where
  first := ⟨first, tail, rfl, (startsValue_of_number first hfirst).1⟩
  source := rfl
  value_eq fuel rest hfuel hends := by
    obtain ⟨fuel, rfl⟩ := Nat.exists_eq_add_of_lt hfuel
    obtain ⟨-, hq, hl, hb, hn, ht, hf⟩ := startsValue_of_number first hfirst
    rw [List.cons_append, value.eq_def]
    simp only [hq, hl, hb, hn, ht, hf, hfirst, if_false, if_true]
    exact numberLiteral_append hbytes hread hends

/-! ### Parts of arrays and objects -/

/-- A part of a JSON text: a value, the elements of an array or the members of an object up to the
closing bracket, or a single member with the white space around its parts. -/
inductive Phrase where
  | value (j : Json)
  | items (items : List Json)
  | member (key : Text) (j : Json)
  | members (members : List (Text × Json))

/-- How the reader takes a part of a text, wherever it stands. -/
def Parsed (t : Text) : Phrase → Prop
  | .value j => Reads t j
  | .items items =>
    (∃ b rest, t = b :: rest ∧ startsValue b = true) ∧
      ∀ fuel rest, t.length < fuel → elements fuel (t ++ rest) = some (items, t, rest)
  | .member key j =>
    (∃ rest, t = Text.byte '"' :: rest) ∧
      ∀ fuel b rest, t.length < fuel → isNumberByte b = false → isSpace b = false →
        members (fuel + 1) (t ++ b :: rest) =
          if b = Text.byte '\x7d' then some ([(key, j)], t ++ [b], rest)
          else if b = Text.byte ',' then
            (members fuel (spaces rest).2).map fun p =>
              ((key, j) :: p.1, t ++ b :: (spaces rest).1 ++ p.2.1, p.2.2)
          else none
  | .members ms =>
    (∃ rest, t = Text.byte '"' :: rest) ∧
      ∀ fuel rest, t.length < fuel → members fuel (t ++ rest) = some (ms, t, rest)

/-- A bracket and white space in front of the elements of an array. -/
theorem value_open_array (hgap : gap.all isSpace = true) (hb : startsValue b = true) (fuel : Nat)
    (rest : Text) :
    value (fuel + 1) (Text.byte '[' :: (gap ++ b :: rest)) =
      (elements fuel (b :: rest)).map fun p =>
        (.array (Text.byte '[' :: (gap ++ p.2.1)) p.1, Text.byte '[' :: (gap ++ p.2.1), p.2.2) := by
  have hne : b ≠ Text.byte ']' := by
    rintro rfl
    exact absurd hb (by decide)
  have hspaces := spaces_append hgap (isSpace_of_startsValue hb) rest
  rw [value.eq_def]
  dsimp only
  rw [if_neg (by decide), if_pos rfl, hspaces]
  dsimp only
  rw [if_neg hne]
  cases elements fuel (b :: rest) <;> rfl

theorem value_open_object (hgap : gap.all isSpace = true) (hb : startsValue b = true) (fuel : Nat)
    (rest : Text) :
    value (fuel + 1) (Text.byte '\x7b' :: (gap ++ b :: rest)) =
      (members fuel (b :: rest)).map fun p =>
        (.object (Text.byte '\x7b' :: (gap ++ p.2.1)) p.1, Text.byte '\x7b' :: (gap ++ p.2.1),
          p.2.2) := by
  have hne : b ≠ Text.byte '\x7d' := by
    rintro rfl
    exact absurd hb (by decide)
  have hspaces := spaces_append hgap (isSpace_of_startsValue hb) rest
  rw [value.eq_def]
  dsimp only
  rw [if_neg (by decide), if_neg (by decide), if_pos rfl, hspaces]
  dsimp only
  rw [if_neg hne]
  cases members fuel (b :: rest) <;> rfl

theorem reads_emptyArray (hgap : gap.all isSpace = true) :
    Reads (Text.byte '[' :: (gap ++ [Text.byte ']']))
      (.array (Text.byte '[' :: (gap ++ [Text.byte ']'])) []) where
  first := ⟨Text.byte '[', _, rfl, by decide⟩
  source := rfl
  value_eq fuel rest hfuel _ := by
    obtain ⟨fuel, rfl⟩ := Nat.exists_eq_add_of_lt hfuel
    have hspaces := spaces_append hgap (b := Text.byte ']') (by decide) rest
    rw [List.cons_append, List.append_assoc, List.singleton_append, value.eq_def]
    dsimp only
    rw [if_neg (by decide), if_pos rfl, hspaces]
    rfl

theorem reads_emptyObject (hgap : gap.all isSpace = true) :
    Reads (Text.byte '\x7b' :: (gap ++ [Text.byte '\x7d']))
      (.object (Text.byte '\x7b' :: (gap ++ [Text.byte '\x7d'])) []) where
  first := ⟨Text.byte '\x7b', _, rfl, by decide⟩
  source := rfl
  value_eq fuel rest hfuel _ := by
    obtain ⟨fuel, rfl⟩ := Nat.exists_eq_add_of_lt hfuel
    have hspaces := spaces_append hgap (b := Text.byte '\x7d') (by decide) rest
    rw [List.cons_append, List.append_assoc, List.singleton_append, value.eq_def]
    dsimp only
    rw [if_neg (by decide), if_neg (by decide), if_pos rfl, hspaces]
    rfl

theorem reads_array (hgap : gap.all isSpace = true) (h : Parsed t (.items items)) :
    Reads (Text.byte '[' :: (gap ++ t)) (.array (Text.byte '[' :: (gap ++ t)) items) where
  first := ⟨Text.byte '[', _, rfl, by decide⟩
  source := rfl
  value_eq fuel rest hfuel _ := by
    obtain ⟨fuel, rfl⟩ : ∃ k, fuel = k + 1 := ⟨fuel - 1, by omega⟩
    obtain ⟨⟨b, tail, rfl, hb⟩, helements⟩ := h
    have hitems := helements fuel rest (by
      rw [List.length_cons, List.length_append] at hfuel
      omega)
    rw [List.cons_append] at hitems
    rw [List.cons_append, List.append_assoc, List.cons_append, value_open_array hgap hb, hitems]
    rfl

theorem reads_object (hgap : gap.all isSpace = true) (h : Parsed t (.members ms)) :
    Reads (Text.byte '\x7b' :: (gap ++ t)) (.object (Text.byte '\x7b' :: (gap ++ t)) ms) where
  first := ⟨Text.byte '\x7b', _, rfl, by decide⟩
  source := rfl
  value_eq fuel rest hfuel _ := by
    obtain ⟨fuel, rfl⟩ : ∃ k, fuel = k + 1 := ⟨fuel - 1, by omega⟩
    obtain ⟨⟨tail, rfl⟩, hmembers⟩ := h
    have hitems := hmembers fuel rest (by
      rw [List.length_cons, List.length_append] at hfuel
      omega)
    rw [List.cons_append] at hitems
    rw [List.cons_append, List.append_assoc, List.cons_append,
      value_open_object hgap (by decide), hitems]
    rfl

/-- An element is read up to the byte that follows it, which ends the array or asks for more. -/
theorem elements_append (h : Reads t j) (hgap : gap.all isSpace = true) (hfuel : t.length < fuel)
    (hnumber : isNumberByte b = false) (hspace : isSpace b = false) (rest : Text) :
    elements (fuel + 1) (t ++ (gap ++ b :: rest)) =
      if b = Text.byte ']' then some ([j], t ++ (gap ++ [b]), rest)
      else if b = Text.byte ',' then
        (elements fuel (spaces rest).2).map fun p =>
          (j :: p.1, t ++ (gap ++ b :: ((spaces rest).1 ++ p.2.1)), p.2.2)
      else none := by
  have hvalue := h.value_eq fuel (gap ++ b :: rest) hfuel (ends_append hgap hnumber rest)
  rw [elements.eq_def]
  dsimp only
  rw [hvalue, Option.bind_eq_bind, Option.bind_some]
  dsimp only
  rw [spaces_append hgap hspace]
  dsimp only
  cases elements fuel (spaces rest).2 <;> simp

theorem parsed_lastItem (h : Reads t j) (hgap : gap.all isSpace = true) :
    Parsed (t ++ (gap ++ [Text.byte ']'])) (.items [j]) := by
  refine ⟨?_, fun fuel rest hfuel => ?_⟩
  · obtain ⟨b, tail, rfl, hb⟩ := h.first
    exact ⟨b, _, rfl, hb⟩
  · obtain ⟨fuel, rfl⟩ : ∃ k, fuel = k + 1 := ⟨fuel - 1, by omega⟩
    simp only [List.length_append, List.length_singleton] at hfuel
    rw [List.append_assoc, List.append_assoc, List.singleton_append,
      elements_append h hgap (by omega) (by decide) (by decide), if_pos rfl]

theorem parsed_item (h : Reads t j) (hgap : gap.all isSpace = true)
    (hgap' : gap'.all isSpace = true) (hmore : Parsed u (.items items)) :
    Parsed (t ++ (gap ++ Text.byte ',' :: (gap' ++ u))) (.items (j :: items)) := by
  refine ⟨?_, fun fuel rest hfuel => ?_⟩
  · obtain ⟨b, tail, rfl, hb⟩ := h.first
    exact ⟨b, _, rfl, hb⟩
  · obtain ⟨fuel, rfl⟩ : ∃ k, fuel = k + 1 := ⟨fuel - 1, by omega⟩
    obtain ⟨⟨b, tail, rfl, hb⟩, helements⟩ := hmore
    simp only [List.length_append, List.length_cons] at hfuel
    have hitems := helements fuel rest (by rw [List.length_cons]; omega)
    have hspaces := spaces_append hgap' (isSpace_of_startsValue hb) (tail ++ rest)
    have htext : t ++ (gap ++ Text.byte ',' :: (gap' ++ b :: tail)) ++ rest =
        t ++ (gap ++ Text.byte ',' :: (gap' ++ b :: (tail ++ rest))) := by simp
    rw [List.cons_append] at hitems
    rw [htext, elements_append h hgap (by omega) (by decide) (by decide), if_neg (by decide),
      if_pos rfl, hspaces, hitems]
    rfl

theorem parsed_member {source gap₁ gap₂ gap₃ : Text} (hkey : Literal source key)
    (h₁ : gap₁.all isSpace = true) (h₂ : gap₂.all isSpace = true) (h : Reads t j)
    (h₃ : gap₃.all isSpace = true) :
    Parsed (source ++ (gap₁ ++ Text.byte ':' :: (gap₂ ++ (t ++ gap₃)))) (.member key j) := by
  refine ⟨?_, fun fuel b rest hfuel hnumber hspace => ?_⟩
  · obtain ⟨body, rfl, -⟩ := hkey
    exact ⟨_, rfl⟩
  · simp only [List.length_append, List.length_cons] at hfuel
    -- The parts of the member one after the other, and what the reader makes of each.
    have hvalue := h.value_eq fuel (gap₃ ++ b :: rest) (by omega) (ends_append h₃ hnumber rest)
    have hfirst : spaces (gap₂ ++ (t ++ (gap₃ ++ b :: rest))) =
        (gap₂, t ++ (gap₃ ++ b :: rest)) := by
      obtain ⟨c, tail, rfl, hc⟩ := h.first
      exact spaces_append h₂ (isSpace_of_startsValue hc) _
    have hcolon := spaces_append h₁ (b := Text.byte ':') (by decide)
      (gap₂ ++ (t ++ (gap₃ ++ b :: rest)))
    obtain ⟨after, hafter, hstring⟩ := hkey.stringAfterQuote_append
      (gap₁ ++ Text.byte ':' :: (gap₂ ++ (t ++ (gap₃ ++ b :: rest))))
    have htext : source ++ (gap₁ ++ Text.byte ':' :: (gap₂ ++ (t ++ gap₃))) ++ b :: rest =
        Text.byte '"' :: after := by
      rw [← hafter]
      simp
    rw [htext, Json.members.eq_def]
    dsimp only
    rw [if_pos rfl, hstring, Option.bind_eq_bind, Option.bind_some]
    dsimp only
    rw [hcolon]
    dsimp only
    rw [if_pos rfl, hfirst]
    dsimp only
    rw [hvalue, Option.bind_eq_bind, Option.bind_some]
    dsimp only
    rw [spaces_append h₃ hspace]
    dsimp only
    cases Json.members fuel (spaces rest).2 <;> simp

theorem parsed_lastMember (h : Parsed t (.member key j)) :
    Parsed (t ++ [Text.byte '\x7d']) (.members [(key, j)]) := by
  obtain ⟨⟨tail, rfl⟩, hmember⟩ := h
  refine ⟨⟨_, rfl⟩, fun fuel rest hfuel => ?_⟩
  obtain ⟨fuel, rfl⟩ : ∃ k, fuel = k + 1 := ⟨fuel - 1, by omega⟩
  rw [List.length_append, List.length_singleton] at hfuel
  rw [List.append_assoc, List.singleton_append,
    hmember fuel _ rest (by omega) (by decide) (by decide), if_pos rfl]

theorem parsed_moreMembers (h : Parsed t (.member key j)) (hgap : gap.all isSpace = true)
    (hmore : Parsed u (.members ms)) :
    Parsed (t ++ Text.byte ',' :: (gap ++ u)) (.members ((key, j) :: ms)) := by
  obtain ⟨⟨tail, rfl⟩, hmember⟩ := h
  obtain ⟨⟨more, rfl⟩, hmembers⟩ := hmore
  refine ⟨⟨_, rfl⟩, fun fuel rest hfuel => ?_⟩
  obtain ⟨fuel, rfl⟩ : ∃ k, fuel = k + 1 := ⟨fuel - 1, by omega⟩
  simp only [List.length_append, List.length_cons] at hfuel
  have hitems := hmembers fuel rest (by rw [List.length_cons]; omega)
  have hspaces := spaces_append hgap (b := Text.byte '"') (by decide) (more ++ rest)
  have htext : Text.byte '"' :: tail ++ Text.byte ',' :: (gap ++ Text.byte '"' :: more) ++ rest =
      Text.byte '"' :: tail ++ Text.byte ',' :: (gap ++ Text.byte '"' :: (more ++ rest)) := by simp
  rw [List.cons_append] at hitems
  rw [htext, hmember fuel _ _ (by rw [List.length_cons]; omega) (by decide) (by decide),
    if_neg (by decide), if_pos rfl, hspaces, hitems]
  simp

/-! ### Arrays and objects of written values -/

/-- The bytes between the brackets of an array or the braces of an object. -/
def listed (parts : List Text) : Text := Text.join [Text.byte ','] parts

theorem listed_cons {part : Text} {parts : List Text} (h : parts ≠ []) :
    listed (part :: parts) = part ++ Text.byte ',' :: listed parts := by
  rw [listed, Text.join_cons h, List.append_assoc]
  rfl

theorem arrayOf_eq (ts : List Text) :
    arrayOf ts = Text.byte '[' :: (listed ts ++ [Text.byte ']']) := rfl

/-- The writer leaves no white space. -/
theorem all_isSpace_nil : List.all ([] : Text) isSpace = true := rfl

/-- The elements of an array are read one after the other. -/
theorem parsed_listed {ts : List Text} {js : List Json} (h : List.Forall₂ Reads ts js)
    (hne : ts ≠ []) : Parsed (listed ts ++ [Text.byte ']']) (.items js) := by
  induction h with
  | nil => exact absurd rfl hne
  | @cons t j ts js ht h ih =>
    cases h with
    | nil => exact parsed_lastItem ht all_isSpace_nil
    | cons ht' h =>
      rw [listed_cons (List.cons_ne_nil _ _), List.append_assoc]
      exact (parsed_item ht all_isSpace_nil all_isSpace_nil (ih (List.cons_ne_nil _ _)) :)

/-- An array of values that are read. -/
theorem reads_arrayOf {ts : List Text} {js : List Json} (h : List.Forall₂ Reads ts js) :
    Reads (arrayOf ts) (.array (arrayOf ts) js) := by
  cases h with
  | nil => exact reads_emptyArray all_isSpace_nil
  | cons ht h =>
    have hitems := parsed_listed (.cons ht h) (List.cons_ne_nil _ _)
    exact (reads_array all_isSpace_nil hitems :)

/-- A member of an object. -/
def memberText (m : Text × Text) : Text := quote m.1 ++ Text.byte ':' :: m.2

/-- A member is read under its name. -/
def ReadsMember (m : Text × Text) (n : Text × Json) : Prop :=
  n.1 = m.1.scrub ∧ Reads m.2 n.2

theorem readsMember {k v : Text} (hk : k.isUtf8 = true) (h : Reads v j) :
    ReadsMember (k, v) (k, j) :=
  ⟨(Text.scrub_of_isUtf8 hk).symm, h⟩

theorem objectOf_eq (ms : List (Text × Text)) :
    objectOf ms = Text.byte '\x7b' :: (listed (ms.map memberText) ++ [Text.byte '\x7d']) := by
  have hmember : (fun m : Text × Text => quote m.1 ++ ":" ++ m.2) = memberText := by
    funext m
    exact List.append_assoc _ _ _
  rw [← hmember]
  rfl

theorem memberText_eq (k v : Text) :
    memberText (k, v) =
      Text.byte '"' :: (literalBody k ++ Text.byte '"' :: Text.byte ':' :: v) := by
  simp [memberText, quote_eq]

theorem length_lt_memberText (k v : Text) : v.length < (memberText (k, v)).length := by
  simp only [memberText_eq, List.length_cons, List.length_append]
  omega

theorem parsed_memberText {m : Text × Text} {n : Text × Json} (h : ReadsMember m n) :
    Parsed (memberText m) (.member n.1 n.2) := by
  have hmember := parsed_member (literal_quote m.1) all_isSpace_nil all_isSpace_nil h.2
    all_isSpace_nil
  rwa [List.append_nil, ← h.1] at hmember

/-- The members of an object are read one after the other. -/
theorem parsed_members {ms : List (Text × Text)} {ns : List (Text × Json)}
    (h : List.Forall₂ ReadsMember ms ns) (hne : ms ≠ []) :
    Parsed (listed (ms.map memberText) ++ [Text.byte '\x7d']) (.members ns) := by
  induction h with
  | nil => exact absurd rfl hne
  | @cons m n ms ns hm h ih =>
    cases h with
    | nil => exact parsed_lastMember (parsed_memberText hm)
    | cons hm' h =>
      have hmore := ih (List.cons_ne_nil _ _)
      rw [List.map_cons, listed_cons (by simp), List.append_assoc]
      exact (parsed_moreMembers (parsed_memberText hm) all_isSpace_nil hmore :)

/-- An object of values that are read. -/
theorem reads_objectOf {ms : List (Text × Text)} {ns : List (Text × Json)}
    (h : List.Forall₂ ReadsMember ms ns) : Reads (objectOf ms) (.object (objectOf ms) ns) := by
  rw [objectOf_eq]
  cases h with
  | nil => exact reads_emptyObject all_isSpace_nil
  | cons hm h =>
    have hmembers := parsed_members (.cons hm h) (List.cons_ne_nil _ _)
    exact (reads_object all_isSpace_nil hmembers :)

end Accord.Json
