/-
# Identifiers are legal

Names come in all scripts. The identifiers made of them consist of letters, digits and underscores
and begin with a letter, so that they are legal, and none of the unexported ones has a meaning
already. An identifier is exported exactly if it begins with an upper-case letter. Putting the
first letter into upper or lower case has this effect wherever the letter has the other case: a
letter of a script without cases gives no exported identifier, and an upper-case letter without a
lower case gives an exported one where an unexported one is wanted.

## Main definitions

* `Source.leading?`: the first letter or digit of a name;
* `Source.initial`: the first character of its identifiers;
* `Source.isExported`: whether an identifier is exported.

## Main results

* `Source.words_cases`: where the words of a name begin;
* `Source.exists_exported_eq`, `Source.exists_unexported_eq`: what identifiers consist of;
* `Source.identifiers_legal`: identifiers are legal, and which of them are exported.
-/

import Accord.Proofs.Source.FileNames
import Accord.Proofs.Text.Blanks

namespace Accord.Source

open Accord.Text (isLetter isDigit isUpper toUpper toLower ofChars)

variable {name t : Text} {c x : Char} {cs w more word : List Char} {change : Char → Char}

/-! ### Words -/

/-- The first letter or digit of a name. -/
def leading? (name : Text) : Option Char := name.chars.find? isWordChar

/-- A word that has begun goes on, and other words follow. -/
theorem exists_wordsFrom_eq (c : Char) (word cs : List Char) :
    ∃ more rest, wordsFrom (c :: word) cs = ((c :: word).reverse ++ more) :: rest := by
  -- The characters of the word so far come in reverse, the last one first.
  induction cs generalizing c word with
  | nil => exact ⟨[], [], by simp [wordsFrom]⟩
  | cons d cs ih =>
    unfold wordsFrom
    split
    case isTrue =>
      obtain ⟨more, rest, h⟩ := ih d (c :: word)
      exact ⟨d :: more, rest, by simp [h]⟩
    case isFalse => exact ⟨[], wordsFrom [] cs, by simp⟩

/-- A name has no words, or its first word begins with its first letter or digit. -/
theorem words_cases (name : Text) : leading? name = none ∧ words name = [] ∨
    ∃ c more rest, leading? name = some c ∧ isWordChar c = true ∧
      words name = (c :: more) :: rest := by
  unfold leading? words
  induction name.chars with
  | nil => exact .inl ⟨rfl, rfl⟩
  | cons c cs ih =>
    unfold wordsFrom
    by_cases hc : isWordChar c = true
    · obtain ⟨more, rest, h⟩ := exists_wordsFrom_eq c [] cs
      rw [if_pos hc, List.find?_cons_of_pos hc, h]
      exact .inr ⟨c, more, rest, rfl, hc, rfl⟩
    · rw [if_neg hc, List.find?_cons_of_neg hc]
      exact ih

/-- Letters and digits only are one word. -/
theorem wordsFrom_of_forall (hcs : ∀ c ∈ cs, isWordChar c = true) (hne : word ++ cs ≠ []) :
    wordsFrom word cs = [word.reverse ++ cs] := by
  induction cs generalizing word with
  | nil =>
    rw [List.append_nil] at hne
    simp [wordsFrom, hne]
  | cons c cs ih =>
    obtain ⟨hc, hcs⟩ := List.forall_mem_cons.mp hcs
    rw [wordsFrom, if_pos hc, ih hcs (by simp)]
    simp

/-! ### Changing the case of words -/

theorem isWordChar_cases (h : isWordChar c = true) : isLetter c = true ∨ isDigit c = true := by
  simpa [isWordChar] using h

theorem isUpper_of_isLetter (h : isLetter c = false) : isUpper c = false := by
  revert h
  unfold isLetter isUpper
  cases Text.category c <;> decide

/-- A letter or digit stays what it is when its case changes. -/
structure KeepsWords (change : Char → Char) : Prop where
  letter : ∀ c, isLetter c = true → isLetter (change c) = true
  digit : ∀ c, isDigit c = true → change c = c

theorem keepsWords_toUpper : KeepsWords toUpper :=
  ⟨fun _ => Text.isLetter_toUpper, fun _ => Text.toUpper_of_isDigit⟩

theorem keepsWords_toLower : KeepsWords toLower :=
  ⟨fun _ => Text.isLetter_toLower, fun _ => Text.toLower_of_isDigit⟩

theorem KeepsWords.isLetter_eq (h : KeepsWords change) (hc : isWordChar c = true) :
    isLetter (change c) = isLetter c := by
  rcases isWordChar_cases hc with hletter | hdigit
  · rw [h.letter c hletter, hletter]
  · rw [h.digit c hdigit]

theorem KeepsWords.isWordChar (h : KeepsWords change) (hc : isWordChar c = true) :
    isWordChar (change c) = true := by
  rcases isWordChar_cases hc with hletter | hdigit
  · simp [Source.isWordChar, h.letter c hletter]
  · rw [h.digit c hdigit]
    exact hc

theorem isWordChar_of_mem_words (hw : w ∈ words name) (hc : c ∈ w) : isWordChar c = true :=
  isWordChar_of_mem_wordsFrom (by simp) hw hc

/-- Words that begin in upper case consist of letters and digits. -/
theorem isWordChar_of_mem_raised {ws : List (List Char)} (hws : ∀ w ∈ ws, w ∈ words name)
    (hc : c ∈ ws.flatMap (changeFirst toUpper)) : isWordChar c = true := by
  obtain ⟨w, hw, hc⟩ := List.mem_flatMap.mp hc
  have hword : ∀ x ∈ w, isWordChar x = true := fun x hx => isWordChar_of_mem_words (hws w hw) hx
  cases w with
  | nil => cases hc
  | cons first rest =>
    obtain ⟨hfirst, hrest⟩ := List.forall_mem_cons.mp hword
    rcases List.mem_cons.mp hc with rfl | hc
    · exact keepsWords_toUpper.isWordChar hfirst
    · exact hrest c hc

/-! ### What identifiers consist of -/

/-- The first character of the identifiers of a name: its first letter in another case, or a
fixed letter where a name does not begin with one. -/
def initial (change : Char → Char) (fixed : Char) (name : Text) : Char :=
  match leading? name with
  | some c => if isLetter c then change c else fixed
  | none => fixed

/-- A letter is put in front of an identifier that begins with none. -/
theorem exists_initial_eq (hchange : KeepsWords change) (hlead : leading? name = some c)
    (hc : isWordChar c = true) (hmore : ∀ d ∈ more, isWordChar d = true) (x : Char) :
    ∃ rest, (if startsWithLetter (change c :: more) then change c :: more
        else x :: change c :: more) = initial change x name :: rest ∧
      ∀ d ∈ rest, isWordChar d = true := by
  have hstarts : startsWithLetter (change c :: more) = isLetter c := hchange.isLetter_eq hc
  rw [hstarts]
  unfold initial
  rw [hlead]
  dsimp only
  split
  · exact ⟨more, rfl, hmore⟩
  · refine ⟨change c :: more, rfl, fun d hd => ?_⟩
    rcases List.mem_cons.mp hd with rfl | hd
    · exact hchange.isWordChar hc
    · exact hmore d hd

/-- An exported identifier consists of letters and digits. -/
theorem exists_exported_eq (name : Text) : ∃ rest,
    exported name = ofChars (initial toUpper 'X' name :: rest) ∧
      ∀ d ∈ rest, isWordChar d = true := by
  rcases words_cases name with ⟨hlead, hwords⟩ | ⟨c, more, rest, hlead, hc, hwords⟩
  · refine ⟨[], ?_, by simp⟩
    rw [exported, hwords, initial, hlead]
    rfl
  · have hmore : ∀ d ∈ more ++ rest.flatMap (changeFirst toUpper), isWordChar d = true := by
      intro d hd
      rcases List.mem_append.mp hd with hd | hd
      · exact isWordChar_of_mem_words (hwords ▸ List.mem_cons_self) (List.mem_cons_of_mem c hd)
      · exact isWordChar_of_mem_raised (fun w hw => hwords ▸ List.mem_cons_of_mem _ hw) hd
    obtain ⟨tail, htail, hchars⟩ := exists_initial_eq keepsWords_toUpper hlead hc hmore 'X'
    refine ⟨tail, ?_, hchars⟩
    rw [← htail, exported, hwords]
    rfl

/-- The first word of an unexported identifier begins in lower case. -/
theorem exists_firstWord_eq (hw : ∀ d ∈ c :: more, isWordChar d = true) :
    ∃ tail, firstWord (c :: more) = toLower c :: tail ∧ ∀ d ∈ tail, isWordChar d = true := by
  obtain ⟨-, hmore⟩ := List.forall_mem_cons.mp hw
  unfold firstWord
  dsimp only
  split
  · refine ⟨more.map toLower, by rw [Text.lower_ofChars, Text.chars_ofChars, List.map_cons], ?_⟩
    intro d hd
    obtain ⟨e, he, rfl⟩ := List.mem_map.mp hd
    exact keepsWords_toLower.isWordChar (hmore e he)
  · exact ⟨more, rfl, hmore⟩

/-- The spelling of an unexported identifier before it is told apart from others. -/
theorem exists_unexported_eq (name : Text) : ∃ rest : List Char,
    (∀ d ∈ rest, isWordChar d = true) ∧
    unexported name =
      let t := ofChars (initial toLower 'x' name :: rest)
      if isReserved t || importNames.contains t then t ++ "_" else t := by
  rcases words_cases name with ⟨hlead, hwords⟩ | ⟨c, more, rest, hlead, hc, hwords⟩
  · refine ⟨[], by simp, ?_⟩
    rw [unexported, hwords, initial, hlead]
    decide +kernel
  · have hword : ∀ d ∈ c :: more, isWordChar d = true := fun d hd =>
      isWordChar_of_mem_words (hwords ▸ List.mem_cons_self) hd
    obtain ⟨first, hfirst, hchars⟩ := exists_firstWord_eq hword
    have hmore : ∀ d ∈ first ++ rest.flatMap (changeFirst toUpper), isWordChar d = true := by
      intro d hd
      rcases List.mem_append.mp hd with hd | hd
      · exact hchars d hd
      · exact isWordChar_of_mem_raised (fun w hw => hwords ▸ List.mem_cons_of_mem _ hw) hd
    obtain ⟨tail, htail, htailChars⟩ := exists_initial_eq keepsWords_toLower hlead hc hmore 'x'
    refine ⟨tail, htailChars, ?_⟩
    rw [unexported, hwords]
    dsimp only
    rw [hfirst, List.cons_append, htail]

/-- An underscore keeps an unexported identifier apart from those that have a meaning already. -/
theorem exists_unexported_spelling (name : Text) : ∃ rest,
    unexported name = ofChars (initial toLower 'x' name :: rest) ∧
      (∀ d ∈ rest, isWordChar d = true ∨ d = '_') ∧
      isReserved (unexported name) = false ∧ unexported name ∉ importNames := by
  obtain ⟨rest, hrest, hname⟩ := exists_unexported_eq name
  dsimp only at hname
  split at hname
  case isTrue =>
    have himports : importNames.all (fun w => !w.contains (Text.byte '_')) = true := by
      decide +kernel
    -- None of the names that have a meaning holds an underscore.
    have hunderscore : Text.byte '_' ∈ unexported name := by
      rw [hname]
      exact List.mem_append_right _ (by decide)
    refine ⟨rest ++ ['_'], ?_, fun d hd => ?_, ?_, fun hmem => ?_⟩
    · rw [hname, ← List.cons_append, Text.ofChars_append]
      rfl
    · rcases List.mem_append.mp hd with hd | hd
      · exact .inl (hrest d hd)
      · exact .inr (List.mem_singleton.mp hd)
    · rw [Bool.eq_false_iff]
      exact fun hreserved => underscore_not_mem_of_isReserved hreserved hunderscore
    · have hrow := List.all_eq_true.mp himports _ hmem
      rw [List.contains_iff_mem.mpr hunderscore] at hrow
      cases hrow
  case isFalse hnew =>
    rw [Bool.or_eq_true, not_or, ← hname] at hnew
    refine ⟨rest, hname, fun d hd => .inl (hrest d hd), Bool.eq_false_iff.mpr hnew.1, fun hmem => ?_⟩
    exact hnew.2 (List.contains_iff_mem.mpr hmem)

/-! ### Identifiers -/

/-- Whether an identifier is exported, which it is by its first character. -/
def isExported (ident : Text) : Bool := ident.chars.head?.any isUpper

theorem isExported_ofChars (c : Char) (cs : List Char) :
    isExported (ofChars (c :: cs)) = isUpper c := by
  rw [isExported, Text.chars_ofChars]
  rfl

/-- A letter, and letters, digits and underscores behind it, are an identifier unless they are a
keyword. -/
theorem isIdentifier_ofChars (hc : isLetter c = true)
    (hcs : ∀ d ∈ cs, isWordChar d = true ∨ d = '_') (hkeyword : ofChars (c :: cs) ∉ keywords) :
    isIdentifier (ofChars (c :: cs)) = true := by
  have hnew : keywords.contains (ofChars (c :: cs)) = false := by
    rw [Bool.eq_false_iff]
    exact fun hcontains => hkeyword (List.contains_iff_mem.mp hcontains)
  unfold isIdentifier
  rw [Text.symbols_ofChars, List.map_cons, hnew]
  simp only [hc, Bool.true_or, Bool.true_and, Bool.not_false, Bool.and_true, List.all_map,
    List.all_eq_true, Function.comp_apply]
  intro d hd
  rcases hcs d hd with hword | rfl
  · rcases isWordChar_cases hword with hletter | hdigit
    · simp [hletter]
    · simp [hdigit]
  · simp

/-- The letters that are put in front of identifiers. -/
theorem fixed_letters : (isLetter 'X' = true ∧ isUpper 'X' = true ∧ toUpper 'X' = 'X') ∧
    isLetter 'x' = true ∧ isUpper 'x' = false := by
  decide +kernel

theorem isLetter_initial (hchange : KeepsWords change) (hx : isLetter x = true) (name : Text) :
    isLetter (initial change x name) = true := by
  unfold initial
  split
  · split
    case isTrue hletter => exact hchange.letter _ hletter
    case isFalse => exact hx
  · exact hx

theorem toUpper_initial (name : Text) :
    toUpper (initial toUpper 'X' name) = initial toUpper 'X' name := by
  unfold initial
  split
  · split
    case isTrue hletter => exact Text.toUpper_toUpper hletter
    case isFalse => exact fixed_letters.1.2.2
  · exact fixed_letters.1.2.2

/-- Keywords begin in lower case. -/
theorem not_mem_keywords_of_toUpper (h : toUpper c = c) (cs : List Char) :
    ofChars (c :: cs) ∉ keywords := by
  have table : (keywords.all fun k => k.chars.head?.all fun c => toUpper c != c) = true := by
    decide +kernel
  intro hmem
  have hrow := List.all_eq_true.mp table _ hmem
  rw [Text.chars_ofChars] at hrow
  simp [h] at hrow

theorem isIdentifier_exported (name : Text) : isIdentifier (exported name) = true := by
  obtain ⟨rest, hname, hrest⟩ := exists_exported_eq name
  rw [hname]
  exact isIdentifier_ofChars (isLetter_initial keepsWords_toUpper fixed_letters.1.1 name)
    (fun d hd => .inl (hrest d hd)) (not_mem_keywords_of_toUpper (toUpper_initial name) rest)

/-- An exported identifier is one word, which begins in upper case. -/
theorem exported_exported (name : Text) : exported (exported name) = exported name := by
  obtain ⟨rest, hname, hrest⟩ := exists_exported_eq name
  have hletter := isLetter_initial keepsWords_toUpper fixed_letters.1.1 name
  have hwords : words (exported name) = [initial toUpper 'X' name :: rest] := by
    rw [hname, words, Text.chars_ofChars]
    refine wordsFrom_of_forall (fun c hc => ?_) (by simp)
    rcases List.mem_cons.mp hc with rfl | hc
    · simp [isWordChar, hletter]
    · exact hrest c hc
  have hident : [initial toUpper 'X' name :: rest].flatMap (changeFirst toUpper) =
      initial toUpper 'X' name :: rest := by
    rw [List.flatMap_singleton, changeFirst, toUpper_initial]
  rw [exported, hwords, hident, startsWithLetter, if_pos hletter, hname]

theorem isIdentifier_unexported (name : Text) : isIdentifier (unexported name) = true := by
  obtain ⟨rest, hname, hrest, hreserved, -⟩ := exists_unexported_spelling name
  have hletter := isLetter_initial keepsWords_toLower fixed_letters.2.1 name
  have hkeyword : unexported name ∉ keywords := fun hmem => by
    rw [isReserved, List.contains_iff_mem.mpr hmem, Bool.true_or] at hreserved
    cases hreserved
  rw [hname] at hkeyword ⊢
  exact isIdentifier_ofChars hletter hrest hkeyword

/-! ### Exported and unexported identifiers -/

/-- The exported identifier of a name is exported unless the name begins with a letter that has no
upper case. -/
theorem isExported_exported_iff (name : Text) : isExported (exported name) = true ↔
    ∀ c, leading? name = some c → isLetter c = true → isUpper (toUpper c) = true := by
  obtain ⟨rest, hname, -⟩ := exists_exported_eq name
  have hx := fixed_letters.1.2.1
  rw [hname, isExported_ofChars, initial]
  cases leading? name with
  | none => simp [hx]
  | some c => by_cases hletter : isLetter c = true <;> simp [hletter, hx]

/-- The unexported identifier of a name is not exported unless the name begins with an upper-case
letter that has no lower case. -/
theorem isExported_unexported_iff (name : Text) : isExported (unexported name) = true ↔
    ∃ c, leading? name = some c ∧ isUpper c = true ∧ toLower c = c := by
  obtain ⟨rest, hname, -⟩ := exists_unexported_spelling name
  have hx := fixed_letters.2.2
  rw [hname, isExported_ofChars, initial]
  cases leading? name with
  | none => simp [hx]
  | some c =>
    by_cases hletter : isLetter c = true
    · have hlower : isUpper (toLower c) = true ↔ isUpper c = true ∧ toLower c = c := by
        constructor
        · intro hupper
          have hsame := Text.toLower_eq_of_isUpper hupper
          rw [hsame] at hupper
          exact ⟨hupper, hsame⟩
        · rintro ⟨hupper, hsame⟩
          rw [hsame]
          exact hupper
      simp [hletter, hlower]
    · have hupper : isUpper c = false := isUpper_of_isLetter (Bool.eq_false_iff.mpr hletter)
      simp [hletter, hx, hupper]

/-- **Identifiers are legal.** For every name, the exported identifier is legal and its own exported
identifier, and the unexported one is legal and neither a keyword nor an identifier that is
declared everywhere nor the name of an imported package.

The exported identifier is exported exactly if the first letter or digit of the name, where it is
a letter, has an upper-case letter for its upper case. The unexported one is not exported exactly
if that character is not an upper-case letter without a lower case. -/
theorem identifiers_legal (name : Text) :
    (isIdentifier (exported name) = true ∧ exported (exported name) = exported name ∧
      (isExported (exported name) = true ↔
        ∀ c, leading? name = some c → isLetter c = true → isUpper (toUpper c) = true)) ∧
    isIdentifier (unexported name) = true ∧
    (unexported name ∉ keywords ∧ unexported name ∉ predeclared ∧ unexported name ∉ importNames) ∧
    (isExported (unexported name) = false ↔
      ∀ c, leading? name = some c → ¬ (isUpper c = true ∧ toLower c = c)) := by
  obtain ⟨-, -, -, hreserved, himports⟩ := exists_unexported_spelling name
  have hnew : unexported name ∉ keywords ∧ unexported name ∉ predeclared := by
    simpa [isReserved] using hreserved
  refine ⟨⟨isIdentifier_exported name, exported_exported name, isExported_exported_iff name⟩,
    isIdentifier_unexported name, ⟨hnew.1, hnew.2, himports⟩, ?_⟩
  rw [← Bool.not_eq_true, isExported_unexported_iff]
  simp

/-- A name in a script without cases gives no exported identifier, and a letter for a set of
numbers, which has no lower case, gives no unexported one. -/
theorem identifiers_without_case :
    ¬ isExported (exported "\u66f8\u540d") = true ∧ ¬ isExported (unexported "\u211d") = false := by
  decide +kernel

-- Words, digits and names that have a meaning already.
example : exported "1st-page_count" = "X1stPageCount" ∧ unexported "TYPE" = "type_" := by
  decide +kernel

end Accord.Source
