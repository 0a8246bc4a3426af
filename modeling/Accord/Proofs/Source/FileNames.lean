/-
# What file names are made of

The names of a contract may hold any characters, but little of them is left in the paths of the
generated files. Identifiers are made of letters, digits and underscores, and neither changing
the case of letters nor writing an identifier in snake case puts anything else into it. The same
is true of the names of packages. So no byte that has a meaning in a path ever comes from a name.

## Main definitions

* `Text.isMark`: the code points below the letters that are not those of digits;
* `Text.Plain`: a text without such characters.

## Main results

* `Text.isMark_mapCase`: characters do not become marks when they change their case;
* `Source.plain_of_mem_candidates`: the spellings of identifiers are plain;
* `Source.plain_snake`: the snake case of a plain text is plain;
* `Source.plain_packageName`: the names of packages are plain.
-/

import Accord.Proofs.Source.Identifiers
import Accord.Proofs.Text.Cases
import Accord.Source.Package

namespace Accord

namespace Text

/-! ### Marks -/

/-- The code points below the letters that are not those of digits. All separators are among
them. -/
def isMark (code : Nat) : Bool := code < 65 && !(48 ≤ code && code ≤ 57)

theorem isMark_of_le {code : Nat} (h : 65 ≤ code) : isMark code = false := by
  simp [isMark, Nat.not_lt.mpr h]

/-- A text without marks. -/
def Plain (t : Text) : Prop := ∀ b ∈ t, isMark b.toNat = false

variable {t u : Text} {cs : List Char} {c : Char}

theorem plain_iff_all : t.Plain ↔ t.all (fun b => !isMark b.toNat) = true := by
  simp [Plain]

instance (t : Text) : Decidable t.Plain := decidable_of_iff _ plain_iff_all.symm

theorem plain_append_iff : Plain (t ++ u) ↔ t.Plain ∧ u.Plain := by
  simp only [Plain, List.mem_append]
  exact ⟨fun h => ⟨fun b hb => h b (.inl hb), fun b hb => h b (.inr hb)⟩,
    fun h b hb => hb.elim (h.1 b) (h.2 b)⟩

/-- A plain text does not hold a byte that is a mark. -/
theorem Plain.not_mem (h : t.Plain) {b : UInt8} (hb : isMark b.toNat = true) : b ∉ t := by
  intro hmem
  rw [h b hmem] at hb
  cases hb

theorem plain_ofChars (h : ∀ c ∈ cs, isMark c.toNat = false) : Plain (ofChars cs) := by
  intro b hb
  obtain ⟨c, hc, hb⟩ := List.mem_flatMap.mp hb
  rcases mem_utf8EncodeChar hb with ⟨-, hcode⟩ | hhigh
  · rw [hcode]
    exact h c hc
  · exact isMark_of_le (by omega)

theorem Plain.chars (h : t.Plain) (hc : c ∈ t.chars) : isMark c.toNat = false := by
  obtain ⟨s, hs, rfl⟩ := List.mem_map.mp hc
  cases s with
  | stray b => rfl
  | char c =>
    -- Marks are encoded by one byte, which would be in the text.
    by_cases hhigh : 65 ≤ c.toNat
    · exact isMark_of_le hhigh
    · have hcode : c.toNat ≤ 127 := by omega
      have hbytes : (Symbol.char c).bytes = [UInt8.ofNat c.toNat] := by
        rw [Symbol.bytes, utf8EncodeChar_eq rfl]
        exact if_pos hcode
      have hmem : UInt8.ofNat c.toNat ∈ t := by
        rw [← bytes_symbols t]
        exact List.mem_flatMap.mpr ⟨_, hs, by simp [hbytes]⟩
      have hmark := h _ hmem
      rwa [toNat_ofNat_of_lt (by omega)] at hmark

/-! ### Upper and lower case -/

/-- Characters do not become marks when they change their case. -/
theorem isMark_mapCase {table : List (Nat × Nat × Nat × Int)}
    (htable : ∀ run ∈ table, isRaised run = true) (h : isMark c.toNat = false) :
    isMark (mapCase table c).toNat = false := by
  rcases mapCase_cases htable c with ⟨hsame, -⟩ | ⟨run, hrun, -, htarget⟩
  · rw [hsame]
    exact h
  · exact isMark_of_le (Nat.le_trans (le_first_target (htable run hrun)) htarget.1)

theorem isMark_toUpper (h : isMark c.toNat = false) : isMark (toUpper c).toNat = false :=
  isMark_mapCase agrees_upperRuns.raised h

theorem isMark_toLower (h : isMark c.toNat = false) : isMark (toLower c).toNat = false :=
  isMark_mapCase agrees_lowerRuns.raised h

end Text

namespace Source

open Text (Plain isMark)

variable {t name ident c : Text}

/-! ### Identifiers -/

/-- No mark stands in a word. -/
theorem isMark_of_isWordChar {c : Char} (h : isWordChar c = true) : isMark c.toNat = false := by
  have table : ∀ code : Fin 65, isMark code = true → isWordChar (Char.ofNat code) = false := by
    decide +kernel
  by_contra hmark
  rw [Bool.not_eq_false] at hmark
  have hlt : c.toNat < 65 := by
    simp only [isMark, Bool.and_eq_true, decide_eq_true_eq] at hmark
    exact hmark.1
  have hnot := table ⟨c.toNat, hlt⟩ hmark
  rw [Char.ofNat_toNat, h] at hnot
  cases hnot

/-- Words are made of word characters. -/
theorem isWordChar_of_mem_wordsFrom {word cs w : List Char} {c : Char}
    (hword : ∀ c ∈ word, isWordChar c = true) (hw : w ∈ wordsFrom word cs) (hc : c ∈ w) :
    isWordChar c = true := by
  -- The word that is being read goes on, or ends here, or has not begun.
  induction cs generalizing word with
  | nil =>
    unfold wordsFrom at hw
    split at hw
    · cases hw
    · obtain rfl := List.mem_singleton.mp hw
      exact hword c (List.mem_reverse.mp hc)
  | cons d rest ih =>
    unfold wordsFrom at hw
    split at hw
    case isTrue hd =>
      refine ih (fun x hx => ?_) hw
      rcases List.mem_cons.mp hx with rfl | hx
      · exact hd
      · exact hword x hx
    case isFalse =>
      split at hw
      · exact ih (by simp) hw
      · rcases List.mem_cons.mp hw with rfl | hw
        · exact hword c (List.mem_reverse.mp hc)
        · exact ih (by simp) hw

/-- The exported identifier of any name is plain. -/
theorem plain_exported (name : Text) : (exported name).Plain := by
  have hident : ∀ c ∈ (words name).flatMap (changeFirst Text.toUpper), isMark c.toNat = false := by
    intro c hc
    obtain ⟨w, hw, hc⟩ := List.mem_flatMap.mp hc
    have hword : ∀ x ∈ w, isMark x.toNat = false := fun x hx =>
      isMark_of_isWordChar (isWordChar_of_mem_wordsFrom (by simp) hw hx)
    cases w with
    | nil => cases hc
    | cons first rest =>
      rcases List.mem_cons.mp hc with rfl | hc
      · exact Text.isMark_toUpper (hword first List.mem_cons_self)
      · exact hword c (List.mem_cons_of_mem first hc)
  unfold exported
  refine Text.plain_ofChars ?_
  split
  · exact hident
  · intro c hc
    rcases List.mem_cons.mp hc with rfl | hc
    · rfl
    · exact hident c hc

/-- The spellings of an identifier are plain. -/
theorem plain_of_mem_candidates (h : c ∈ Scope.candidates name) (hname : name.Plain) :
    c.Plain := by
  obtain ⟨ending, rfl, hending, -⟩ := Scope.exists_ending_of_mem_candidates h
  refine Text.plain_append_iff.mpr ⟨hname, fun b hb => ?_⟩
  have hbyte := hending b hb
  simp only [Scope.isEndingByte, Bool.or_eq_true, decide_eq_true_eq] at hbyte
  rcases hbyte with rfl | hdigit
  · rfl
  · simp only [Text.isDigitByte, Bool.and_eq_true, decide_eq_true_eq,
      UInt8.le_iff_toNat_le] at hdigit
    have hrange : 48 ≤ b.toNat ∧ b.toNat ≤ 57 := hdigit
    simp [isMark, hrange]

theorem isMark_of_mem_snakeFrom {before : Option Char} {cs : List Char} {c : Char}
    (hcs : ∀ c ∈ cs, isMark c.toNat = false) (hc : c ∈ snakeFrom before cs) :
    isMark c.toNat = false := by
  induction cs generalizing before with
  | nil => cases hc
  | cons d rest ih =>
    have hd := hcs d List.mem_cons_self
    -- The character may change its case, and an underscore may come before it.
    unfold snakeFrom at hc
    rcases List.mem_append.mp hc with hc | hc
    · split at hc
      · rcases List.mem_append.mp hc with hc | hc
        · split at hc
          · obtain rfl := List.mem_singleton.mp hc
            rfl
          · cases hc
        · obtain rfl := List.mem_singleton.mp hc
          exact Text.isMark_toLower hd
      · obtain rfl := List.mem_singleton.mp hc
        exact hd
    · exact ih (fun x hx => hcs x (List.mem_cons_of_mem d hx)) hc

/-- The snake case of a plain text is plain. -/
theorem plain_snake (h : ident.Plain) : (snake ident).Plain :=
  Text.plain_ofChars fun _ hc => isMark_of_mem_snakeFrom (fun _ hx => h.chars hx) hc

/-! ### Packages -/

/-- The name of a package is plain, whatever it is made from. -/
theorem plain_packageName (t : Text) : (packageName t).Plain ∧ packageName t ≠ [] := by
  have hchars : ∀ c ∈ t.lower.chars.filter isPackageChar, isMark c.toNat = false := by
    intro c hc
    have hpackage := (List.mem_filter.mp hc).2
    simp only [isPackageChar, Bool.and_eq_true] at hpackage
    exact isMark_of_isWordChar hpackage.2
  have hplain := Text.plain_ofChars hchars
  -- What may be put before or after these characters is plain too.
  have hfixed : Plain "api" ∧ Plain "p" ∧ Plain "_" := by decide
  unfold packageName
  dsimp only
  split
  · exact ⟨hfixed.1, by decide⟩
  · next c rest hcs =>
    have hne : Text.ofChars (t.lower.chars.filter isPackageChar) ≠ [] := by
      rw [hcs]
      simp [Text.ofChars, String.utf8EncodeChar_ne_nil]
    split
    · exact ⟨Text.plain_append_iff.mpr ⟨hfixed.2.1, hplain⟩, by simp [hne]⟩
    · split
      · exact ⟨Text.plain_append_iff.mpr ⟨hplain, hfixed.2.2⟩, by simp [hne]⟩
      · exact ⟨hplain, hne⟩

end Source

end Accord
