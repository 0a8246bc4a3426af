/-
# The grammar of JSON

Which texts denote which values, said without the reader: white space may stand between any two
tokens, a string literal is anything between quotes whose escapes are good, and an array or an
object remembers the text it stands for. The reader takes exactly the texts of the grammar. A
text that was read once is therefore read again as the same value, wherever it is put.

## Main definitions

* `Json.Denotes`: what the parts of a JSON text denote;
* `Json.Utf8`: the strings and the keys of a value are well formed.

## Main results

* `Json.Denotes.reads`: what the grammar allows is read, wherever it stands;
* `Json.denotes_of_read`: what is read is allowed by the grammar;
* `Json.Denotes.utf8`: what a well-formed text denotes is well formed throughout.
-/

import Accord.Proofs.Json.Escapes
import Accord.Proofs.Json.Values
import Accord.Proofs.Outcome

namespace Accord.Json

variable {b : UInt8} {t u body source key rest gap gap' : Text} {j : Json} {fuel : Nat}
  {items : List Json} {ms : List (Text × Json)}

/-! ### The grammar -/

/-- What a part of a JSON text denotes. -/
inductive Denotes : Text → Phrase → Prop
  | nullWord : Denotes "null" (.value .null)
  | trueWord : Denotes "true" (.value (.bool true))
  | falseWord : Denotes "false" (.value (.bool false))
  | number {first : UInt8} {tail : Text}
      (hfirst : (first = Text.byte '-' || Text.isDigitByte first) = true)
      (hbytes : ∀ b ∈ first :: tail, isNumberByte b = true)
      (hread : Double.read (first :: tail) ≠ .error .syntaxError) :
      Denotes (first :: tail) (.value (.number (first :: tail)))
  | string {source value : Text} (h : Literal source value) :
      Denotes source (.value (.string source value))
  | emptyArray {gap : Text} (hgap : gap.all isSpace = true) :
      Denotes (Text.byte '[' :: (gap ++ [Text.byte ']']))
        (.value (.array (Text.byte '[' :: (gap ++ [Text.byte ']'])) []))
  | array {gap t : Text} {items : List Json} (hgap : gap.all isSpace = true)
      (h : Denotes t (.items items)) :
      Denotes (Text.byte '[' :: (gap ++ t)) (.value (.array (Text.byte '[' :: (gap ++ t)) items))
  | emptyObject {gap : Text} (hgap : gap.all isSpace = true) :
      Denotes (Text.byte '\x7b' :: (gap ++ [Text.byte '\x7d']))
        (.value (.object (Text.byte '\x7b' :: (gap ++ [Text.byte '\x7d'])) []))
  | object {gap t : Text} {ms : List (Text × Json)} (hgap : gap.all isSpace = true)
      (h : Denotes t (.members ms)) :
      Denotes (Text.byte '\x7b' :: (gap ++ t))
        (.value (.object (Text.byte '\x7b' :: (gap ++ t)) ms))
  | lastItem {t gap : Text} {j : Json} (h : Denotes t (.value j))
      (hgap : gap.all isSpace = true) :
      Denotes (t ++ (gap ++ [Text.byte ']'])) (.items [j])
  | item {t u gap gap' : Text} {j : Json} {items : List Json} (h : Denotes t (.value j))
      (hgap : gap.all isSpace = true) (hgap' : gap'.all isSpace = true)
      (hmore : Denotes u (.items items)) :
      Denotes (t ++ (gap ++ Text.byte ',' :: (gap' ++ u))) (.items (j :: items))
  | member {source key t gap₁ gap₂ gap₃ : Text} {j : Json} (hkey : Literal source key)
      (h₁ : gap₁.all isSpace = true) (h₂ : gap₂.all isSpace = true)
      (h : Denotes t (.value j)) (h₃ : gap₃.all isSpace = true) :
      Denotes (source ++ (gap₁ ++ Text.byte ':' :: (gap₂ ++ (t ++ gap₃)))) (.member key j)
  | lastMember {t key : Text} {j : Json} (h : Denotes t (.member key j)) :
      Denotes (t ++ [Text.byte '\x7d']) (.members [(key, j)])
  | moreMembers {t u gap key : Text} {j : Json} {ms : List (Text × Json)}
      (h : Denotes t (.member key j)) (hgap : gap.all isSpace = true)
      (hmore : Denotes u (.members ms)) :
      Denotes (t ++ Text.byte ',' :: (gap ++ u)) (.members ((key, j) :: ms))

/-- What the grammar allows is read, wherever it stands. -/
theorem Denotes.parsed {p : Phrase} (h : Denotes t p) : Parsed t p := by
  induction h with
  | nullWord => exact reads_null
  | trueWord => exact reads_true
  | falseWord => exact reads_false
  | number hfirst hbytes hread => exact reads_number hfirst hbytes hread
  | string h => exact h.reads
  | emptyArray hgap => exact reads_emptyArray hgap
  | array hgap _ ih => exact reads_array hgap ih
  | emptyObject hgap => exact reads_emptyObject hgap
  | object hgap _ ih => exact reads_object hgap ih
  | lastItem _ hgap ih => exact parsed_lastItem ih hgap
  | item _ hgap hgap' _ ih ihmore => exact parsed_item ih hgap hgap' ihmore
  | member hkey h₁ h₂ _ h₃ ih => exact parsed_member hkey h₁ h₂ ih h₃
  | lastMember _ ih => exact parsed_lastMember ih
  | moreMembers _ hgap _ ih ihmore => exact parsed_moreMembers ih hgap ihmore

theorem Denotes.reads (h : Denotes t (.value j)) : Reads t j := h.parsed

/-! ### What is read is allowed by the grammar -/

theorem denotes_of_numberLiteral
    (hb : (b = Text.byte '-' || Text.isDigitByte b) = true)
    (h : numberLiteral (b :: t) = some (j, source, rest)) :
    b :: t = source ++ rest ∧ Denotes source (.value j) := by
  have hnumber : isNumberByte b = true := by
    have table : ∀ b, (b = Text.byte '-' || Text.isDigitByte b) = true → isNumberByte b = true :=
      Text.forall_byte (by decide +kernel)
    exact table b hb
  have htake : (b :: t).takeWhile isNumberByte = b :: t.takeWhile isNumberByte := by
    simp [hnumber]
  simp only [numberLiteral] at h
  split at h
  · cases h
  · next hread =>
    cases h
    refine ⟨List.takeWhile_append_dropWhile.symm, ?_⟩
    rw [htake] at hread ⊢
    refine .number hb (fun c hc => ?_) hread
    rw [← htake] at hc
    exact List.all_eq_true.mp List.all_takeWhile c hc

theorem eq_of_word {w : Text} {j' : Json} (h : word w j t = some (j', source, rest)) :
    t = source ++ rest ∧ source = w ∧ j' = j := by
  obtain ⟨after, hdrop, heq⟩ := Option.map_eq_some_iff.mp h
  cases heq
  refine ⟨?_, rfl, rfl⟩
  clear h
  fun_induction Text.dropStart? source t with
  | case1 t => exact (Option.some.inj hdrop)
  | case2 => cases hdrop
  | case3 start b t ih => rw [ih hdrop, List.cons_append]
  | case4 => cases hdrop

/-- What the three parts of the reader take with some fuel is allowed by the grammar. -/
structure Sound (fuel : Nat) : Prop where
  value : ∀ {t j source rest}, Json.value fuel t = some (j, source, rest) →
    t = source ++ rest ∧ Denotes source (.value j)
  elements : ∀ {t items source rest}, Json.elements fuel t = some (items, source, rest) →
    t = source ++ rest ∧ Denotes source (.items items)
  members : ∀ {t ms source rest}, Json.members fuel t = some (ms, source, rest) →
    t = source ++ rest ∧ Denotes source (.members ms)

namespace Sound

variable (ih : Sound fuel)

include ih

/-- An array behind its opening bracket. -/
theorem array_succ (h : Json.value (fuel + 1) (Text.byte '[' :: t) = some (j, source, rest)) :
    Text.byte '[' :: t = source ++ rest ∧ Denotes source (.value j) := by
  obtain ⟨gap, inner, hspaces, rfl, hgap⟩ := exists_spaces t
  rw [Json.value.eq_def] at h
  dsimp only at h
  rw [if_neg (by decide), if_pos rfl, hspaces] at h
  cases inner with
  | nil => cases h
  | cons c after =>
    dsimp only at h
    split at h
    · next hc =>
      cases h
      subst hc
      exact ⟨by simp, .emptyArray hgap⟩
    · simp only [Option.bind_eq_bind, Option.bind_eq_some_iff] at h
      obtain ⟨⟨items, inside, after'⟩, helements, heq⟩ := h
      cases heq
      obtain ⟨htext, hitems⟩ := ih.elements helements
      exact ⟨by simp [htext], .array hgap hitems⟩

/-- An object behind its opening brace. -/
theorem object_succ (h : Json.value (fuel + 1) (Text.byte '\x7b' :: t) = some (j, source, rest)) :
    Text.byte '\x7b' :: t = source ++ rest ∧ Denotes source (.value j) := by
  obtain ⟨gap, inner, hspaces, rfl, hgap⟩ := exists_spaces t
  rw [Json.value.eq_def] at h
  dsimp only at h
  rw [if_neg (by decide), if_neg (by decide), if_pos rfl, hspaces] at h
  cases inner with
  | nil => cases h
  | cons c after =>
    dsimp only at h
    split at h
    · next hc =>
      cases h
      subst hc
      exact ⟨by simp, .emptyObject hgap⟩
    · simp only [Option.bind_eq_bind, Option.bind_eq_some_iff] at h
      obtain ⟨⟨ms, inside, after'⟩, hmembers, heq⟩ := h
      cases heq
      obtain ⟨htext, hmembers⟩ := ih.members hmembers
      exact ⟨by simp [htext], .object hgap hmembers⟩

theorem value_succ (h : Json.value (fuel + 1) t = some (j, source, rest)) :
    t = source ++ rest ∧ Denotes source (.value j) := by
  cases t with
  | nil =>
    rw [Json.value.eq_def] at h
    cases h
  | cons b t =>
    -- The first byte tells what kind of value it is.
    by_cases harray : b = Text.byte '['
    · subst harray
      exact ih.array_succ h
    by_cases hobject : b = Text.byte '\x7b'
    · subst hobject
      exact ih.object_succ h
    rw [Json.value.eq_def] at h
    dsimp only at h
    rw [if_neg harray, if_neg hobject] at h
    split at h
    · next hquote =>
      subst hquote
      simp only [Option.bind_eq_bind, Option.bind_eq_some_iff] at h
      obtain ⟨⟨v, literal, after⟩, hstring, heq⟩ := h
      cases heq
      obtain ⟨hliteral, htext⟩ := literal_of_stringAfterQuote hstring
      exact ⟨htext, .string hliteral⟩
    split at h
    · obtain ⟨htext, rfl, rfl⟩ := eq_of_word h
      exact ⟨htext, .nullWord⟩
    split at h
    · obtain ⟨htext, rfl, rfl⟩ := eq_of_word h
      exact ⟨htext, .trueWord⟩
    split at h
    · obtain ⟨htext, rfl, rfl⟩ := eq_of_word h
      exact ⟨htext, .falseWord⟩
    split at h
    · next hnumber => exact denotes_of_numberLiteral hnumber h
    · cases h

theorem elements_succ (h : Json.elements (fuel + 1) t = some (items, source, rest)) :
    t = source ++ rest ∧ Denotes source (.items items) := by
  rw [Json.elements.eq_def] at h
  simp only [Option.bind_eq_bind, Option.bind_eq_some_iff] at h
  obtain ⟨⟨j, first, after⟩, hvalue, h⟩ := h
  obtain ⟨rfl, hj⟩ := ih.value hvalue
  obtain ⟨gap, inner, hspaces, rfl, hgap⟩ := exists_spaces after
  dsimp only at h
  rw [hspaces] at h
  cases inner with
  | nil => cases h
  | cons c inner =>
    dsimp only at h
    split at h
    · next hc =>
      cases h
      subst hc
      refine ⟨by simp, ?_⟩
      rw [List.append_assoc]
      exact .lastItem hj hgap
    split at h
    · next hc =>
      obtain ⟨gap', more, hspaces', rfl, hgap'⟩ := exists_spaces inner
      rw [hspaces'] at h
      simp only [Option.bind_eq_some_iff] at h
      obtain ⟨⟨items, text, after⟩, helements, heq⟩ := h
      cases heq
      obtain ⟨rfl, hitems⟩ := ih.elements helements
      subst hc
      refine ⟨by simp, ?_⟩
      have hdenotes := Denotes.item hj hgap hgap' hitems
      simpa using hdenotes
    · cases h

theorem members_succ (h : Json.members (fuel + 1) t = some (ms, source, rest)) :
    t = source ++ rest ∧ Denotes source (.members ms) := by
  cases t with
  | nil =>
    rw [Json.members.eq_def] at h
    cases h
  | cons q t =>
    rw [Json.members.eq_def] at h
    dsimp only at h
    split at h
    case isFalse => cases h
    next hq =>
    subst hq
    simp only [Option.bind_eq_bind, Option.bind_eq_some_iff] at h
    obtain ⟨⟨key, literal, after⟩, hstring, h⟩ := h
    obtain ⟨hkey, htext⟩ := literal_of_stringAfterQuote hstring
    obtain ⟨gap₁, inner, hspaces, rfl, h₁⟩ := exists_spaces after
    dsimp only at h
    rw [hspaces] at h
    cases inner with
    | nil => cases h
    | cons colon inner =>
      dsimp only at h
      split at h
      case isFalse => cases h
      next hcolon =>
      subst hcolon
      obtain ⟨gap₂, inner', hspaces₂, rfl, h₂⟩ := exists_spaces inner
      rw [hspaces₂] at h
      simp only [Option.bind_eq_some_iff] at h
      obtain ⟨⟨j, text, after⟩, hvalue, h⟩ := h
      obtain ⟨rfl, hj⟩ := ih.value hvalue
      obtain ⟨gap₃, inner, hspaces₃, rfl, h₃⟩ := exists_spaces after
      dsimp only at h
      rw [hspaces₃] at h
      have hmember := Denotes.member hkey h₁ h₂ hj h₃
      rw [htext]
      cases inner with
      | nil => cases h
      | cons c inner =>
        dsimp only at h
        split at h
        · next hc =>
          cases h
          subst hc
          refine ⟨by simp, ?_⟩
          have hdenotes := Denotes.lastMember hmember
          simpa using hdenotes
        split at h
        · next hc =>
          obtain ⟨gap₄, more, hspaces₄, rfl, h₄⟩ := exists_spaces inner
          rw [hspaces₄] at h
          simp only [Option.bind_eq_some_iff] at h
          obtain ⟨⟨ms, text, after⟩, hmembers, heq⟩ := h
          cases heq
          obtain ⟨rfl, hms⟩ := ih.members hmembers
          subst hc
          refine ⟨by simp, ?_⟩
          have hdenotes := Denotes.moreMembers hmember h₄ hms
          simpa using hdenotes
        · cases h

end Sound

theorem sound (fuel : Nat) : Sound fuel := by
  induction fuel with
  | zero =>
    constructor
    · intro t j source rest h
      cases h
    · intro t items source rest h
      cases h
    · intro t ms source rest h
      cases h
  | succ fuel ih => exact ⟨ih.value_succ, ih.elements_succ, ih.members_succ⟩

/-- The strings and the keys of a value are well formed, at every depth. -/
inductive Utf8 : Json → Prop
  | null : Utf8 .null
  | bool (b : Bool) : Utf8 (.bool b)
  | number (literal : Text) : Utf8 (.number literal)
  | string (source : Text) {value : Text} (h : value.isUtf8 = true) : Utf8 (.string source value)
  | array (source : Text) {items : List Json} (h : ∀ j ∈ items, Utf8 j) : Utf8 (.array source items)
  | object (source : Text) {ms : List (Text × Json)} (hkeys : ∀ m ∈ ms, m.1.isUtf8 = true)
      (h : ∀ m ∈ ms, Utf8 m.2) : Utf8 (.object source ms)

/-- What a part of a text denotes is well formed. -/
def Phrase.Utf8 : Phrase → Prop
  | .value j => j.Utf8
  | .items items => ∀ j ∈ items, j.Utf8
  | .member key j => key.isUtf8 = true ∧ j.Utf8
  | .members ms => ∀ m ∈ ms, m.1.isUtf8 = true ∧ m.2.Utf8

theorem lt_of_isSpace (h : isSpace b = true) : b < 0x80 := by
  have table : ∀ b, isSpace b = true → b < 0x80 := Text.forall_byte (by decide +kernel)
  exact table b h

theorem isUtf8_gap_append (hgap : gap.all isSpace = true) (t : Text) :
    Text.isUtf8 (gap ++ t) = t.isUtf8 := by
  induction gap with
  | nil => rfl
  | cons b gap ih =>
    rw [List.all_cons, Bool.and_eq_true] at hgap
    rw [List.cons_append, Text.isUtf8_cons_of_ascii (lt_of_isSpace hgap.1), ih hgap.2]

theorem isUtf8_append_gap (hgap : gap.all isSpace = true) (t : Text) :
    Text.isUtf8 (t ++ gap) = t.isUtf8 := by
  cases gap with
  | nil => rw [List.append_nil]
  | cons b gap =>
    rw [List.all_cons, Bool.and_eq_true] at hgap
    have hrest := isUtf8_gap_append hgap.2 []
    rw [List.append_nil] at hrest
    rw [Text.isUtf8_append_ascii (lt_of_isSpace hgap.1), hrest]
    exact Bool.and_true _

/-- White space and a byte of punctuation behind a part of a text. -/
theorem isUtf8_append_punctuation (hgap : gap.all isSpace = true) (hb : b < 0x80) (t rest : Text) :
    Text.isUtf8 (t ++ (gap ++ b :: rest)) = (t.isUtf8 && rest.isUtf8) := by
  rw [← List.append_assoc, Text.isUtf8_append_ascii hb, isUtf8_append_gap hgap]

theorem Literal.isUtf8 {value : Text} (h : Literal source value) (hsource : source.isUtf8 = true) :
    value.isUtf8 = true := by
  obtain ⟨body, rfl, -, hvalue⟩ := h
  rw [Text.isUtf8_cons_of_ascii (by decide), Text.isUtf8_append_ascii (by decide),
    Bool.and_eq_true] at hsource
  exact isUtf8_of_unescape hsource.1 hvalue

/-- What a well-formed text denotes is well formed throughout. -/
theorem Denotes.utf8 {p : Phrase} (h : Denotes t p) (ht : t.isUtf8 = true) : p.Utf8 := by
  induction h with
  | nullWord => exact .null
  | trueWord => exact .bool true
  | falseWord => exact .bool false
  | number => exact .number _
  | string h => exact .string _ (h.isUtf8 ht)
  | emptyArray => exact .array _ (by simp)
  | array hgap _ ih =>
    rw [Text.isUtf8_cons_of_ascii (by decide), isUtf8_gap_append hgap] at ht
    exact .array _ (ih ht)
  | emptyObject => exact .object _ (by simp) (by simp)
  | object hgap _ ih =>
    rw [Text.isUtf8_cons_of_ascii (by decide), isUtf8_gap_append hgap] at ht
    exact .object _ (fun m hm => (ih ht m hm).1) fun m hm => (ih ht m hm).2
  | lastItem _ hgap ih =>
    rw [isUtf8_append_punctuation hgap (by decide), Bool.and_eq_true] at ht
    exact List.forall_mem_singleton.mpr (ih ht.1)
  | item _ hgap hgap' _ ih ihmore =>
    rw [isUtf8_append_punctuation hgap (by decide), Bool.and_eq_true, isUtf8_gap_append hgap'] at ht
    exact List.forall_mem_cons.mpr ⟨ih ht.1, ihmore ht.2⟩
  | member hkey h₁ h₂ _ h₃ ih =>
    rw [isUtf8_append_punctuation h₁ (by decide), Bool.and_eq_true, isUtf8_gap_append h₂,
      isUtf8_append_gap h₃] at ht
    exact ⟨hkey.isUtf8 ht.1, ih ht.2⟩
  | lastMember _ ih =>
    rw [Text.isUtf8_append_ascii (by decide), Bool.and_eq_true] at ht
    exact List.forall_mem_singleton.mpr (ih ht.1)
  | moreMembers _ hgap _ ih ihmore =>
    rw [Text.isUtf8_append_ascii (by decide), Bool.and_eq_true, isUtf8_gap_append hgap] at ht
    exact List.forall_mem_cons.mpr ⟨ih ht.1, ihmore ht.2⟩

end Accord.Json
