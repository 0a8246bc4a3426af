/-
# Printing a template

Many texts spell one template, but they differ only in the slash at their end: the spelling that
is printed is the text that was read, without that slash. It is read as the template that was
printed. Texts can therefore be compared by their printed forms instead of the templates that they
spell.

## Main definitions

* `Template.canonical`: a text without the slash at its end, unless that is all there is.

## Main results

* `Template.map_text_of_pieces`: the segments of a template are spelled as the pieces they were
  read from;
* `Template.text_of_spelled`: a template is printed as its canonical text;
* `Template.text_eq_canonical`: the same for the reader, and what equal texts say about templates.
-/

import Accord.Proofs.Path.Canonical
import Accord.Proofs.Path.RoundTrip

namespace Accord.Template

variable {isPattern : Text → Bool} {s s' : Text} {t t' : Template} {pieces : List Text}

/-- A text without the slash that it may end in. A slash alone stays, and stands for no text at
all as well. -/
def canonical (s : Text) : Text :=
  if s.isEmpty || s == [slash] then [slash]
  else if s.getLast? = some slash then s.dropLast else s

/-! ### Pieces -/

/-- A joined text ends as its last piece does, which is not with a slash. -/
theorem getLast?_join_ne (hne : pieces ≠ []) (h : ∀ piece ∈ pieces, piece ≠ [] ∧ slash ∉ piece) :
    (slash :: Text.join [slash] pieces).getLast? ≠ some slash := by
  obtain ⟨front, last, rfl⟩ := (List.eq_nil_or_concat pieces).resolve_left hne
  rw [List.concat_eq_append] at h ⊢
  obtain ⟨hlast, hslash⟩ := h last (by simp)
  obtain ⟨body, b, rfl⟩ := (List.eq_nil_or_concat last).resolve_left hlast
  rw [List.concat_eq_append] at hslash ⊢
  have hb : b ≠ slash := by
    intro heq
    apply hslash
    simp [heq]
  rw [Text.join_append_last, ← List.cons_append, List.getLast?_concat]
  exact fun hsome => hb (Option.some.inj hsome)

theorem ne_nil_and_slash_not_mem (h : List.Forall₂ (Piece isPattern) pieces t) :
    ∀ piece ∈ pieces, piece ≠ [] ∧ slash ∉ piece := by
  induction h with
  | nil => simp
  | cons hpiece _ ih =>
    exact List.forall_mem_cons.mpr ⟨⟨hpiece.ne_nil, hpiece.slash_not_mem⟩, ih⟩

/-! ### Templates -/

/-- A text that goes on after the first slash and does not end with one is canonical. -/
theorem canonical_of_getLast? {rest : Text} (hrest : rest ≠ [])
    (hlast : (slash :: rest).getLast? ≠ some slash) :
    canonical (slash :: rest) = slash :: rest := by
  have hmore : ((slash :: rest).isEmpty || (slash :: rest) == [slash]) = false := by simp [hrest]
  rw [canonical, hmore, if_neg Bool.false_ne_true, if_neg hlast]

/-- The slash at the end of a text is left out. -/
theorem canonical_concat_slash {s : Text} (h : s ≠ []) : canonical (s ++ [slash]) = s := by
  have hmore : ((s ++ [slash]).isEmpty || (s ++ [slash]) == [slash]) = false := by simp [h]
  rw [canonical, hmore, if_neg Bool.false_ne_true, if_pos List.getLast?_concat,
    List.dropLast_concat]

/-- A template is printed as the text that spells it, without the slash at its end. -/
theorem text_of_spelled (h : Spelled isPattern s t) : t.text = canonical s := by
  cases h with
  | nothing => rfl
  | slash => rfl
  | @pieces pieces t hne h =>
    have hlast := getLast?_join_ne hne (ne_nil_and_slash_not_mem h)
    rw [canonical_of_getLast? (join_ne_nil_of_forall₂ hne h) hlast,
      text_eq_join (ne_nil_of_pieces hne h), map_text_of_pieces h]
  | @trailing pieces t hne h =>
    rw [canonical_concat_slash (List.cons_ne_nil _ _), text_eq_join (ne_nil_of_pieces hne h),
      map_text_of_pieces h]

/-- A template that was read is printed as the text it was read from, without the slash at its
end. What is printed is read as the same template. So two texts that are read differ at most in
that slash exactly if they spell the same template, whatever texts count as patterns. -/
theorem text_eq_canonical (h : parseWith isPattern s = .ok t)
    (h' : parseWith isPattern s' = .ok t') :
    t.text = canonical s ∧ parseWith isPattern t.text = .ok t ∧
      (canonical s = canonical s' ↔ t = t') := by
  have htext := text_of_spelled (parseWith_eq_ok_iff.mp h)
  have htext' := text_of_spelled (parseWith_eq_ok_iff.mp h')
  refine ⟨htext, parse_text h, ?_⟩
  rw [← htext, ← htext']
  exact text_inj h h'

/-- A pattern with a colon and a counted repetition is printed as it was read, and a slash at the
end makes no difference. -/
theorem text_eq_canonical_repetition :
    ∃ t, parse "/a/\x7bid:x:[0-9]\x7b2,3\x7d\x7d" = .ok t ∧
      parse "/a/\x7bid:x:[0-9]\x7b2,3\x7d\x7d/" = .ok t ∧
      t.text = "/a/\x7bid:x:[0-9]\x7b2,3\x7d\x7d" ∧ parse t.text = .ok t ∧
      canonical "/a/\x7bid:x:[0-9]\x7b2,3\x7d\x7d" =
        canonical "/a/\x7bid:x:[0-9]\x7b2,3\x7d\x7d/" := by
  have h : parse "/a/\x7bid:x:[0-9]\x7b2,3\x7d\x7d" =
      .ok [.fixed "a", .parameter ⟨"id", some "x:[0-9]\x7b2,3\x7d"⟩] := by rfl
  have h' : parse "/a/\x7bid:x:[0-9]\x7b2,3\x7d\x7d/" =
      .ok [.fixed "a", .parameter ⟨"id", some "x:[0-9]\x7b2,3\x7d"⟩] := by rfl
  obtain ⟨htext, hread, hiff⟩ := text_eq_canonical h h'
  exact ⟨_, h, h', htext, hread, hiff.mpr rfl⟩

end Accord.Template
