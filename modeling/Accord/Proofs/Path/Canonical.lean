/-
# The canonical spelling of a template

A segment is spelled as it was read, so that reading the spelling of a template gives the template
again. Templates that were read are therefore the same exactly if they are spelled the same.

## Main results

* `Template.Piece.text_eq`: a segment is spelled as it was read;
* `Template.piece_of_parse`: the segments of a template that was read are read from their spellings;
* `Template.parse_text`: the spelling of a template that was read is read as that template.
-/

import Accord.Proofs.Path.Grammar

namespace Accord

namespace Template

variable {isPattern : Text → Bool} {t : Template} {pieces : List Text}

/-! ### Segments -/

/-- A segment is spelled as the piece it was read from. -/
theorem Piece.text_eq {piece : Text} {segment : Segment} (h : Piece isPattern piece segment) :
    segment.text = piece := by
  have hopening : ("\x7b" : Text) = [opening] := rfl
  have hclosing : ("\x7d" : Text) = [closing] := rfl
  have hcolon : (":" : Text) = [Text.byte ':'] := rfl
  cases h.spelled with
  | fixed => rfl
  | parameter hp =>
    cases hp with
    | plain => rfl
    | patterned => simp [Segment.text, Parameter.text, hopening, hclosing, hcolon]

/-- Segments are spelled as the pieces they were read from. -/
theorem map_text_of_pieces (h : List.Forall₂ (Piece isPattern) pieces t) :
    t.map Segment.text = pieces := by
  induction h with
  | nil => rfl
  | cons hpiece _ ih => rw [List.map_cons, hpiece.text_eq, ih]

theorem ne_nil_of_pieces (hne : pieces ≠ []) (h : List.Forall₂ (Piece isPattern) pieces t) :
    t ≠ [] := by
  intro hnil
  rw [← map_text_of_pieces h, hnil] at hne
  exact hne rfl

/-- The segments of a template that was read are read from their spellings. -/
theorem piece_of_parse {template : Text} (h : parseWith isPattern template = .ok t) :
    ∀ s ∈ t, Piece isPattern s.text s := by
  suffices hpieces : List.Forall₂ (Piece isPattern) (t.map Segment.text) t by
    rwa [List.forall₂_map_left_iff, List.forall₂_same] at hpieces
  cases parseWith_eq_ok_iff.mp h with
  | nothing => exact .nil
  | slash => exact .nil
  | pieces _ h => rwa [map_text_of_pieces h]
  | trailing _ h => rwa [map_text_of_pieces h]

/-! ### Templates -/

/-- The canonical spelling joins the spellings of the segments. -/
theorem text_eq_join {t : Template} (h : t ≠ []) :
    t.text = slash :: Text.join [slash] (t.map Segment.text) := by
  have general (s : Segment) (rest : Template) :
      (s :: rest).flatMap (fun s => slash :: s.text) =
        slash :: Text.join [slash] ((s :: rest).map Segment.text) := by
    induction rest generalizing s with
    | nil => simp [Text.join]
    | cons next rest ih =>
      have hmore : (next :: rest).map Segment.text ≠ [] := by simp
      rw [List.flatMap_cons, ih next, List.map_cons (a := s), Text.join_cons hmore]
      simp
  obtain ⟨s, rest, rfl⟩ := List.exists_cons_of_ne_nil h
  exact general s rest

/-- The spelling of a template that was read is read as that template. -/
theorem parse_text {template : Text} (h : parseWith isPattern template = .ok t) :
    parseWith isPattern t.text = .ok t := by
  by_cases hnil : t = []
  · subst hnil
    rfl
  · rw [text_eq_join hnil, parseWith_eq_ok_iff]
    refine .pieces (by simpa using hnil) ?_
    rw [List.forall₂_map_left_iff, List.forall₂_same]
    exact piece_of_parse h

/-- Templates that were read are spelled the same only if they are the same. -/
theorem text_inj {template template' : Text} {t' : Template}
    (h : parseWith isPattern template = .ok t) (h' : parseWith isPattern template' = .ok t') :
    t.text = t'.text ↔ t = t' := by
  constructor
  · intro htext
    have hread := parse_text h
    rw [htext, parse_text h'] at hread
    exact (Except.ok.inj hread).symm
  · rintro rfl
    rfl

end Template

end Accord
