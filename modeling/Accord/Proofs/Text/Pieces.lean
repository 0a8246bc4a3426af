/-
# Pieces of a text

Cutting a text at a byte and joining the pieces again are inverse to each other, as long as
no piece holds the byte. Both directions are needed wherever a text is built from parts and
read back: the pieces of a text give the text, and the parts of a joined text are its pieces.

## Main results

* `Text.join_split`: the pieces of a text make up the text;
* `Text.split_join`: parts without the separator are the pieces of the joined text;
* `Text.split_append`: a separator-free beginning is the first piece;
* `Text.mem_split_iff`: what the pieces of a text are;
* `Text.cut?_eq_some_iff`: the two parts of a text that is cut once;
* `Text.join_splitAtMost`, `Text.splitAtMost_join`: cutting a number of times and joining again;
* `Text.startsWith_iff`, `Text.endsWith_iff`: beginnings and endings.
-/

import Accord.Text.Basic

namespace Accord.Text

variable {sep : UInt8} {t : Text}

/-! ### Pieces -/

/-- A text has at least one piece. -/
theorem split_ne_nil (sep : UInt8) (t : Text) : split sep t ≠ [] := by
  induction t with
  | nil => simp [split]
  | cons b rest ih =>
    unfold split
    split
    · simp
    · split <;> simp

theorem split_cons_self (sep : UInt8) (t : Text) : split sep (sep :: t) = [] :: split sep t := by
  simp [split]

/-- A byte that is not the separator belongs to the first piece. -/
theorem split_cons_of_ne {b : UInt8} (h : b ≠ sep) {piece : Text} {pieces : List Text}
    (hs : split sep t = piece :: pieces) : split sep (b :: t) = (b :: piece) :: pieces := by
  simp [split, h, hs]

/-- No piece holds the separator. -/
theorem not_mem_of_mem_split {piece : Text} (h : piece ∈ split sep t) : sep ∉ piece := by
  induction t generalizing piece with
  | nil =>
    obtain rfl : piece = [] := by simpa [split] using h
    simp
  | cons b rest ih =>
    by_cases hb : b = sep
    · subst hb
      rw [split_cons_self] at h
      rcases List.mem_cons.mp h with rfl | h
      · simp
      · exact ih h
    · -- The byte joins the first piece; the others are pieces of the rest.
      obtain ⟨first, more, hs⟩ := List.exists_cons_of_ne_nil (split_ne_nil sep rest)
      rw [split_cons_of_ne hb hs] at h
      rw [hs] at ih
      rcases List.mem_cons.mp h with rfl | h
      · have hfirst := ih List.mem_cons_self
        simp [Ne.symm hb, hfirst]
      · exact ih (List.mem_cons_of_mem first h)

/-- A text without the separator is its only piece. -/
theorem split_of_not_mem (h : sep ∉ t) : split sep t = [t] := by
  induction t with
  | nil => rfl
  | cons b rest ih =>
    have hb : b ≠ sep := fun e => h (e ▸ List.mem_cons_self)
    exact split_cons_of_ne hb (ih fun hm => h (List.mem_cons_of_mem b hm))

/-- The pieces before a separator come before the pieces after it. -/
theorem split_append_cons (sep : UInt8) (start t : Text) :
    split sep (start ++ sep :: t) = split sep start ++ split sep t := by
  induction start with
  | nil => exact split_cons_self sep t
  | cons b rest ih =>
    by_cases hb : b = sep
    · subst hb
      rw [List.cons_append, split_cons_self, split_cons_self, ih, List.cons_append]
    · obtain ⟨piece, pieces, hs⟩ := List.exists_cons_of_ne_nil (split_ne_nil sep rest)
      rw [split_cons_of_ne hb hs, List.cons_append]
      rw [hs, List.cons_append] at ih
      exact split_cons_of_ne hb ih

/-- A beginning without the separator is the first piece of what it begins. -/
theorem split_append {start : Text} (h : sep ∉ start) (t : Text) :
    split sep (start ++ sep :: t) = start :: split sep t := by
  rw [split_append_cons, split_of_not_mem h]
  rfl

/-! ### Joining -/

/-- Joining with more than one part puts the separator after the first. -/
theorem join_cons {sep : Text} {part : Text} {parts : List Text} (h : parts ≠ []) :
    join sep (part :: parts) = part ++ sep ++ join sep parts := by
  cases parts with
  | nil => exact absurd rfl h
  | cons next rest => rfl

/-- A byte of a joined text is one of the separator or of a part. -/
theorem mem_join {sep : Text} {parts : List Text} {b : UInt8} (h : b ∈ join sep parts) :
    b ∈ sep ∨ ∃ part ∈ parts, b ∈ part := by
  induction parts with
  | nil => cases h
  | cons part parts ih =>
    cases parts with
    | nil => exact .inr ⟨part, List.mem_cons_self, h⟩
    | cons next parts =>
      rw [join_cons (List.cons_ne_nil next parts), List.mem_append, List.mem_append] at h
      rcases h with (h | h) | h
      · exact .inr ⟨part, List.mem_cons_self, h⟩
      · exact .inl h
      · rcases ih h with h | ⟨other, hother, h⟩
        · exact .inl h
        · exact .inr ⟨other, List.mem_cons_of_mem part hother, h⟩

/-- What the first part begins with, the joined text begins with. -/
theorem join_append_first (sep start part : Text) (parts : List Text) :
    join sep ((start ++ part) :: parts) = start ++ join sep (part :: parts) := by
  cases parts with
  | nil => rfl
  | cons next rest => simp [join]

/-- A further part comes after a further separator. -/
theorem join_append_singleton {sep : Text} {parts : List Text} (h : parts ≠ []) (last : Text) :
    join sep (parts ++ [last]) = join sep parts ++ sep ++ last := by
  induction parts with
  | nil => exact absurd rfl h
  | cons part rest ih =>
    cases rest with
    | nil => simp [join]
    | cons next more =>
      rw [List.cons_append, join_cons (by simp), ih (List.cons_ne_nil next more),
        join_cons (List.cons_ne_nil next more)]
      simp

/-- What the last part ends with, the joined text ends with. -/
theorem join_append_last (sep : Text) (parts : List Text) (last ending : Text) :
    join sep (parts ++ [last ++ ending]) = join sep (parts ++ [last]) ++ ending := by
  by_cases h : parts = []
  · subst h
    rfl
  · simp [join_append_singleton h]

/-- The pieces of a text make up the text. -/
theorem join_split (sep : UInt8) (t : Text) : join [sep] (split sep t) = t := by
  induction t with
  | nil => rfl
  | cons b rest ih =>
    by_cases hb : b = sep
    · subst hb
      rw [split_cons_self, join_cons (split_ne_nil b rest), ih]
      rfl
    · obtain ⟨first, more, hs⟩ := List.exists_cons_of_ne_nil (split_ne_nil sep rest)
      have first_byte := join_append_first [sep] [b] first more
      rw [← hs, ih] at first_byte
      rw [split_cons_of_ne hb hs]
      exact first_byte

/-- Cutting a joined text gives the parts in front and the pieces of the last part. -/
theorem split_join_append {parts : List Text} (h : ∀ part ∈ parts, sep ∉ part) (last : Text) :
    split sep (join [sep] (parts ++ [last])) = parts ++ split sep last := by
  induction parts with
  | nil => rfl
  | cons part rest ih =>
    have hpart : sep ∉ part := h part List.mem_cons_self
    have hrest := ih fun q hq => h q (List.mem_cons_of_mem part hq)
    rw [List.cons_append, join_cons (by simp), List.append_assoc, List.singleton_append,
      split_append hpart, hrest, List.cons_append]

/-- Parts without the separator are the pieces of the joined text. -/
theorem split_join {parts : List Text} (hne : parts ≠ []) (h : ∀ part ∈ parts, sep ∉ part) :
    split sep (join [sep] parts) = parts := by
  obtain ⟨front, last, rfl⟩ := List.eq_nil_or_concat parts |>.resolve_left hne
  rw [List.concat_eq_append] at h ⊢
  rw [split_join_append (fun q hq => h q (by simp [hq])), split_of_not_mem (h last (by simp))]

theorem join_append {sep : Text} {front back : List Text} (hfront : front ≠ [])
    (hback : back ≠ []) :
    join sep (front ++ back) = join sep front ++ sep ++ join sep back := by
  induction front with
  | nil => exact absurd rfl hfront
  | cons part rest ih =>
    by_cases hrest : rest = []
    · subst hrest
      exact join_cons hback
    · rw [List.cons_append, join_cons (by simp [hback]), ih hrest, join_cons hrest]
      simp only [List.append_assoc]

/-- With fewer parts, the joined text is not longer. -/
theorem length_join_le {sep : Text} {parts more : List Text} (h : parts.Sublist more) :
    (join sep parts).length ≤ (join sep more).length := by
  induction h with
  | slnil => exact Nat.le_refl _
  | @cons parts more part h ih =>
    by_cases hmore : more = []
    · subst hmore
      obtain rfl := List.sublist_nil.mp h
      exact Nat.zero_le _
    · rw [join_cons hmore, List.length_append]
      omega
  | @cons_cons parts more part h ih =>
    by_cases hmore : more = []
    · subst hmore
      obtain rfl := List.sublist_nil.mp h
      exact Nat.le_refl _
    · rw [join_cons hmore, List.length_append, List.length_append]
      by_cases hparts : parts = []
      · subst hparts
        rw [join]
        omega
      · rw [join_cons hparts, List.length_append, List.length_append]
        omega

/-- The pieces of a text are what stands between two separators or an end, if there is no
separator in it. -/
theorem mem_split_iff {piece : Text} : piece ∈ split sep t ↔
    sep ∉ piece ∧ ∃ before after, t = before ++ piece ++ after ∧
      (before = [] ∨ ∃ front, before = front ++ [sep]) ∧
      (after = [] ∨ ∃ back, after = sep :: back) := by
  constructor
  · intro h
    refine ⟨not_mem_of_mem_split h, ?_⟩
    obtain ⟨front, back, hsplit⟩ := List.append_of_mem h
    have hjoin := join_split sep t
    rw [hsplit] at hjoin
    -- What is before the piece and what is after it, with the separators at the piece.
    have hafter : ∃ after, join [sep] (piece :: back) = piece ++ after ∧
        (after = [] ∨ ∃ rest, after = sep :: rest) := by
      by_cases hback : back = []
      · subst hback
        exact ⟨[], (List.append_nil piece).symm, .inl rfl⟩
      · refine ⟨sep :: join [sep] back, ?_, .inr ⟨_, rfl⟩⟩
        rw [join_cons hback, List.append_assoc, List.singleton_append]
    obtain ⟨after, hpiece, hafter⟩ := hafter
    by_cases hfront : front = []
    · subst hfront
      exact ⟨[], after, by rw [← hjoin]; exact hpiece, .inl rfl, hafter⟩
    · rw [join_append hfront (List.cons_ne_nil piece back), hpiece] at hjoin
      exact ⟨join [sep] front ++ [sep], after, by rw [← hjoin, List.append_assoc _ piece],
        .inr ⟨_, rfl⟩, hafter⟩
  · rintro ⟨hpiece, before, after, rfl, hbefore, hafter⟩
    have hfirst : piece ∈ split sep (piece ++ after) := by
      rcases hafter with rfl | ⟨back, rfl⟩
      · rw [List.append_nil, split_of_not_mem hpiece]
        exact List.mem_singleton.mpr rfl
      · rw [split_append hpiece]
        exact List.mem_cons_self
    rw [List.append_assoc]
    rcases hbefore with rfl | ⟨front, rfl⟩
    · exact hfirst
    · rw [List.append_assoc, List.singleton_append, split_append_cons]
      exact List.mem_append_right _ hfirst

/-! ### Cutting once -/

theorem cut?_append {start : Text} (h : sep ∉ start) (t : Text) :
    cut? sep (start ++ sep :: t) = some (start, t) := by
  induction start with
  | nil => exact if_pos rfl
  | cons b start ih =>
    have hb : b ≠ sep := fun e => h (e ▸ List.mem_cons_self)
    rw [List.cons_append, cut?, if_neg hb, ih fun hm => h (List.mem_cons_of_mem b hm)]
    rfl

/-- A text is cut at the first separator: its two parts make up the text again. -/
theorem cut?_eq_some_iff {left right : Text} :
    cut? sep t = some (left, right) ↔ sep ∉ left ∧ t = left ++ sep :: right := by
  constructor
  · intro h
    induction t generalizing left with
    | nil => cases h
    | cons b rest ih =>
      unfold cut? at h
      split at h
      case isTrue hb =>
        cases h
        exact ⟨List.not_mem_nil, by rw [hb, List.nil_append]⟩
      case isFalse hb =>
        obtain ⟨⟨l, r⟩, hcut, hpair⟩ := Option.map_eq_some_iff.mp h
        cases hpair
        obtain ⟨hl, hrest⟩ := ih hcut
        exact ⟨by simpa using ⟨Ne.symm hb, hl⟩, by rw [hrest, List.cons_append]⟩
  · rintro ⟨hleft, rfl⟩
    exact cut?_append hleft right

/-- A text that cannot be cut does not hold the separator. -/
theorem cut?_eq_none_iff : cut? sep t = none ↔ sep ∉ t := by
  induction t with
  | nil => simp [cut?]
  | cons b rest ih =>
    by_cases hb : b = sep
    · simp [cut?, hb]
    · simp [cut?, hb, ih, Ne.symm hb]

/-! ### Cutting a number of times -/

theorem splitAtMost_ne_nil (sep : UInt8) (n : Nat) (t : Text) :
    splitAtMost sep (n + 1) t ≠ [] := by
  cases n with
  | zero => exact List.cons_ne_nil t []
  | succ n =>
    rw [splitAtMost]
    cases cut? sep t with
    | none => exact List.cons_ne_nil t []
    | some halves => exact List.cons_ne_nil _ _

/-- The pieces make up the text, however many there may be at most. -/
theorem join_splitAtMost (sep : UInt8) (n : Nat) (t : Text) :
    join [sep] (splitAtMost sep (n + 1) t) = t := by
  induction n generalizing t with
  | zero => rfl
  | succ n ih =>
    rw [splitAtMost]
    cases hcut : cut? sep t with
    | none => rfl
    | some halves =>
      have hhalves := (cut?_eq_some_iff.mp hcut).2
      dsimp only
      rw [join_cons (splitAtMost_ne_nil sep n _), ih, hhalves, List.append_assoc,
        List.singleton_append]

/-- Parts without the separator are found again, and the last part may hold separators. -/
theorem splitAtMost_join {parts : List Text} (h : ∀ part ∈ parts, sep ∉ part) (last : Text) :
    splitAtMost sep (parts.length + 1) (join [sep] (parts ++ [last])) = parts ++ [last] := by
  induction parts with
  | nil => rfl
  | cons part parts ih =>
    have hjoin : join [sep] (part :: (parts ++ [last])) =
        part ++ sep :: join [sep] (parts ++ [last]) := by
      rw [join_cons (List.append_ne_nil_of_right_ne_nil _ (List.cons_ne_nil last [])),
        List.append_assoc, List.singleton_append]
    rw [List.cons_append, hjoin, List.length_cons, splitAtMost,
      cut?_append (h part List.mem_cons_self)]
    dsimp only
    rw [ih fun part hpart => h part (List.mem_cons_of_mem _ hpart)]

/-! ### Beginnings and endings -/

theorem dropStart?_append (start t : Text) : dropStart? start (start ++ t) = some t := by
  induction start with
  | nil => rfl
  | cons b start ih => rw [List.cons_append, dropStart?, if_pos rfl, ih]

/-- What follows a beginning makes up the text together with it. -/
theorem dropStart?_eq_some_iff {start rest : Text} :
    dropStart? start t = some rest ↔ t = start ++ rest := by
  constructor
  · intro h
    induction start generalizing t with
    | nil => exact Option.some.inj h
    | cons a start ih =>
      cases t with
      | nil => cases h
      | cons b t =>
        unfold dropStart? at h
        split at h
        case isTrue hab => rw [hab, ih h, List.cons_append]
        case isFalse => cases h
  · rintro rfl
    exact dropStart?_append start rest

theorem startsWith_iff {start : Text} : t.startsWith start = true ↔ start <+: t := by
  unfold startsWith
  rw [Option.isSome_iff_exists]
  constructor
  · rintro ⟨rest, h⟩
    exact ⟨rest, (dropStart?_eq_some_iff.mp h).symm⟩
  · rintro ⟨rest, h⟩
    exact ⟨rest, dropStart?_eq_some_iff.mpr h.symm⟩

theorem endsWith_iff {ending : Text} : t.endsWith ending = true ↔ ending <:+ t := by
  have hreverse : endsWith t ending = startsWith t.reverse ending.reverse := by
    simp [endsWith, dropEnd?, startsWith]
  rw [hreverse, startsWith_iff, List.reverse_prefix]

end Accord.Text
