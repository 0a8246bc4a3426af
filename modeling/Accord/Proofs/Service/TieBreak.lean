/-
# Why the shorter template is taken

Two templates with the same ranks, as far as the shorter one goes, are told apart by their length,
and the shorter one is taken. This never hides a route that fits a path better. Only the last
segment of a template has the lowest rank, so that the shorter of the two does not end in the rest
of the path, and a path that it matches has just as many parts as it has segments. The longer one
has then a segment too many, and matches only because that segment stands for the rest of the path
and there is no rest.

## Main results

* `Template.endsInRest_eq_false_of_continued`: where ranks go on, no rest of the path stands;
* `Template.fit?_of_length_lt`: how a path with too few parts is matched;
* `Template.lookup_of_matchPartsWith?_concat`: the value of a parameter that comes last;
* `Template.longer_through_empty_rest`: when a path is matched by both templates.
-/

import Accord.Proofs.Path.RoundTrip
import Accord.Proofs.Service.Precedence

namespace Accord.Template

variable {a b t front : Template} {s : Segment} {p : Parameter} {acc values : Values}
  {full : Text → Text → Bool}
  {parts fitted : List Text} {path part : Text}

/-! ### The lowest rank -/

theorem length_ranks (t : Template) : t.ranks.length = t.length := by
  induction t with
  | nil => rfl
  | cons s rest ih => rw [ranks, List.length_cons, List.length_cons, ih]

/-- All segments but the last are ranked as such. -/
theorem ranks_concat (front : Template) (s : Segment) :
    ranks (front ++ [s]) = front.map (rank false) ++ [rank true s] := by
  induction front with
  | nil => rfl
  | cons next rest ih =>
    have hmore : (rest ++ [s]).isEmpty = false := by simp
    rw [List.cons_append, ranks, ih, hmore, List.map_cons, List.cons_append]

theorem rank_ne_zero (s : Segment) : rank false s ≠ 0 := by
  cases s with
  | fixed text => simp [rank]
  | parameter p => cases hp : p.pattern <;> simp [rank, hp]

/-- A template that ends in the rest of the path has a segment of the lowest rank. -/
theorem zero_mem_ranks (h : t.endsInRest = true) : 0 ∈ t.ranks := by
  rcases List.eq_nil_or_concat t with rfl | ⟨front, s, rfl⟩
  · cases h
  · rw [List.concat_eq_append, endsInRest_append] at h
    rw [List.concat_eq_append, ranks_concat]
    cases s with
    | fixed text => cases h
    | parameter p =>
      obtain ⟨pattern, hp⟩ := Option.isSome_iff_exists.mp h
      simp [rank, hp]

/-- The lowest rank comes last, so that a template whose ranks are continued by another one does
not end in the rest of the path. -/
theorem endsInRest_eq_false_of_continued (h : a.ranks <+: b.ranks) (hlength : a.length < b.length) :
    a.endsInRest = false := by
  rw [Bool.eq_false_iff]
  intro hrest
  have hb : b ≠ [] := List.ne_nil_of_length_pos (by omega)
  obtain ⟨front, s, rfl⟩ := (List.eq_nil_or_concat b).resolve_left hb
  rw [List.concat_eq_append, ranks_concat] at h
  -- The shorter template has its ranks from segments of the longer one that are not its last.
  have hfront : a.ranks <+: front.map (rank false) := by
    refine List.prefix_of_prefix_length_le h (List.prefix_append _ _) ?_
    simp only [List.concat_eq_append, List.length_append, List.length_singleton] at hlength
    rw [length_ranks, List.length_map]
    omega
  obtain ⟨s', -, hzero⟩ := List.mem_map.mp (hfront.subset (zero_mem_ranks hrest))
  exact rank_ne_zero s' hzero

/-- Ranks that are continued are above their continuation. -/
theorem ranksAbove_append (ranks : List Nat) {more : List Nat} (h : more ≠ []) :
    ranksAbove ranks (ranks ++ more) = true := by
  induction ranks with
  | nil =>
    obtain ⟨r, rest, rfl⟩ := List.exists_cons_of_ne_nil h
    rfl
  | cons r rest ih => simpa [ranksAbove] using ih

theorem moreSpecific_of_continued (h : a.ranks <+: b.ranks) (hlength : a.length < b.length) :
    a.moreSpecific b = true := by
  obtain ⟨more, hmore⟩ := h
  rw [moreSpecific, ← hmore]
  refine ranksAbove_append a.ranks ?_
  rintro rfl
  rw [List.append_nil] at hmore
  rw [← length_ranks a, ← length_ranks b, hmore] at hlength
  exact absurd hlength (Nat.lt_irrefl _)

theorem continued_of_forall (h : ∀ i < a.length, a.ranks[i]? = b.ranks[i]?) :
    a.ranks <+: b.ranks := by
  rw [List.prefix_iff_getElem?]
  intro i hi
  rw [← h i (length_ranks a ▸ hi), List.getElem?_eq_getElem hi]

/-! ### Paths with too few parts -/

/-- Without a rest of the path there are as many parts as segments. -/
theorem length_of_fit? (h : t.fit? parts = some fitted) (hrest : t.endsInRest = false) :
    parts.length = t.length := by
  by_contra hlength
  rw [fit?_eq_none hlength hrest] at h
  cases h

/-- A path with fewer parts than there are segments lacks one part only, and that is the rest of
the path, which is empty. -/
theorem fit?_of_length_lt (h : t.fit? parts = some fitted) (hlength : parts.length < t.length) :
    t.endsInRest = true ∧ parts.length + 1 = t.length ∧ fitted = parts ++ [[]] := by
  have hrest : t.endsInRest = true := by
    by_contra hrest
    have := length_of_fit? h (Bool.eq_false_iff.mpr hrest)
    omega
  rw [fit?, if_neg (by omega), hrest, Bool.not_true, if_neg (by simp), if_neg (by omega)] at h
  split at h
  case isTrue hone => exact ⟨hrest, hone, (Option.some.inj h).symm⟩
  case isFalse => cases h

theorem exists_parts_of_matchPath? (h : t.matchPath? path = some values) :
    ∃ parts fitted, partsOf? path = some parts ∧ t.fit? parts = some fitted ∧
      matchPartsWith? fullMatch [] t fitted = some values := by
  simp only [matchPath?, matchPathWith?, Option.bind_eq_bind, Option.bind_eq_some_iff] at h
  obtain ⟨parts, hparts, fitted, hfitted, hmatch⟩ := h
  exact ⟨parts, fitted, hparts, hfitted, hmatch⟩

/-! ### The last parameter -/

/-- One segment is matched with one part, and the others with the others. -/
theorem exists_matchPartsWith?_of_cons
    (h : matchPartsWith? full acc (s :: t) (part :: parts) = some values) :
    ∃ acc', matchPartsWith? full acc' t parts = some values := by
  cases s with
  | fixed text =>
    rw [matchPartsWith?] at h
    exact ⟨acc, (Option.ite_none_right_eq_some.mp h).2⟩
  | parameter p =>
    rw [matchPartsWith?] at h
    split at h
    case h_1 v hv => exact ⟨_, (Option.ite_none_right_eq_some.mp h).2⟩
    case h_2 => cases h

/-- A parameter that comes last has the value of the last part, also if it shares its name with
others. -/
theorem lookup_of_matchPartsWith?_concat (hlength : front.length = parts.length)
    (h : matchPartsWith? full acc (front ++ [.parameter p]) (parts ++ [part]) = some values) :
    ∃ v, unescapeValue? part = some v ∧ takesWith full p v = true ∧ values.lookup p.name = some v := by
  -- Whatever values the segments in front have left, the last one is put in after them.
  induction front generalizing acc parts with
  | nil =>
    obtain rfl := List.eq_nil_of_length_eq_zero hlength.symm
    rw [List.nil_append, List.nil_append, matchPartsWith?] at h
    split at h
    case h_1 v hv =>
      obtain ⟨htakes, hvalues⟩ := Option.ite_none_right_eq_some.mp h
      cases hvalues
      exact ⟨v, hv, htakes, by rw [Text.lookup_upsert, if_pos rfl]⟩
    case h_2 => cases h
  | cons s rest ih =>
    cases parts with
    | nil => cases hlength
    | cons first parts =>
      obtain ⟨acc', h⟩ := exists_matchPartsWith?_of_cons h
      exact ih (Nat.succ.inj hlength) h

/-! ### Two templates for one path -/

/-- **The longer template matched an empty rest.** Suppose that two templates match a path and
that the shorter one has the ranks of the longer one as far as it goes. Then the longer one has
one segment more, which is a parameter with a pattern. The path has as many parts as the shorter
template has segments, and in the match of the longer one the value of its last parameter is
empty. It is the shorter one that is taken. -/
theorem longer_through_empty_rest {a b : Template} {path : Text} {found values : Values}
    (ha : a.matchPath? path = some found) (hb : b.matchPath? path = some values)
    (hlength : a.length < b.length) (hranks : ∀ i < a.length, a.ranks[i]? = b.ranks[i]?) :
    b.length = a.length + 1 ∧
    (∃ parts, partsOf? path = some parts ∧ parts.length = a.length ∧
      b.fit? parts = some (parts ++ [[]])) ∧
    (∃ front p, b = front ++ [.parameter p] ∧ p.pattern.isSome = true ∧
      takesWith fullMatch p [] = true ∧ values.lookup p.name = some []) ∧
    a.moreSpecific b = true := by
  have hcontinued := continued_of_forall hranks
  obtain ⟨parts, fitted, hparts, hfitted, -⟩ := exists_parts_of_matchPath? ha
  have hcount : parts.length = a.length :=
    length_of_fit? hfitted (endsInRest_eq_false_of_continued hcontinued hlength)
  obtain ⟨parts', fitted', hparts', hfitted', hmatch⟩ := exists_parts_of_matchPath? hb
  obtain rfl : parts = parts' := Option.some.inj (hparts.symm.trans hparts')
  obtain ⟨hrest, hone, rfl⟩ := fit?_of_length_lt hfitted' (by omega)
  refine ⟨by omega, ⟨parts, hparts, hcount, hfitted'⟩, ?_, moreSpecific_of_continued hcontinued hlength⟩
  -- The last segment of the longer template meets the part that was put there.
  have hne : b ≠ [] := List.ne_nil_of_length_pos (by omega)
  obtain ⟨front, s, rfl⟩ := (List.eq_nil_or_concat b).resolve_left hne
  rw [List.concat_eq_append] at hrest hone hmatch
  rw [endsInRest_append] at hrest
  rw [List.length_append, List.length_singleton] at hone
  cases s with
  | fixed text => cases hrest
  | parameter p =>
    obtain ⟨v, hv, htakes, hlookup⟩ := lookup_of_matchPartsWith?_concat (by omega) hmatch
    obtain rfl : v = [] := (Option.some.inj hv).symm
    exact ⟨front, p, List.concat_eq_append, hrest, htakes, hlookup⟩

/-- The path of a shelf. -/
def shelf : Template := [.parameter ⟨"shelf", none⟩]

/-- The path of anything on a shelf, which may be the shelf itself. -/
def onShelf : Template := [.parameter ⟨"shelf", none⟩, .parameter ⟨"rest", some ".*"⟩]

/-- Both templates match the path of a shelf, and the rest is empty. -/
theorem longer_through_empty_rest_shelf :
    (shelf.matchPath? "/poetry/").isSome = true ∧
      (∃ values, onShelf.matchPath? "/poetry/" = some values ∧ ∃ front p,
        onShelf = front ++ [.parameter p] ∧ values.lookup p.name = some []) ∧
      shelf.moreSpecific onShelf = true := by
  have hshelf : (shelf.matchPath? "/poetry/").isSome = true := by decide +kernel
  have honShelf : (onShelf.matchPath? "/poetry/").isSome = true := by decide +kernel
  have hranks : ∀ i < shelf.length, shelf.ranks[i]? = onShelf.ranks[i]? := by decide
  obtain ⟨found, hfound⟩ := Option.isSome_iff_exists.mp hshelf
  obtain ⟨values, hvalues⟩ := Option.isSome_iff_exists.mp honShelf
  obtain ⟨-, -, ⟨front, p, hshape, -, -, hlookup⟩, htaken⟩ :=
    longer_through_empty_rest hfound hvalues (by decide) hranks
  exact ⟨hshelf, ⟨values, hvalues, front, p, hshape, hlookup⟩, htaken⟩

end Accord.Template
