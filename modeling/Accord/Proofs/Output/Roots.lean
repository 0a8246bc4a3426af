/-
# Paths inside the root

A sink takes `.` and the paths that are spelled canonically: segments that stand for themselves,
with slashes between them. Below a directory, such a path leads to the directory or to a place
inside it, whatever the directory is.

The directory makes sure of that once more: it looks for its own path and a slash at the start of
the target. This second look never refuses a path below a directory that has a name. The root of
the file system has none, its path ends in a slash already, and the look for another one refuses
every path but `.`.

## Main definitions

* `Path.Canonical`: one segment or more, each of which stands for itself;
* `Path.OnDrive`: a path that starts with a letter and a colon;
* `Path.Below`: a place inside a directory.

## Main results

* `Output.checkPath_eq_ok_iff`: the paths that a sink takes;
* `Path.exists_elements_of_clean`: the absolute paths that are their own shortest spelling;
* `Path.join_rooted`: a canonical path below such a path;
* `Directory.resolve_inside_iff`: where a path that a sink takes leads.
-/

import Accord.Proofs.Output.Targets

namespace Accord

namespace Path

/-- One segment or more, each of which stands for itself, with slashes between them. -/
def Canonical (p : Text) : Prop :=
  ∃ segments, segments ≠ [] ∧ (∀ s ∈ segments, Element s) ∧ p = Text.join "/" segments

/-- A path that starts with an ASCII letter and a colon. -/
def OnDrive (p : Text) : Prop :=
  ∃ letter rest, p = letter :: Text.byte ':' :: rest ∧
    (Text.byte 'A' ≤ letter ∧ letter ≤ Text.byte 'Z' ∨
      Text.byte 'a' ≤ letter ∧ letter ≤ Text.byte 'z')

/-- A place inside a directory: the segments of the directory come first, and at least one
follows. -/
def Below (dir target : Text) : Prop :=
  ∃ es ps : List Text, (∀ e ∈ es ++ ps, Element e) ∧ ps ≠ [] ∧
    dir = slash :: Text.join "/" es ∧ target = slash :: Text.join "/" (es ++ ps)

/-- The only segment of `.` does not stand for itself. -/
theorem not_canonical_dot : ¬ Canonical "." := by
  rintro ⟨segments, hne, helements, hjoin⟩
  have hsplit := split_join_elements hne helements
  rw [← hjoin] at hsplit
  have hmem : Text.ofString "." ∈ segments := by
    rw [← hsplit]
    exact List.mem_singleton.mpr rfl
  exact (helements _ hmem).ne_dot rfl

end Path

/-! ### What a sink takes -/

namespace Output

open Accord.Path (Canonical OnDrive)

variable {p : Text}

theorem hasDriveLetter_iff : hasDriveLetter p = true ↔ OnDrive p := by
  have hletter (b : UInt8) : Text.isLetterByte b = true ↔
      Text.byte 'A' ≤ b ∧ b ≤ Text.byte 'Z' ∨ Text.byte 'a' ≤ b ∧ b ≤ Text.byte 'z' := by
    simp [Text.isLetterByte, Text.isUpperByte, Text.isLowerByte]
  constructor
  · intro h
    unfold hasDriveLetter at h
    split at h
    case h_2 => cases h
    case h_1 letter colon rest =>
      rw [Bool.and_eq_true, decide_eq_true_eq, hletter] at h
      exact ⟨letter, rest, by rw [h.2], h.1⟩
  · rintro ⟨letter, rest, rfl, hbetween⟩
    rw [hasDriveLetter, Bool.and_eq_true, hletter]
    exact ⟨hbetween, rfl⟩

/-- No path that a sink takes is one on a drive. -/
theorem not_onDrive_of_checkPath (h : checkPath p = .ok ()) : ¬ OnDrive p := by
  rw [← hasDriveLetter_iff]
  intro hdrive
  unfold checkPath at h
  simp only [hdrive, Bool.or_true, if_true] at h
  split at h <;> cases h

/-- A sink takes `.`, and otherwise exactly the canonical paths that are not on a drive. -/
theorem checkPath_eq_ok_iff (p : Text) :
    checkPath p = .ok () ↔ p = "." ∨ Canonical p ∧ ¬ OnDrive p := by
  constructor
  · intro h
    rcases checkPath_cases h with hdot | hcanonical
    · exact .inl hdot
    · exact .inr ⟨hcanonical, not_onDrive_of_checkPath h⟩
  · rintro (rfl | ⟨⟨segments, hne, helements, rfl⟩, hdrive⟩)
    · rfl
    · apply checkPath_of_elements hne helements
      rw [← Bool.not_eq_true, hasDriveLetter_iff]
      exact hdrive

/-- A sink takes `.` although it has no segment that stands for itself. -/
theorem checkPath_dot : ¬ (checkPath "." = .ok () ↔ Canonical "." ∧ ¬ OnDrive ".") := by
  intro hiff
  exact Path.not_canonical_dot (hiff.mp rfl).1

end Output

/-! ### Absolute paths -/

namespace Path

variable {t : Text} {es ps : List Text}

/-- A step from the root keeps segments that stand for themselves, and only those. -/
theorem step_elements {sofar : List Text} (h : ∀ e ∈ sofar, Element e) {piece : Text}
    (hslash : slash ∉ piece) : ∀ e ∈ step true sofar piece, Element e := by
  intro e he
  unfold step at he
  split at he
  · exact h e he
  case isFalse hkept =>
    have hkept : piece ≠ [] ∧ piece ≠ "." := by simpa using hkept
    split at he
    · -- What `..` takes back is not `..` itself.
      split at he
      · simp at he
      case h_2 last rest =>
        rw [if_neg (h last List.mem_cons_self).ne_dots] at he
        exact h e (List.mem_cons_of_mem last he)
    case isFalse hdots =>
      rcases List.mem_cons.mp he with rfl | he
      · exact ⟨hkept.1, hslash, hkept.2, hdots⟩
      · exact h e he

theorem foldl_step_elements {pieces sofar : List Text} (hpieces : ∀ piece ∈ pieces, slash ∉ piece)
    (h : ∀ e ∈ sofar, Element e) : ∀ e ∈ pieces.foldl (step true) sofar, Element e := by
  induction pieces generalizing sofar with
  | nil => exact h
  | cons piece rest ih =>
    rw [List.foldl_cons]
    apply ih fun q hq => hpieces q (List.mem_cons_of_mem piece hq)
    exact step_elements h (hpieces piece List.mem_cons_self)

/-- The shortest spelling of an absolute path. -/
theorem clean_rooted (rest : Text) : clean (slash :: rest) =
    slash :: Text.join "/" ((Text.split slash rest).foldl (step true) []).reverse := by
  unfold clean
  rw [Text.split_cons_self]
  rfl

/-- An absolute path that is its own shortest spelling consists of segments that stand for
themselves. -/
theorem exists_elements_of_clean (habsolute : t.head? = some slash) (hclean : clean t = t) :
    ∃ es, (∀ e ∈ es, Element e) ∧ t = slash :: Text.join "/" es := by
  obtain ⟨rest, rfl⟩ : ∃ rest, t = slash :: rest := List.head?_eq_some_iff.mp habsolute
  rw [clean_rooted] at hclean
  refine ⟨_, ?_, hclean.symm⟩
  intro e he
  refine foldl_step_elements (fun piece hp => Text.not_mem_of_mem_split hp) ?_ e
    (List.mem_reverse.mp he)
  simp

/-- The segments of a path are those it was made of; a path without segments has an empty one,
which does not count. -/
theorem foldl_split_join (h : ∀ e ∈ es, Element e) (rooted : Bool) :
    (Text.split slash (Text.join "/" es)).foldl (step rooted) [] = es.reverse := by
  by_cases hes : es = []
  · subst hes
    rfl
  · rw [split_join_elements hes h, foldl_step h, List.append_nil]

/-- The segments of a path come after those of the directory that it is joined to. -/
theorem join_rooted (hes : ∀ e ∈ es, Element e) (hps : ∀ e ∈ ps, Element e) (hne : ps ≠ []) :
    join [slash :: Text.join "/" es, Text.join "/" ps] = slash :: Text.join "/" (es ++ ps) := by
  rw [join_pair (List.cons_ne_nil _ _) (join_ne_nil hne hps), List.cons_append, clean_rooted,
    Text.split_append_cons, List.foldl_append, foldl_split_join hes, split_join_elements hne hps,
    foldl_step hps, List.reverse_append, List.reverse_reverse, List.reverse_reverse]

theorem join_dot (hne : t ≠ []) (hclean : clean t = t) : join [t, "."] = t := by
  rw [join_pair hne (by decide), clean_append_dot hne, hclean]

/-- Paths of segments that stand for themselves are the same only if their segments are. -/
theorem join_inj (hes : ∀ e ∈ es, Element e) (hps : ∀ e ∈ ps, Element e)
    (h : Text.join "/" es = Text.join "/" ps) : es = ps := by
  rw [← List.reverse_inj, ← foldl_split_join hes true, h, foldl_split_join hps true]

/-- The path of a directory and a slash begin what is below it, unless the directory is the root of
the file system. -/
theorem startsWith_below_iff (es : List Text) (hps : ∀ e ∈ ps, Element e) (hne : ps ≠ []) :
    Text.startsWith (slash :: Text.join "/" (es ++ ps)) (slash :: Text.join "/" es ++ "/") = true ↔
      es ≠ [] := by
  rw [Text.startsWith_iff]
  constructor
  · rintro hstart rfl
    -- Below the root there would have to be two slashes in a row.
    obtain ⟨rest, hrest⟩ := hstart
    have hbelow : slash :: rest = Text.join "/" ps := (List.cons.inj hrest).2
    exact head?_join_ne hps (hbelow ▸ rfl)
  · intro hes
    rw [Text.join_append hes hne]
    exact ⟨Text.join "/" ps, rfl⟩

end Path

/-! ### Targets -/

namespace Directory

open Accord.Path (slash)

variable {d : Directory} {p : Text}

/-- A path of segments below an absolute directory leads to the segments of both, or is refused if
the directory has none. -/
theorem resolve_elements {es ps : List Text} (hroot : d.root = slash :: Text.join "/" es)
    (hes : ∀ e ∈ es, Path.Element e) (hps : ∀ e ∈ ps, Path.Element e) (hne : ps ≠ []) :
    d.resolve (Text.join "/" ps) =
      if es = [] then
        .error (.plain ("path escapes root directory: " ++ (Text.join "/" ps).quote))
      else .ok (slash :: Text.join "/" (es ++ ps)) := by
  have hother : slash :: Text.join "/" (es ++ ps) ≠ slash :: Text.join "/" es := by
    intro heq
    have hsame := Path.join_inj (fun e he => (List.mem_append.mp he).elim (hes e) (hps e)) hes
      (List.cons.inj heq).2
    exact hne (List.append_right_eq_self.mp hsame)
  have hstart := Path.startsWith_below_iff es hps hne
  rw [resolve_eq, hroot, Path.join_rooted hes hps hne]
  by_cases htop : es = []
  · rw [if_pos htop, if_neg]
    rw [not_or, hstart]
    exact ⟨hother, not_not.mpr htop⟩
  · rw [if_neg htop, if_pos (.inr (hstart.mpr htop))]

/-- Below an absolute directory, a path that a sink takes leads to the directory or to a place
inside it. The directory finds the path to do so exactly if it is not the root of the file system
or the path is `.`, and otherwise takes it for one that leads outside. -/
theorem resolve_inside_iff (habsolute : d.root.head? = some slash)
    (hclean : Path.clean d.root = d.root) (hpath : Output.checkPath p = .ok ()) :
    (Path.join [d.root, p] = d.root ∨ Path.Below d.root (Path.join [d.root, p])) ∧
      (d.resolve p = .ok (Path.join [d.root, p]) ↔ d.root ≠ "/" ∨ p = ".") ∧
      (d.resolve p = .error (.plain ("path escapes root directory: " ++ p.quote)) ↔
        d.root = "/" ∧ p ≠ ".") := by
  obtain ⟨es, hes, hroot⟩ := Path.exists_elements_of_clean habsolute hclean
  rcases Output.checkPath_cases hpath with rfl | ⟨ps, hne, hps, rfl⟩
  · -- The directory itself is what `.` leads to.
    have hne : d.root ≠ [] := by
      rw [hroot]
      exact List.cons_ne_nil _ _
    rw [resolve_eq, Path.join_dot hne hclean, if_pos (.inl rfl)]
    simp
  · have hjoin : Path.join [d.root, Text.join "/" ps] = slash :: Text.join "/" (es ++ ps) := by
      rw [hroot]
      exact Path.join_rooted hes hps hne
    have hdot : Text.join "/" ps ≠ "." := fun heq =>
      Path.not_canonical_dot ⟨ps, hne, hps, heq.symm⟩
    -- The root of the file system is the directory without segments.
    have htop : d.root = "/" ↔ es = [] := by
      rw [hroot]
      constructor
      · intro heq
        exact Path.join_inj hes (by simp) (List.cons.inj heq).2
      · rintro rfl
        rfl
    refine ⟨.inr ⟨es, ps, ?_, hne, hroot, hjoin⟩, ?_⟩
    · intro e he
      exact (List.mem_append.mp he).elim (hes e) (hps e)
    · rw [hjoin, resolve_elements hroot hes hps hne, Ne, htop]
      by_cases hes' : es = []
      · simp [hes', hdot]
      · simp [hes']

/-- A nested path below a directory that has a name. -/
theorem resolve_inside_iff_nested :
    (Directory.mk "/srv/out" 0o644 false).resolve "catalog/book.conjure.go" =
        .ok "/srv/out/catalog/book.conjure.go" ∧
      Path.Below "/srv/out" "/srv/out/catalog/book.conjure.go" := by
  have hjoin : Path.join ["/srv/out", "catalog/book.conjure.go"] =
      Text.ofString "/srv/out/catalog/book.conjure.go" := by decide +kernel
  have hother : Text.ofString "/srv/out/catalog/book.conjure.go" ≠ Text.ofString "/srv/out" := by
    decide +kernel
  have h := @resolve_inside_iff ⟨"/srv/out", 0o644, false⟩ "catalog/book.conjure.go" rfl
    (by decide +kernel) (by decide +kernel)
  rw [hjoin, or_iff_right hother] at h
  exact ⟨h.2.1.mpr (.inl (by decide)), h.1⟩

/-- At the root of the file system the manifest is refused, although its path leads there. -/
theorem resolve_top_refused :
    Output.checkPath "conjure-manifest.json" = .ok () ∧ Path.clean "/" = Text.ofString "/" ∧
      Path.join ["/", "conjure-manifest.json"] = Text.ofString "/conjure-manifest.json" ∧
      (Directory.mk "/" 0o644 false).resolve "conjure-manifest.json" =
        .error (.plain ("path escapes root directory: " ++ Text.quote "conjure-manifest.json")) := by
  refine ⟨by decide +kernel, by decide +kernel, by decide +kernel, ?_⟩
  rw [resolve_eq, if_neg (by decide +kernel)]

end Directory

end Accord
