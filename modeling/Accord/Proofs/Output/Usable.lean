/-
# Usable paths

A path whose elements all stand for themselves is its own shortest spelling, and a sink takes it
as it is if there is no colon in it. The paths of generated files are of this kind: the name of a
file comes below the names of packages, and all of them are plain.

## Main definitions

* `Path.Element`: an element of a path that stands for itself.

## Main results

* `Path.clean_join`: a path of such elements is its own shortest spelling;
* `Output.checkPath_of_elements`: a sink takes it, unless it starts like one on a drive;
* `Generate.checkPath_unitPath`: the paths of generated files are of this kind.
-/

import Accord.Output.Sink
import Accord.Proofs.Generate.Paths
import Accord.Proofs.Source.FileNames

namespace Accord

namespace Path

variable {e : Text} {es : List Text}

/-- An element of a path that stands for itself. -/
structure Element (e : Text) : Prop where
  ne_nil : e ≠ []
  slash_not_mem : slash ∉ e
  ne_dot : e ≠ "."
  ne_dots : e ≠ ".."

/-- Plain texts stand for themselves, since dots and slashes are marks. -/
theorem Element.of_plain (h : e.Plain) (hne : e ≠ []) : Element e where
  ne_nil := hne
  slash_not_mem := h.not_mem rfl
  ne_dot := by
    rintro rfl
    exact h.not_mem (b := Text.byte '.') rfl (by decide)
  ne_dots := by
    rintro rfl
    exact h.not_mem (b := Text.byte '.') rfl (by decide)

theorem Element.step (h : Element e) (rooted : Bool) (sofar : List Text) :
    Path.step rooted sofar e = e :: sofar := by
  simp [Path.step, h.ne_nil, h.ne_dot, h.ne_dots]

theorem foldl_step (h : ∀ e ∈ es, Element e) (rooted : Bool) (sofar : List Text) :
    es.foldl (step rooted) sofar = es.reverse ++ sofar := by
  induction es generalizing sofar with
  | nil => rfl
  | cons e rest ih =>
    rw [List.foldl_cons, (h e List.mem_cons_self).step,
      ih fun x hx => h x (List.mem_cons_of_mem e hx), List.reverse_cons, List.append_assoc]
    rfl

theorem split_join_elements (hne : es ≠ []) (h : ∀ e ∈ es, Element e) :
    Text.split slash (Text.join "/" es) = es :=
  Text.split_join hne fun e he => (h e he).slash_not_mem

theorem join_ne_nil (hne : es ≠ []) (h : ∀ e ∈ es, Element e) : Text.join "/" es ≠ [] := by
  intro hnil
  -- An empty path would have one element, which is empty.
  have hsplit := split_join_elements hne h
  rw [hnil] at hsplit
  exact (h [] (hsplit ▸ List.mem_singleton.mpr rfl)).ne_nil rfl

/-- A path of elements that stand for themselves does not start at the root. -/
theorem head?_join_ne (h : ∀ e ∈ es, Element e) : (Text.join "/" es).head? ≠ some slash := by
  cases es with
  | nil => simp [Text.join]
  | cons e rest =>
    obtain ⟨b, tail, rfl⟩ := List.exists_cons_of_ne_nil (h e List.mem_cons_self).ne_nil
    have hb : b ≠ slash := by
      rintro rfl
      exact (h _ List.mem_cons_self).slash_not_mem List.mem_cons_self
    have hhead : (Text.join "/" ((b :: tail) :: rest)).head? = some b := by
      cases rest <;> rfl
    rw [hhead]
    exact fun heq => hb (Option.some.inj heq)

/-- A path of elements that stand for themselves is its own shortest spelling. -/
theorem clean_join (hne : es ≠ []) (h : ∀ e ∈ es, Element e) :
    clean (Text.join "/" es) = Text.join "/" es := by
  unfold clean
  simp only [head?_join_ne h, split_join_elements hne h, foldl_step h, List.append_nil,
    List.reverse_reverse, List.isEmpty_iff, join_ne_nil hne h, if_false]

/-- An element below a path of elements. -/
theorem join_concat (h : ∀ e ∈ es, Element e) (he : Element e) :
    join [Text.join "/" es, e] = Text.join "/" (es ++ [e]) := by
  have hall : ∀ x ∈ es ++ [e], Element x := by
    intro x hx
    rcases List.mem_append.mp hx with hx | hx
    · exact h x hx
    · obtain rfl := List.mem_singleton.mp hx
      exact he
  rw [← clean_join (by simp) hall]
  -- A path without elements is left out.
  by_cases hes : es = []
  · subst hes
    simp [join, Text.join, he.ne_nil]
  · have hkept : [Text.join "/" es, e].filter (!·.isEmpty) = [Text.join "/" es, e] := by
      simp [join_ne_nil hes h, he.ne_nil]
    rw [join, hkept, Text.join_append_singleton hes]
    rfl

end Path

namespace Output

variable {es : List Text}

/-- A sink takes every path of elements that stand for themselves, unless it starts like one on a
drive. -/
theorem checkPath_of_elements (hne : es ≠ []) (h : ∀ e ∈ es, Path.Element e)
    (hdrive : hasDriveLetter (Text.join "/" es) = false) :
    checkPath (Text.join "/" es) = .ok () := by
  have hdots : ¬ (Text.split Path.slash (Text.join "/" es)).contains ".." = true := by
    rw [Path.split_join_elements hne h, List.contains_iff_mem]
    exact fun hmem => (h _ hmem).ne_dots rfl
  unfold checkPath
  simp only [Path.head?_join_ne h, hdrive, hdots, Path.clean_join hne h, List.isEmpty_iff,
    Path.join_ne_nil hne h, decide_false, Bool.or_self, Bool.false_eq_true, if_false, ne_eq,
    not_true_eq_false]

/-- A sink takes every path of elements that stand for themselves, if there is no colon in it. -/
theorem checkPath_join (hne : es ≠ []) (h : ∀ e ∈ es, Path.Element e)
    (hcolon : ∀ e ∈ es, Text.byte ':' ∉ e) : checkPath (Text.join "/" es) = .ok () := by
  have hpath : Text.byte ':' ∉ Text.join "/" es := by
    intro hmem
    rcases Text.mem_join hmem with hmem | ⟨e, he, hmem⟩
    · exact absurd hmem (by decide)
    · exact hcolon e he hmem
  apply checkPath_of_elements hne h
  -- A drive letter would be followed by a colon.
  unfold hasDriveLetter
  split
  case h_2 => rfl
  case h_1 letter colon rest heq =>
    rw [heq] at hpath
    have hne : colon ≠ Text.byte ':' := by
      rintro rfl
      exact hpath (by simp)
    simp [hne]

end Output

/-! ### Generated files -/

namespace Source

/-- The directory of a package is a path of elements that stand for themselves. -/
theorem exists_dir_eq (l : PackageLayout) (package : Text) :
    ∃ es : List Text, (l.package package).dir = Text.join "/" es ∧
      ∀ e ∈ es, e.Plain ∧ e ≠ [] := by
  unfold PackageLayout.package
  split
  · exact ⟨[], rfl, by simp⟩
  · refine ⟨_, rfl, fun e he => ?_⟩
    obtain ⟨part, -, rfl⟩ := List.mem_map.mp he
    exact plain_packageName part

end Source

namespace Generate

/-- The name of the file of a plain identifier. -/
theorem element_numbered {base : Text} (h : base.Plain) (n : Nat) :
    Path.Element (base ++ ending n) ∧ Text.byte ':' ∉ base ++ ending n := by
  have hlength : 2 < (base ++ ending n).length := by
    have : 2 < (ending n).length := two_lt_length_ending n
    rw [List.length_append]
    omega
  have hshort {short : Text} (hle : short.length ≤ 2) : base ++ ending n ≠ short := by
    intro heq
    rw [heq] at hlength
    omega
  refine ⟨⟨hshort (by decide), ?_, hshort (by decide), hshort (by decide)⟩, ?_⟩
  · rw [List.mem_append, not_or]
    exact ⟨h.not_mem rfl, slash_not_mem_ending n⟩
  · rw [List.mem_append, not_or]
    exact ⟨h.not_mem rfl, colon_not_mem_ending n⟩

/-- The path of the file of a plain identifier can be used, and ends as those of all generated
files. -/
theorem checkPath_unitPath (l : Source.PackageLayout) (package : Text) {ident : Text}
    (h : ident.Plain) (taken : List Text) :
    Output.checkPath (unitPath (l.package package).dir ident taken) = .ok () ∧
      ∃ start, unitPath (l.package package).dir ident taken = start ++ ".conjure.go" := by
  obtain ⟨es, hdir, hes⟩ := Source.exists_dir_eq l package
  obtain ⟨n, hn⟩ := exists_unitPath_eq (l.package package).dir ident taken
  obtain ⟨hname, hcolon⟩ := element_numbered (Source.plain_snake h) n
  have hpath : unitPath (l.package package).dir ident taken =
      Text.join "/" (es ++ [Source.snake ident ++ ending n]) := by
    rw [hn, hdir]
    exact Path.join_concat (fun e he => .of_plain (hes e he).1 (hes e he).2) hname
  rw [hpath]
  constructor
  · apply Output.checkPath_join (by simp)
    · intro e he
      rcases List.mem_append.mp he with he | he
      · exact .of_plain (hes e he).1 (hes e he).2
      · obtain rfl := List.mem_singleton.mp he
        exact hname
    · intro e he
      rcases List.mem_append.mp he with he | he
      · exact (hes e he).1.not_mem rfl
      · obtain rfl := List.mem_singleton.mp he
        exact hcolon
  · rw [Text.join_append_last]
    unfold ending
    exact ⟨_, (List.append_assoc _ _ _).symm⟩

end Generate

end Accord
