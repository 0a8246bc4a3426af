/-
# Where files end up

The paths that a sink takes are `.` and the paths of elements that stand for themselves. Below a
directory, such a path leads to a target that ends in the same elements, so that the name of the
file written is the last element of the path. Only `.` leads to the directory itself.

## Main results

* `Path.foldl_step_sublist`, `Path.length_clean_le`: the shortest spelling is made of pieces of
  the path, and not longer than it;
* `Output.checkPath_cases`: what the paths that a sink takes look like;
* `Directory.resolve_cases`: the target of such a path;
* `Directory.endsWith_of_resolve`: an ending of the target is one of the path.
-/

import Accord.Output.Directory
import Accord.Proofs.Output.Usable

namespace Accord

/-! ### Shortest spellings -/

namespace Path

variable {t : Text} {es : List Text}

/-- A step adds the element, or nothing, or takes the last one back. -/
theorem step_sublist (rooted : Bool) (sofar : List Text) (e : Text) :
    (step rooted sofar e).Sublist (e :: sofar) := by
  unfold step
  split
  · exact List.sublist_cons_self e sofar
  · split
    · split
      · split
        · exact List.nil_sublist _
        · exact List.Sublist.refl _
      case h_2 last rest =>
        split
        · exact List.Sublist.refl _
        · exact ((List.sublist_cons_self last rest).trans (List.sublist_cons_self e _))
    · exact List.Sublist.refl _

/-- What is kept of the pieces of a path are some of them, in their order. -/
theorem foldl_step_sublist (rooted : Bool) (pieces sofar : List Text) :
    (pieces.foldl (step rooted) sofar).Sublist (pieces.reverse ++ sofar) := by
  induction pieces generalizing sofar with
  | nil => exact List.Sublist.refl _
  | cons e rest ih =>
    rw [List.foldl_cons, List.reverse_cons, List.append_assoc]
    exact (ih _).trans ((step_sublist rooted sofar e).append_left _)

/-- The elements kept of a path, joined, are not longer than its pieces joined. -/
theorem length_join_foldl_step_le (rooted : Bool) (pieces : List Text) :
    (Text.join "/" (pieces.foldl (step rooted) []).reverse).length ≤
      (Text.join "/" pieces).length := by
  apply Text.length_join_le
  have := (foldl_step_sublist rooted pieces []).reverse
  rwa [List.append_nil, List.reverse_reverse] at this

/-- The shortest spelling of a path is not longer than the path. -/
theorem length_clean_le (h : t ≠ []) : (clean t).length ≤ t.length := by
  unfold clean
  by_cases hrooted : t.head? = some slash
  · -- The first piece of a path that starts at the root is empty and not kept.
    obtain ⟨rest, rfl⟩ : ∃ rest, t = slash :: rest := List.head?_eq_some_iff.mp hrooted
    have hle := length_join_foldl_step_le true (Text.split slash rest)
    rw [show Text.join "/" (Text.split slash rest) = rest from Text.join_split slash rest] at hle
    rw [Text.split_cons_self]
    simpa [step] using hle
  · have hle := length_join_foldl_step_le false (Text.split slash t)
    rw [show Text.join "/" (Text.split slash t) = t from Text.join_split slash t] at hle
    have hpos : 1 ≤ t.length := List.length_pos_iff.mpr h
    simp only [hrooted, decide_false, if_false]
    split
    · exact hpos
    · exact hle

/-- Without `..`, the pieces that stand for themselves are kept. -/
theorem foldl_step_of_not_mem {pieces : List Text} (h : (".." : Text) ∉ pieces) (rooted : Bool)
    (sofar : List Text) : pieces.foldl (step rooted) sofar =
      (pieces.filter fun e : Text => !(e.isEmpty || e = ".")).reverse ++ sofar := by
  induction pieces generalizing sofar with
  | nil => rfl
  | cons e rest ih =>
    rw [List.mem_cons, not_or] at h
    rw [List.foldl_cons, ih h.2]
    unfold step
    by_cases he : (e.isEmpty || e = ".") = true
    · rw [if_pos he, List.filter_cons_of_neg (by simp [he])]
    · rw [if_neg he, if_neg (Ne.symm h.1), List.filter_cons_of_pos (by simp [he]),
        List.reverse_cons, List.append_assoc]
      rfl

/-- Two paths that are not empty, one below the other. -/
theorem join_pair {below : Text} (ht : t ≠ []) (hbelow : below ≠ []) :
    join [t, below] = clean (t ++ slash :: below) := by
  have hboth : [t, below].filter (!·.isEmpty) = [t, below] := by simp [ht, hbelow]
  rw [join, hboth, Text.join_cons (by simp), List.append_assoc]
  rfl

/-- A path below another one starts where that one starts. -/
theorem head?_append_slash (h : t ≠ []) (rel : Text) : (t ++ slash :: rel).head? = t.head? := by
  obtain ⟨b, rest, rfl⟩ := List.exists_cons_of_ne_nil h
  rfl

/-- The path `.` below another one is that one. -/
theorem clean_append_dot (h : t ≠ []) : clean (t ++ slash :: ".") = clean t := by
  have hstep (rooted : Bool) (sofar : List Text) :
      (Text.split slash ".").foldl (step rooted) sofar = sofar := rfl
  unfold clean
  dsimp only
  rw [head?_append_slash h, Text.split_append_cons, List.foldl_append, hstep]

/-- Elements that stand for themselves stay at the end of a path, and what comes in front of them
depends on the path above them only. -/
theorem exists_front (ht : t ≠ []) :
    ∃ front, (front = [] ∨ ∃ start, front = start ++ [slash]) ∧
      ∀ es : List Text, es ≠ [] → (∀ e ∈ es, Element e) →
        clean (t ++ slash :: Text.join "/" es) = front ++ Text.join "/" es := by
  let kept := ((Text.split slash t).foldl (step (t.head? = some slash)) []).reverse
  -- The elements kept of the path above may be none.
  obtain ⟨front, hfront, hbody⟩ : ∃ front, (front = [] ∨ ∃ start, front = start ++ [slash]) ∧
      ∀ es : List Text, es ≠ [] → Text.join "/" (kept ++ es) = front ++ Text.join "/" es := by
    by_cases hkept : kept = []
    · exact ⟨[], .inl rfl, fun es _ => by rw [hkept]; rfl⟩
    · exact ⟨_, .inr ⟨_, rfl⟩, fun es hne => Text.join_append hkept hne⟩
  have hclean (es : List Text) (hne : es ≠ []) (h : ∀ e ∈ es, Element e) :
      clean (t ++ slash :: Text.join "/" es) =
        if t.head? = some slash then slash :: (front ++ Text.join "/" es)
        else front ++ Text.join "/" es := by
    unfold clean
    dsimp only
    rw [head?_append_slash ht, Text.split_append_cons, split_join_elements hne h,
      List.foldl_append]
    simp only [foldl_step h, List.reverse_append, List.reverse_reverse]
    rw [show ((Text.split slash t).foldl (step (t.head? = some slash)) []).reverse = kept from rfl,
      hbody es hne]
    simp [join_ne_nil hne h]
  by_cases hrooted : t.head? = some slash
  · refine ⟨slash :: front, ?_, fun es hne h => by rw [hclean es hne h, if_pos hrooted]; rfl⟩
    rcases hfront with rfl | ⟨start, rfl⟩
    · exact .inr ⟨[], rfl⟩
    · exact .inr ⟨slash :: start, rfl⟩
  · exact ⟨front, hfront, fun es hne h => by rw [hclean es hne h, if_neg hrooted]⟩

end Path

/-! ### Paths that a sink takes -/

/-- A sink takes `.` and paths of elements that stand for themselves. -/
theorem Output.checkPath_cases {p : Text} (h : checkPath p = .ok ()) :
    p = "." ∨ ∃ es, es ≠ [] ∧ (∀ e ∈ es, Path.Element e) ∧ p = Text.join "/" es := by
  unfold checkPath at h
  split at h
  · cases h
  split at h
  · cases h
  case isFalse habsolute =>
  split at h
  · cases h
  case isFalse hdots =>
  split at h
  · cases h
  case isFalse hclean =>
  rw [List.contains_iff_mem] at hdots
  have hrooted : p.head? ≠ some Path.slash := by
    intro hhead
    exact habsolute (by rw [hhead]; rfl)
  have hspelled : Path.clean p = p := by simpa using hclean
  unfold Path.clean at hspelled
  simp only [hrooted, decide_false, if_false, Path.foldl_step_of_not_mem hdots,
    List.append_nil, List.reverse_reverse] at hspelled
  split at hspelled
  · exact .inl hspelled.symm
  case isFalse hbody =>
  refine .inr ⟨_, ?_, ?_, hspelled.symm⟩
  · intro hnone
    rw [hnone] at hbody
    exact hbody rfl
  · intro e he
    obtain ⟨hmem, hkept⟩ := List.mem_filter.mp he
    have hkept : e ≠ [] ∧ e ≠ "." := by simpa using hkept
    refine ⟨hkept.1, Text.not_mem_of_mem_split hmem, hkept.2, ?_⟩
    rintro rfl
    exact hdots hmem

/-! ### Targets -/

namespace Directory

variable {d : Directory} {rel target : Text} {es : List Text}

/-- The target of a path is the directory, or what the path of the directory and a slash begin; any
other is refused. -/
theorem resolve_eq (d : Directory) (rel : Text) : d.resolve rel =
    if Path.join [d.root, rel] = d.root ∨
        (Path.join [d.root, rel]).startsWith (d.root ++ "/") = true then
      .ok (Path.join [d.root, rel])
    else .error (.plain ("path escapes root directory: " ++ rel.quote)) := by
  unfold resolve
  dsimp only
  by_cases hroot : Path.join [d.root, rel] = d.root
  · simp [hroot]
  · cases (Path.join [d.root, rel]).startsWith (d.root ++ "/") with
    | false => simp [hroot]
    | true => simp [hroot]

/-- A target is the directory, or the path of the directory and a slash begin it. -/
theorem resolve_eq_ok (h : d.resolve rel = .ok target) :
    target = Path.join [d.root, rel] ∧
      (target = d.root ∨ d.root ++ ([Path.slash] : Text) <+: target) := by
  rw [resolve_eq] at h
  split at h
  case isFalse => cases h
  case isTrue hinside =>
    cases h
    exact ⟨rfl, hinside.imp_right Text.startsWith_iff.mp⟩

/-- The target of a path that is its own shortest spelling and does not start at the root is
below a path that is not empty: else it would have to start with a slash. -/
theorem target_eq_clean (hne : rel ≠ []) (hclean : Path.clean rel = rel)
    (hhead : rel.head? ≠ some Path.slash) (h : d.resolve rel = .ok target) :
    d.root ≠ [] ∧ target = Path.clean (d.root ++ Path.slash :: rel) := by
  obtain ⟨rfl, htarget⟩ := resolve_eq_ok h
  by_cases hroot : d.root = []
  · have hjoin : Path.join [d.root, rel] = rel := by
      simp [hroot, Path.join, Text.join, hne, hclean]
    rw [hjoin, hroot] at htarget
    rcases htarget with htarget | ⟨rest, htarget⟩
    · exact absurd htarget hne
    · exact absurd (by rw [← htarget]; rfl) hhead
  · exact ⟨hroot, Path.join_pair hroot hne⟩

/-- The path `.` leads to the directory itself. -/
theorem resolve_dot (h : d.resolve "." = .ok target) : target = d.root := by
  obtain ⟨hroot, hclean⟩ := target_eq_clean (by decide) (by decide) (by decide) h
  rw [Path.clean_append_dot hroot] at hclean
  rcases (resolve_eq_ok h).2 with htarget | hbelow
  · exact htarget
  · -- A target below the directory would be longer than the directory.
    have hshort := Path.length_clean_le hroot
    have hlong := hbelow.length_le
    rw [hclean, List.length_append] at hlong
    simp at hlong
    omega

/-- A path other than `.` stands at the end of its target, whole or after a slash. -/
theorem resolve_cases (hpath : Output.checkPath rel = .ok ()) (h : d.resolve rel = .ok target)
    (hne : rel ≠ ".") :
    ∃ front, target = front ++ rel ∧ (front = [] ∨ ∃ start, front = start ++ [Path.slash]) := by
  rcases Output.checkPath_cases hpath with rfl | ⟨es, hes, helements, rfl⟩
  · exact absurd rfl hne
  · obtain ⟨hroot, rfl⟩ := target_eq_clean (Path.join_ne_nil hes helements)
      (Path.clean_join hes helements) (Path.head?_join_ne helements) h
    obtain ⟨front, hfront, hclean⟩ := Path.exists_front hroot
    exact ⟨front, hclean es hes helements, hfront⟩

/-- An ending of a target without a slash in it is an ending of the path, unless that is `.`. -/
theorem endsWith_of_resolve {ending : Text} (hslash : Path.slash ∉ ending)
    (hpath : Output.checkPath rel = .ok ()) (h : d.resolve rel = .ok target)
    (hne : rel ≠ ".") (hending : target.endsWith ending = true) :
    rel.endsWith ending = true := by
  rw [Text.endsWith_iff] at hending ⊢
  obtain ⟨front, rfl, rfl | ⟨start, rfl⟩⟩ := resolve_cases hpath h hne
  · exact hending
  · -- An ending that is longer than the path would hold the slash before it.
    rw [List.append_assoc, List.singleton_append] at hending
    rcases List.suffix_or_suffix_of_suffix hending (List.suffix_append start _) with hin | hover
    · rcases List.suffix_cons_iff.mp hin with heq | hin
      · exact absurd (heq ▸ List.mem_cons_self) hslash
      · exact hin
    · exact absurd (hover.subset List.mem_cons_self) hslash

end Directory

end Accord
