/-
# Paths of generated files

Every generated file has a path of its own. A path that is taken gets a number, and the
numbered paths are all different, so that one of them is free before the search ends.

## Main definitions

* `Generate.numbered`: the paths that are tried for an identifier, by number.

## Main results

* `Path.clean_append`: the shortest spelling of a path keeps the end of the last element;
* `Generate.exists_unitPath_eq`: the path of a file is a numbered path;
* `Generate.unitPath_not_mem`: the path of a file is not taken.
-/

import Accord.Generate
import Accord.Proofs.Text.Decimal
import Accord.Proofs.Text.Pieces
import Mathlib.Data.List.Perm.Subperm
import Mathlib.Data.List.Nodup

namespace Accord

/-! ### The end of a path -/

/-- What a text ends with belongs to its last piece. -/
theorem Text.split_append_ending {sep : UInt8} {t last ending : Text} {front : List Text}
    (h : Text.split sep t = front ++ [last]) (hending : sep ∉ ending) :
    Text.split sep (t ++ ending) = front ++ [last ++ ending] := by
  have pieces : ∀ piece ∈ front ++ [last], sep ∉ piece := fun piece hp =>
    Text.not_mem_of_mem_split (h ▸ hp)
  have htext : t ++ ending = Text.join [sep] (front ++ [last ++ ending]) := by
    rw [Text.join_append_last, ← h, Text.join_split]
  rw [htext]
  refine Text.split_join (by simp) fun piece hp => ?_
  rcases List.mem_append.mp hp with hp | hp
  · exact pieces piece (List.mem_append_left _ hp)
  · obtain rfl := List.mem_singleton.mp hp
    simp [pieces last (by simp), hending]

namespace Path

/-- An element of three bytes or more is kept. -/
theorem step_of_length {rooted : Bool} {sofar : List Text} {element : Text}
    (h : 2 < element.length) : step rooted sofar element = element :: sofar := by
  have hne : element ≠ [] := List.ne_nil_of_length_pos (by omega)
  have hdot : element ≠ "." := by
    rintro rfl
    exact absurd h (by decide)
  have hdots : element ≠ ".." := by
    rintro rfl
    exact absurd h (by decide)
  simp [step, hne, hdot, hdots]

/-- The shortest spelling of a path keeps the end of its last element. -/
theorem clean_append (t : Text) : ∃ start, ∀ ending : Text, slash ∉ ending → 2 < ending.length →
    clean (t ++ ending) = start ++ ending := by
  obtain ⟨front, last, hsplit⟩ := List.eq_nil_or_concat (Text.split slash t)
    |>.resolve_left (Text.split_ne_nil slash t)
  rw [List.concat_eq_append] at hsplit
  let rooted : Bool := t.head? = some slash
  let elements := (front.foldl (step rooted) []).reverse ++ [last]
  refine ⟨(if rooted then [slash] else []) ++ Text.join "/" elements, fun ending hslash hlen => ?_⟩
  have hroot : ((t ++ ending).head? = some slash) = (rooted = true) := by
    cases t with
    | cons b rest => simp [rooted]
    | nil =>
      have hhead : ending.head? ≠ some slash := fun h => hslash (List.mem_of_mem_head? h)
      simp [rooted, hhead]
  have hbody : Text.join "/" ((Text.split slash (t ++ ending)).foldl (step rooted) []).reverse =
      Text.join "/" elements ++ ending := by
    have hlast : 2 < (last ++ ending).length := by
      rw [List.length_append]
      omega
    rw [Text.split_append_ending hsplit hslash, List.foldl_append, List.foldl_cons,
      List.foldl_nil, step_of_length hlast, List.reverse_cons, Text.join_append_last]
  have hne : Text.join "/" elements ++ ending ≠ [] :=
    List.ne_nil_of_length_pos (by rw [List.length_append]; omega)
  unfold clean
  simp only [hroot, Bool.decide_eq_true, hbody]
  split
  · simp
  · simp [hne]

end Path

/-! ### Numbered paths -/

namespace Generate

variable {dir base ident : Text} {taken : List Text}

/-- What the name of a file ends with after the number of a try. -/
def ending (n : Nat) : Text :=
  (if n = 1 then [] else ("_" : Text) ++ Text.ofNat n) ++ (".conjure.go" : Text)

/-- The paths that are tried for a file, by number. -/
def numbered (dir base : Text) (n : Nat) : Text := Path.join [dir, base ++ ending n]

/-- The bytes of an ending are digits, or are in every name of a generated file. -/
theorem not_mem_ending {b : UInt8} (hdigit : Text.isDigitByte b = false)
    (hfixed : b ∉ ("_" : Text) ∧ b ∉ (".conjure.go" : Text)) (n : Nat) : b ∉ ending n := by
  have digits : b ∉ Text.ofNat n := fun h => by
    rw [Text.isDigitByte_of_mem_ofNat h] at hdigit
    cases hdigit
  unfold ending
  split <;> simp [digits, hfixed]

theorem slash_not_mem_ending (n : Nat) : Path.slash ∉ ending n :=
  not_mem_ending rfl (by decide) n

theorem colon_not_mem_ending (n : Nat) : Text.byte ':' ∉ ending n :=
  not_mem_ending rfl (by decide) n

theorem two_lt_length_ending (n : Nat) : 2 < (ending n).length := by
  have : (".conjure.go" : Text).length = 11 := by decide
  simp only [ending, List.length_append]
  omega

theorem ending_injective {m n : Nat} (h : ending m = ending n) : m = n := by
  have h := List.append_cancel_right h
  by_cases hm : m = 1 <;> by_cases hn : n = 1
  · rw [hm, hn]
  · rw [if_pos hm, if_neg hn] at h
    exact absurd (List.append_eq_nil_iff.mp h.symm).2 (Text.ofNat_ne_nil n)
  · rw [if_neg hm, if_pos hn] at h
    exact absurd (List.append_eq_nil_iff.mp h).2 (Text.ofNat_ne_nil m)
  · rw [if_neg hm, if_neg hn] at h
    exact Text.ofNat_injective (List.append_cancel_left h)

/-- Different numbers give different paths. -/
theorem numbered_injective {m n : Nat} (h : numbered dir base m = numbered dir base n) :
    m = n := by
  have join_eq (k : Nat) : numbered dir base k =
      Path.clean ((if dir = [] then base else dir ++ "/" ++ base) ++ ending k) := by
    have hne : base ++ ending k ≠ [] := by
      simp [List.ne_nil_of_length_pos (Nat.zero_lt_of_lt (two_lt_length_ending k))]
    by_cases hd : dir = []
    · subst hd
      simp [numbered, Path.join, hne, Text.join]
    · simp [numbered, Path.join, hd, hne, Text.join]
  obtain ⟨start, hstart⟩ := Path.clean_append (if dir = [] then base else dir ++ "/" ++ base)
  rw [join_eq, join_eq, hstart _ (slash_not_mem_ending m) (two_lt_length_ending m),
    hstart _ (slash_not_mem_ending n) (two_lt_length_ending n)] at h
  exact ending_injective (List.append_cancel_left h)

/-- One step of the search for a path. -/
theorem freePath_succ (fuel n : Nat) : freePath dir base taken (fuel + 1) n =
    if taken.contains (numbered dir base n) then freePath dir base taken fuel (n + 1)
    else numbered dir base n := by
  have tried : Path.join [dir, (if n = 1 then base else base ++ "_" ++ Text.ofNat n) ++
      ".conjure.go"] = numbered dir base n := by
    unfold numbered ending
    split <;> simp
  rw [freePath]
  simp only [tried]

/-- The search for a path ends with one that is not taken, or all that were tried are. -/
theorem freePath_not_mem_or (fuel n : Nat) (hn : n ≠ 0) :
    freePath dir base taken fuel n ∉ taken ∨
      ∀ k, n ≤ k → k < n + fuel → numbered dir base k ∈ taken := by
  induction fuel generalizing n with
  | zero => exact .inr fun k hk hlt => by omega
  | succ fuel ih =>
    rw [freePath_succ]
    split
    case isTrue hmem =>
      refine (ih (n + 1) (by omega)).imp_right fun h k hk hlt => ?_
      by_cases hkn : k = n
      · exact hkn ▸ List.contains_iff_mem.mp hmem
      · exact h k (by omega) (by omega)
    case isFalse hmem => exact .inl fun h => hmem (List.contains_iff_mem.mpr h)

/-- The path of a file is one of the numbered paths. -/
theorem exists_unitPath_eq (dir ident : Text) (taken : List Text) :
    ∃ n, unitPath dir ident taken = numbered dir (Source.snake ident) n := by
  have search (fuel n : Nat) (hn : n ≠ 0) (hfuel : fuel ≠ 0 ∨ n ≠ 1) :
      ∃ k, freePath dir (Source.snake ident) taken fuel n =
        numbered dir (Source.snake ident) k := by
    induction fuel generalizing n with
    | zero =>
      have hn' : n ≠ 1 := hfuel.resolve_left (by simp)
      exact ⟨n, by simp [freePath, numbered, ending, hn']⟩
    | succ fuel ih =>
      rw [freePath_succ]
      split
      · exact ih (n + 1) (by omega) (.inr (by omega))
      · exact ⟨n, rfl⟩
  exact search (taken.length + 1) 1 (by omega) (.inl (by omega))

/-- The path of a file is not taken. -/
theorem unitPath_not_mem (dir ident : Text) (taken : List Text) :
    unitPath dir ident taken ∉ taken := by
  refine (freePath_not_mem_or (taken.length + 1) 1 (by decide)).resolve_right fun hall => ?_
  -- There are more numbered paths than paths that are taken.
  let tries := (List.range (taken.length + 1)).map fun k =>
    numbered dir (Source.snake ident) (k + 1)
  have hnodup : tries.Nodup := List.nodup_range.map fun a b h =>
    Nat.succ.inj (numbered_injective h)
  have hsub : tries ⊆ taken := by
    intro path hpath
    obtain ⟨k, hk, rfl⟩ := List.mem_map.mp hpath
    have hlt := List.mem_range.mp hk
    exact hall (k + 1) (by omega) (by omega)
  have hle := (hnodup.subperm hsub).length_le
  rw [List.length_map, List.length_range] at hle
  omega

end Generate

end Accord
