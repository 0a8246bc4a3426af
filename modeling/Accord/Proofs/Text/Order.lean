/-
# The order of texts and names

Texts are ordered by their bytes, and names by their packages and then by themselves. Both orders
are total, and nothing but equal texts or names is on the same level. A list that is sorted by such
an order does not show in which order its elements came.

## Main results

* `Text.le_total`, `Text.le_trans`, `Text.le_antisymm`: the order of texts;
* `TypeName.le_total`, `TypeName.le_trans`, `TypeName.le_antisymm`: the order of names;
* `TypeName.mergeSort_eq_of_perm`: sorted names do not show in which order they came;
* `Text.mem_distinct`: dropping repetitions drops no text.
-/

import Accord.Contract.Basic

namespace Accord

namespace Text

variable {a b c t : Text}

/-! ### Texts -/

theorem le_total (a b : Text) : le a b = true ∨ le b a = true := by
  induction a generalizing b with
  | nil => exact .inl rfl
  | cons x s ih =>
    cases b with
    | nil => exact .inr rfl
    | cons y t =>
      by_cases hxy : x = y
      · simpa [le, hxy] using ih t
      · simp only [le, hxy, Ne.symm hxy, if_false, decide_eq_true_eq]
        exact UInt8.lt_or_lt_of_ne hxy

theorem le_antisymm (hab : le a b = true) (hba : le b a = true) : a = b := by
  induction a generalizing b with
  | nil =>
    cases b with
    | nil => rfl
    | cons y t => cases hba
  | cons x s ih =>
    cases b with
    | nil => cases hab
    | cons y t =>
      by_cases hxy : x = y
      · subst hxy
        simp only [le, if_true] at hab hba
        rw [ih hab hba]
      · simp only [le, hxy, Ne.symm hxy, if_false, decide_eq_true_eq] at hab hba
        exact absurd hba (UInt8.lt_asymm hab)

theorem le_trans (hab : le a b = true) (hbc : le b c = true) : le a c = true := by
  induction a generalizing b c with
  | nil => rfl
  | cons x s ih =>
    cases b with
    | nil => cases hab
    | cons y t =>
      cases c with
      | nil => cases hbc
      | cons z u =>
        simp only [le] at hab hbc ⊢
        by_cases hxy : x = y
        · subst hxy
          by_cases hxz : x = z
          · subst hxz
            simp only [if_true] at hab hbc ⊢
            exact ih hab hbc
          · simpa [hxz] using hbc
        · by_cases hyz : y = z
          · subst hyz
            simpa [hxy] using hab
          · simp only [hxy, hyz, if_false, decide_eq_true_eq] at hab hbc
            have hxz : x < z := UInt8.lt_trans hab hbc
            simp [UInt8.ne_of_lt hxz, hxz]

/-! ### Repetitions -/

/-- Dropping repetitions drops no text. -/
theorem mem_distinct {ts : List Text} : t ∈ distinct ts ↔ t ∈ ts := by
  have general (seen : List Text) :
      t ∈ ts.foldl (fun seen t => if t ∈ seen then seen else seen ++ [t]) seen ↔
        t ∈ seen ∨ t ∈ ts := by
    induction ts generalizing seen with
    | nil => simp
    | cons u rest ih =>
      rw [List.foldl_cons, ih]
      by_cases hu : u ∈ seen
      · rw [if_pos hu, List.mem_cons]
        exact ⟨.imp_right .inr, fun h => h.elim .inl fun h => h.elim (fun h => .inl (h ▸ hu)) .inr⟩
      · rw [if_neg hu, List.mem_append, List.mem_singleton, List.mem_cons, or_assoc]
  rw [distinct, general, List.mem_nil_iff, false_or]

theorem lt_iff : lt a b = true ↔ le a b = true ∧ a ≠ b := by
  simp [lt]

theorem lt_asymm (hab : lt a b = true) : lt b a = false := by
  rw [lt_iff] at hab
  rw [Bool.eq_false_iff, ne_eq, lt_iff]
  exact fun hba => hab.2 (le_antisymm hab.1 hba.1)

/-- Items of different keys are in strict order when they are sorted by them. -/
theorem mergeSort_strict {α : Type} {key : α → Text} {items : List α}
    (h : (items.map key).Nodup) :
    (items.mergeSort fun a b => le (key a) (key b)).Pairwise
      fun a b => lt (key a) (key b) = true := by
  have hle : (items.mergeSort fun a b => le (key a) (key b)).Pairwise
      fun a b => le (key a) (key b) = true := by
    apply List.pairwise_mergeSort
    · exact fun _ _ _ => le_trans
    · exact fun a b => by simpa using le_total (key a) (key b)
  have hne : (items.mergeSort fun a b => le (key a) (key b)).Pairwise
      fun a b => key a ≠ key b :=
    List.pairwise_map.mp (((List.mergeSort_perm items _).map key).nodup_iff.mpr h)
  exact (hle.and hne).imp lt_iff.mpr

theorem sort_eq_nil_iff {ts : List Text} : sort ts = [] ↔ ts = [] := by
  rw [← List.length_eq_zero_iff, sort, List.length_mergeSort, List.length_eq_zero_iff]

end Text

/-! ### Names -/

namespace TypeName

variable {a b c : TypeName}

theorem le_total (a b : TypeName) : a.le b = true ∨ b.le a = true := by
  by_cases h : a.package = b.package
  · simpa [le, h] using Text.le_total a.name b.name
  · simpa [le, h, Ne.symm h] using Text.le_total a.package b.package

theorem le_antisymm (hab : a.le b = true) (hba : b.le a = true) : a = b := by
  obtain ⟨name, package⟩ := a
  obtain ⟨name', package'⟩ := b
  by_cases h : package = package'
  · subst h
    simp only [le, if_true] at hab hba
    rw [Text.le_antisymm hab hba]
  · simp only [le, h, Ne.symm h, if_false] at hab hba
    exact absurd (Text.le_antisymm hab hba) h

theorem le_trans (hab : a.le b = true) (hbc : b.le c = true) : a.le c = true := by
  simp only [le] at hab hbc ⊢
  by_cases h : a.package = b.package
  · rw [if_pos h] at hab
    rw [h]
    by_cases h' : b.package = c.package
    · rw [if_pos h'] at hbc ⊢
      exact Text.le_trans hab hbc
    · rw [if_neg h'] at hbc ⊢
      exact hbc
  · rw [if_neg h] at hab
    by_cases h' : b.package = c.package
    · rw [if_neg (h' ▸ h), ← h']
      exact hab
    · rw [if_neg h'] at hbc
      have hac : a.package ≠ c.package := fun heq => h (Text.le_antisymm hab (heq ▸ hbc))
      rw [if_neg hac]
      exact Text.le_trans hab hbc

/-- Sorted names do not show in which order they came. -/
theorem mergeSort_eq_of_perm {names names' : List TypeName} (h : names.Perm names') :
    names.mergeSort le = names'.mergeSort le := by
  have sorted (l : List TypeName) : (l.mergeSort le).Pairwise fun a b => a.le b := by
    apply List.pairwise_mergeSort
    · exact fun a b c => le_trans
    · exact fun a b => (Bool.or_eq_true _ _).mpr (le_total a b)
  have hperm : (names.mergeSort le).Perm (names'.mergeSort le) :=
    (List.mergeSort_perm _ _).trans (h.trans (List.mergeSort_perm _ _).symm)
  exact List.Perm.eq_of_pairwise (fun _ _ _ _ => le_antisymm) (sorted _) (sorted _) hperm

end TypeName

end Accord
