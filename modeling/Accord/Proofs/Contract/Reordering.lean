/-
# The order of a document

Two contracts may differ only in the order in which they list their types, errors and services.
Where all names are different, the same definitions are found in both, under names in the same
order; and both keep the rules of contracts or neither does.

## Main definitions

* `Contract.Reordering`: two contracts that list the same definitions;
* `Contract.Alike`: two contracts in which the same definitions are found.

## Main results

* `Contract.Reordering.alike`: where names are different, the order does not matter for what is
  found;
* `Contract.Reordering.problems`: the order does not matter for the check.
-/

import Accord.Proofs.Contract.Rules

namespace Accord

/-- Of elements with different names the same one is found in any order. -/
theorem find?_reverse_eq_of_perm {α : Type} {name : α → TypeName} {as bs : List α}
    (h : as.Perm bs) (hnodup : (as.map name).Nodup) (n : TypeName) :
    as.reverse.find? (fun a => name a = n) = bs.reverse.find? (fun a => name a = n) := by
  by_cases hn : n ∈ as.map name
  · obtain ⟨a, ha, rfl⟩ := List.mem_map.mp hn
    rw [find?_reverse_of_nodup hnodup ha,
      find?_reverse_of_nodup ((h.map name).nodup hnodup) (h.mem_iff.mp ha)]
  · have none {l : List α} (hl : n ∉ l.map name) :
        l.reverse.find? (fun a => name a = n) = none := by
      simpa [List.find?_eq_none] using hl
    rw [none hn, none fun hmem => hn ((h.map name).mem_iff.mpr hmem)]

namespace Contract

variable {c c' : Contract}

/-- Two contracts that list the same definitions, in whatever order. -/
structure Reordering (c c' : Contract) : Prop where
  version : c.version = c'.version
  types : c.types.Perm c'.types
  errors : c.errors.Perm c'.errors
  services : c.services.Perm c'.services
  extensions : c.extensions = c'.extensions

/-- Two contracts in which the same definitions are found, under the same names in order. -/
structure Alike (c c' : Contract) : Prop where
  definition? : c'.definition? = c.definition?
  errorDef? : c'.errorDef? = c.errorDef?
  serviceDef? : c'.serviceDef? = c.serviceDef?
  typeNames : c'.typeNames = c.typeNames
  allNames : c'.allNames = c.allNames
  length : c'.types.length = c.types.length

theorem distinctNames_perm {names names' : List TypeName} (h : names.Perm names') :
    (distinctNames names).Perm (distinctNames names') :=
  (List.perm_ext_iff_of_nodup (nodup_distinctNames _) (nodup_distinctNames _)).mpr fun n => by
    rw [mem_distinctNames, mem_distinctNames, h.mem_iff]

/-- Where names are different, the order of a contract does not matter for what is found. -/
theorem Reordering.alike (h : c.Reordering c') (hnodup : c.names.Nodup) : c.Alike c' := by
  obtain ⟨hfront, hservices, -⟩ := List.nodup_append'.mp hnodup
  obtain ⟨htypes, herrors, -⟩ := List.nodup_append'.mp hfront
  have htypeNames := distinctNames_perm (h.types.map (·.name))
  have herrorNames := distinctNames_perm (h.errors.map (·.name))
  have hserviceNames := distinctNames_perm (h.services.map (·.name))
  exact
    { definition? := funext fun n => (find?_reverse_eq_of_perm h.types htypes n).symm
      errorDef? := funext fun n => (find?_reverse_eq_of_perm h.errors herrors n).symm
      serviceDef? := funext fun n => (find?_reverse_eq_of_perm h.services hservices n).symm
      typeNames := (TypeName.mergeSort_eq_of_perm htypeNames).symm
      allNames := (TypeName.mergeSort_eq_of_perm
        ((htypeNames.append herrorNames).append hserviceNames)).symm
      length := h.types.length_eq.symm }

/-- The names that are referred to do not depend on where they are found. -/
theorem Alike.refs (h : c.Alike c') : c'.refs = c.refs := by
  funext n
  simp only [Contract.refs, h.definition?, h.errorDef?, h.serviceDef?]

/-! ### The check -/

theorem Reordering.declares_iff (h : c.Reordering c') {n : TypeName} :
    c'.Declares n ↔ c.Declares n :=
  ((h.types.map _).append (h.errors.map _)).symm.mem_iff

theorem Reordering.uses_iff (h : c.Reordering c') {t : TypeExpr} : c'.Uses t ↔ c.Uses t := by
  simp only [Uses, h.types.mem_iff, h.errors.mem_iff, h.services.mem_iff]

/-- The rules of contracts do not speak of order. -/
theorem Reordering.consistent (h : c.Reordering c') (hc : c.Consistent) : c'.Consistent where
  version := h.version ▸ hc.version
  named n hn := hc.named n (h.declares_iff.mp hn)
  distinct := ((h.types.map _).append (h.errors.map _)).nodup hc.distinct
  references t ht n hn := h.declares_iff.mpr (hc.references t (h.uses_iff.mp ht) n hn)
  definitions d hd := hc.definitions d (h.types.mem_iff.mpr hd)
  arguments e he := hc.arguments e (h.errors.mem_iff.mpr he)
  spaces e he := hc.spaces e (h.errors.mem_iff.mpr he)
  endpoints s hs := hc.endpoints s (h.services.mem_iff.mpr hs)

/-- The order of a contract does not matter for whether it passes the check. -/
theorem Reordering.problems (h : c.Reordering c') (hc : c.problems = []) : c'.problems = [] :=
  (h.consistent (consistent_of_problems hc)).problems

end Contract

end Accord
