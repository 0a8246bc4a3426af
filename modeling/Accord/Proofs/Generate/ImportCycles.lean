/-
# Packages that import each other

A generated package imports another if a definition in it mentions a type of the other. Packages
must not import each other in a circle, and a contract is refused exactly if they would. The
fault then shows such a circle: it names packages along imports, from one package back to it.

## Main definitions

* `Generate.Imports`: a package imports another;
* `Generate.importFault`: the fault that shows a circle of packages.

## Main results

* `Generate.mem_next_iff`: the successors of a package are the packages it imports;
* `Generate.imports_cycle_iff`: packages import each other exactly if their graph has a cycle;
* `Generate.checkImports_iff_cycle`: when a contract is refused, and what the fault shows.
-/

import Accord.Generate
import Accord.Proofs.Emit.Containment
import Accord.Proofs.Graph.Cycles
import Accord.Proofs.Text.Order

namespace Accord

variable {c : Contract} {t : Target} {p q : Text}

/-- The names that are put in order are the declared ones. -/
theorem Contract.mem_allNames {n : TypeName} : n ∈ c.allNames ↔ n ∈ c.names := by
  simp only [allNames, names, List.mem_mergeSort, List.mem_append, mem_distinctNames]

namespace Generate

/-- A package imports a different one if a definition in it mentions a type of the other. -/
def Imports (c : Contract) (t : Target) (p q : Text) : Prop :=
  ∃ n ∈ c.names, ∃ m ∈ c.refs n, t.packagePath n = p ∧ t.packagePath m = q ∧ p ≠ q

/-- The fault that shows a circle of packages. -/
def importFault (circle : List Text) : Fault :=
  .hinted "set single_package to emit every definition into one Go package"
    (.mark .importCycle ("generated packages import each other: " ++ Text.join " -> " circle))

/-! ### The graph of packages -/

theorem mem_nodes_iff : p ∈ (importGraph c t).nodes ↔ ∃ n ∈ c.names, t.packagePath n = p := by
  simp only [importGraph, Text.sort, List.mem_mergeSort, Text.mem_distinct, List.mem_map,
    Contract.mem_allNames]

/-- The successors of a package are the packages it imports. -/
theorem mem_next_iff : q ∈ (importGraph c t).next p ↔ Imports c t p q := by
  simp only [importGraph, Text.sort, List.mem_mergeSort, Text.mem_distinct, List.mem_filter,
    List.mem_flatMap, List.mem_map, Contract.mem_allNames, bne_iff_ne, decide_eq_true_eq]
  constructor
  · rintro ⟨⟨n, ⟨hn, hp⟩, m, hm, hq⟩, hne⟩
    exact ⟨n, hn, m, hm, hp, hq, hne.symm⟩
  · rintro ⟨n, hn, m, hm, hp, hq, hne⟩
    exact ⟨⟨n, ⟨hn, hp⟩, m, hm, hq⟩, hne.symm⟩

theorem Imports.mem_nodes (h : Imports c t p q) : p ∈ (importGraph c t).nodes := by
  obtain ⟨n, hn, -, -, hp, -⟩ := h
  exact mem_nodes_iff.mpr ⟨n, hn, hp⟩

theorem imports_of_edge (p q : Text) (h : (importGraph c t).Edge p q) : Imports c t p q :=
  mem_next_iff.mp h.2.1

/-- Packages import each other exactly if their graph has a cycle. An imported package need not
be one of the contract, but on a circle every package imports another. -/
theorem imports_cycle_iff :
    Relation.TransGen (Imports c t) p p ↔ Relation.TransGen (importGraph c t).Edge p p := by
  constructor
  · intro h
    refine transGen_of_between h fun x y _ hxy hy => ⟨hxy.mem_nodes, mem_next_iff.mpr hxy, ?_⟩
    -- The circle goes on from the imported package, at the latest where it began.
    obtain rfl | ⟨z, hyz, -⟩ := hy.cases_head
    · obtain ⟨z, hyz, -⟩ := Relation.TransGen.head'_iff.mp h
      exact hyz.mem_nodes
    · exact hyz.mem_nodes
  · intro h
    exact Relation.TransGen.mono imports_of_edge p p h

/-! ### The check -/

theorem checkImports_eq : checkImports c t =
    match (importGraph c t).findCycle? with
    | none => .ok ()
    | some circle => .error (importFault circle) := rfl

/-- **Import circles are found exactly, and shown truly.** Generated packages are refused if and
only if they would import each other in a circle. The fault then shows a walk along imports of at
least two steps, which comes back to the package it began with and meets no package twice before
that. -/
theorem checkImports_iff_cycle (c : Contract) (t : Target) :
    ((∃ e, checkImports c t = .error e) ↔ ∃ p, Relation.TransGen (Imports c t) p p) ∧
      ∀ e, checkImports c t = .error e → ∃ circle : List Text,
        e = importFault circle ∧ 3 ≤ circle.length ∧ circle.head? = circle.getLast? ∧
          circle.dropLast.Nodup ∧ circle.IsChain (Imports c t) := by
  simp only [imports_cycle_iff]
  rw [checkImports_eq]
  cases hfound : (importGraph c t).findCycle? with
  | none =>
    refine ⟨⟨?_, ?_⟩, ?_⟩
    · rintro ⟨e, he⟩
      cases he
    · rintro ⟨p, hp⟩
      exact absurd hp (Graph.findCycle?_eq_none_iff.mp hfound p)
    · intro e he
      cases he
  | some circle =>
    have hround := Graph.round_of_findCycle? hfound
    refine ⟨⟨fun _ => hround.exists_transGen, fun _ => ⟨_, rfl⟩⟩, ?_⟩
    intro e he
    cases he
    have himports := hround.mono imports_of_edge
    -- No package imports itself.
    have hself : ∀ p, ¬ Imports c t p p := by
      rintro p ⟨-, -, -, -, -, -, hne⟩
      exact hne rfl
    exact ⟨circle, rfl, himports.three_le hself, himports.closed, himports.distinct,
      himports.chain⟩

end Generate

end Accord
