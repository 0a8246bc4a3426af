/-
# Which types contain which

The types of a contract form a graph: an object contains the types of the fields that refer to
a type directly, and an alias contains the type it refers to. The components of this graph
decide which fields are held by pointer and which contracts are refused.

## Main definitions

* `Definition.Holds`: a definition holds values of a type;
* `Resolver.IsAlias`: a name is declared as an alias;
* `Resolver.AliasEdge`: an edge of the graph from an alias to an alias;
* `Definition.alone`: the contract of one definition.

## Main results

* `Resolver.boxed_reference_iff`: a field is held by pointer if it leads back to its owner;
* `Resolver.make_eq_ok_iff`: a contract has a resolver unless aliases go round in a circle;
* `Resolver.components_containment`: what the components of the graph are, and when a contract
  is refused.
-/

import Accord.Emit.Resolver
import Accord.Proofs.Graph.Components

namespace Accord

open Source (NameTable)

/-! ### Paths -/

/-- A path is one of another relation if its steps are, where a step may be taken to lie between
the ends of the path. -/
theorem transGen_of_between {α : Type} {p q : α → α → Prop} {a b : α}
    (h : Relation.TransGen p a b)
    (step : ∀ x y, Relation.ReflTransGen p a x → p x y → Relation.ReflTransGen p y b → q x y) :
    Relation.TransGen q a b := by
  induction h with
  | single hab => exact .single (step _ _ .refl hab .refl)
  | tail hpath hlast ih =>
    refine .tail (ih fun x y hx hxy hy => step x y hx hxy (hy.tail hlast)) ?_
    exact step _ _ hpath.to_reflTransGen hlast .refl

/-! ### Declared names -/

namespace Contract

variable {c : Contract} {n : TypeName} {d : Definition}

theorem distinctNames_cons (m : TypeName) (names : List TypeName) :
    distinctNames (m :: names) =
      if (distinctNames names).contains m then distinctNames names
      else m :: distinctNames names := rfl

theorem mem_distinctNames {names : List TypeName} : n ∈ distinctNames names ↔ n ∈ names := by
  induction names generalizing n with
  | nil => rfl
  | cons m rest ih =>
    rw [distinctNames_cons]
    split
    case isTrue h =>
      have hm : m ∈ rest := ih.mp (List.contains_iff_mem.mp h)
      rw [ih, List.mem_cons]
      exact ⟨Or.inr, fun hn => hn.elim (fun he => he ▸ hm) id⟩
    case isFalse => rw [List.mem_cons, List.mem_cons, ih]

/-- A definition that is found has the name that was looked for. -/
theorem name_of_definition? (h : c.definition? n = some d) : d.name = n := by
  simpa using List.find?_some h

theorem mem_of_definition? (h : c.definition? n = some d) : d ∈ c.types :=
  List.mem_reverse.mp (List.mem_of_find?_eq_some h)

/-- The names of types are those with a definition. -/
theorem mem_typeNames : n ∈ c.typeNames ↔ ∃ d, c.definition? n = some d := by
  rw [typeNames, List.mem_mergeSort, mem_distinctNames, List.mem_map]
  constructor
  · rintro ⟨d, hd, rfl⟩
    refine Option.isSome_iff_exists.mp ?_
    rw [definition?, List.find?_isSome]
    exact ⟨d, List.mem_reverse.mpr hd, decide_eq_true rfl⟩
  · rintro ⟨d, hd⟩
    exact ⟨d, mem_of_definition? hd, name_of_definition? hd⟩

end Contract

/-! ### The graph -/

/-- A definition holds values of a type: in a field of an object, or as what an alias stands
for. -/
def Definition.Holds (d : Definition) (t : TypeExpr) : Prop :=
  (∃ fields f, d.shape = .object fields ∧ f ∈ fields ∧ f.type = t) ∨
    ∃ safety, d.shape = .aliasFor t safety

namespace Resolver

variable {c : Contract} {r : Resolver} {m n owner : TypeName} {d : Definition}

/-- A name is declared as an alias. -/
def IsAlias (c : Contract) (n : TypeName) : Prop :=
  ∃ d target safety, c.definition? n = some d ∧ d.shape = .aliasFor target safety

theorem aliasTarget?_eq_some_iff {t : TypeExpr} : r.aliasTarget? n = some t ↔
    ∃ d safety, r.contract.definition? n = some d ∧ d.shape = .aliasFor t safety := by
  unfold aliasTarget?
  cases hd : r.contract.definition? n with
  | none => simp
  | some d => cases hs : d.shape <;> simp [hs]

theorem isSome_aliasTarget?_iff : (r.aliasTarget? n).isSome ↔ IsAlias r.contract n := by
  simp only [Option.isSome_iff_exists, aliasTarget?_eq_some_iff]
  exact exists_comm

/-- Only a reference itself counts, not one inside of a type. -/
theorem mem_direct {t : TypeExpr} : n ∈ direct t ↔ t = .reference n := by
  cases t <;> simp [direct, eq_comm]

/-- What a definition contains directly are the types that it refers to itself. -/
theorem mem_contained : n ∈ contained d ↔ d.Holds (.reference n) := by
  unfold contained Definition.Holds
  cases hs : d.shape with
  | object fields =>
    simp only [List.mem_flatMap, mem_direct, Shape.object.injEq, reduceCtorEq, exists_false,
      or_false, exists_and_left, exists_eq_left']
  | aliasFor target safety => simp [mem_direct]
  | enum values => simp
  | union variants => simp

theorem edge_containment_iff : (containment c).Edge m n ↔
    (∃ d, c.definition? m = some d ∧ d.Holds (.reference n)) ∧ n ∈ c.typeNames := by
  unfold Graph.Edge containment
  simp only [Contract.mem_typeNames]
  constructor
  · rintro ⟨⟨d, hd⟩, hn, hdef⟩
    rw [hd] at hn
    exact ⟨⟨d, hd, mem_contained.mp hn⟩, hdef⟩
  · rintro ⟨⟨d, hd, hn⟩, hdef⟩
    refine ⟨⟨d, hd⟩, ?_, hdef⟩
    rw [hd]
    exact mem_contained.mpr hn

/-- An alias leads to one type at most. -/
theorem IsAlias.edge_unique {m' : TypeName} (h : IsAlias c n) (hm : (containment c).Edge n m)
    (hm' : (containment c).Edge n m') : m = m' := by
  obtain ⟨d, target, safety, hd, hs⟩ := h
  have target_of {k : TypeName} (hk : (containment c).Edge n k) : target = .reference k := by
    obtain ⟨⟨d', hd', hk⟩, -⟩ := edge_containment_iff.mp hk
    obtain rfl : d = d' := Option.some.inj (hd.symm.trans hd')
    rcases hk with ⟨fields, f, hobj, -⟩ | ⟨s, halias⟩
    · rw [hs] at hobj
      cases hobj
    · rw [hs] at halias
      exact (Shape.aliasFor.inj halias).1
  exact TypeExpr.reference.inj ((target_of hm).symm.trans (target_of hm'))

/-- An edge of the graph from an alias to an alias. -/
def AliasEdge (c : Contract) (m n : TypeName) : Prop :=
  (containment c).Edge m n ∧ IsAlias c m ∧ IsAlias c n

/-- Whatever an alias on a circle of aliases reaches lies on such a circle. -/
theorem transGen_aliasEdge_of_reaches (h : Relation.TransGen (AliasEdge c) m m)
    (hr : (containment c).Reaches m n) : Relation.TransGen (AliasEdge c) n n := by
  induction hr with
  | refl => exact h
  | tail _ hedge ih =>
    -- The circle goes on along the only edge that there is.
    obtain ⟨k, hk, hback⟩ := Relation.TransGen.head'_iff.mp ih
    obtain rfl := hk.2.1.edge_unique hedge hk.1
    exact Relation.TransGen.tail' hback hk

theorem isAlias_of_transGen (h : Relation.TransGen (AliasEdge c) m n) : IsAlias c m := by
  obtain ⟨k, hk, -⟩ := Relation.TransGen.head'_iff.mp h
  exact hk.2.1

/-! ### What the components decide -/

/-- A component of aliases alone is found exactly if aliases go round in a circle. -/
theorem isSome_aliasCycle?_iff (hr : r.components = (containment r.contract).components) :
    r.aliasCycle?.isSome ↔ ∃ n, Relation.TransGen (AliasEdge r.contract) n n := by
  simp only [aliasCycle?, Option.isSome_map, List.find?_isSome, hr, Bool.and_eq_true,
    List.all_eq_true, isSome_aliasTarget?_iff]
  constructor
  · rintro ⟨k, hk, hcyclic, haliases⟩
    obtain ⟨n, hn⟩ := Graph.exists_mem_of_cyclic hk hcyclic
    have member {x : TypeName} (hnx : (containment r.contract).Reaches n x)
        (hxn : (containment r.contract).Reaches x n) : IsAlias r.contract x :=
      haliases x ((Graph.mem_component_iff hk hn).mpr ⟨hnx, hxn⟩)
    refine ⟨n, transGen_of_between ((Graph.cyclic_iff hk hn).mp hcyclic) ?_⟩
    intro x y hnx hedge hyn
    exact ⟨hedge, member hnx (.head hedge hyn), member (hnx.tail hedge) hyn⟩
  · rintro ⟨n, hcircle⟩
    have hcycle := Relation.TransGen.mono (fun _ _ h => h.1) _ _ hcircle
    obtain ⟨_, hedge, -⟩ := Relation.TransGen.head'_iff.mp hcycle
    obtain ⟨k, hk, hn⟩ := Graph.exists_component hedge.1
    -- The component of a circle of aliases holds nothing else, as there is no way out of it.
    refine ⟨k, hk, (Graph.cyclic_iff hk hn).mpr hcycle, fun m hm => ?_⟩
    have hreach := ((Graph.mem_component_iff hk hn).mp hm).1
    exact isAlias_of_transGen (transGen_aliasEdge_of_reaches hcircle hreach)

variable {target : Target} {names : NameTable}

/-- A contract has a resolver unless aliases go round in a circle. -/
theorem make_eq_ok_iff : make c target names = .ok r ↔
    r = ⟨c, target, names.types, (containment c).components⟩ ∧
      ¬ ∃ n, Relation.TransGen (AliasEdge c) n n := by
  rw [← isSome_aliasCycle?_iff (r := ⟨c, target, names.types, (containment c).components⟩) rfl]
  unfold make
  dsimp only
  split
  case h_1 cycle h => simp [h]
  case h_2 h => simp [h, eq_comm]

/-- A contract without aliases has a resolver. -/
theorem make_of_no_alias (h : ∀ d ∈ c.types, ∀ t safety, d.shape ≠ .aliasFor t safety) :
    make c target names = .ok ⟨c, target, names.types, (containment c).components⟩ := by
  refine make_eq_ok_iff.mpr ⟨rfl, ?_⟩
  rintro ⟨n, hn⟩
  obtain ⟨m, ⟨-, ⟨d, t, safety, hd, hs⟩, -⟩, -⟩ := Relation.TransGen.head'_iff.mp hn
  exact h d (Contract.mem_of_definition? hd) t safety hs

/-- A contract is refused if aliases go round in a circle. -/
theorem make_eq_error_iff : (∃ cycle, make c target names = .error (aliasFault cycle)) ↔
    ∃ n, Relation.TransGen (AliasEdge c) n n := by
  rw [← isSome_aliasCycle?_iff (r := ⟨c, target, names.types, (containment c).components⟩) rfl]
  unfold make
  dsimp only
  split
  case h_1 cycle h =>
    simp only [h, Option.isSome_some, iff_true]
    exact ⟨cycle, rfl⟩
  case h_2 h => simp [h]

/-- A field that refers to a type is held by pointer exactly if that type leads back to the owner
of the field. -/
theorem boxed_reference_iff (hr : r.components = (containment r.contract).components)
    (hedge : (containment r.contract).Edge owner n) :
    r.boxed owner (.reference n) = true ↔ (containment r.contract).Reaches n owner := by
  have hon := Relation.ReflTransGen.single hedge
  obtain ⟨i, hi⟩ := Graph.exists_componentOf? hedge.1
  obtain ⟨j, hj⟩ := Graph.exists_componentOf? hedge.2.2
  obtain ⟨k, hk, hmem, howner⟩ := Graph.componentOf?_eq_some hi
  have same : i = j ↔ (containment r.contract).Reaches n owner := by
    have h := Graph.componentOf?_eq_iff (v := n) hedge.1
    rw [hi, hj, Option.some.injEq] at h
    exact h.trans ⟨And.right, fun hback => ⟨hon, hback⟩⟩
  -- A component that an edge leads back into is cyclic, so that the second test is idle.
  simp only [boxed, hr, hi, hj, hk, Option.any_some, Bool.and_eq_true, decide_eq_true_eq, same]
  refine and_iff_left_of_imp fun hback => ?_
  exact (Graph.cyclic_iff hmem howner).mpr (Relation.TransGen.head' hedge hback)

/-- Two types have the same component exactly if each contains the other; a component is cyclic
exactly if its types contain themselves; and a contract is refused exactly if aliases go round in
a circle. Every contract that is not refused has a resolver with these components. -/
theorem components_containment (c : Contract) (target : Target) (names : NameTable) :
    (∀ u ∈ c.typeNames, ∀ v ∈ c.typeNames,
      Graph.componentOf? (containment c).components u =
          Graph.componentOf? (containment c).components v ↔
        (containment c).Reaches u v ∧ (containment c).Reaches v u) ∧
    (∀ u ∈ c.typeNames, ∃ i k, Graph.componentOf? (containment c).components u = some i ∧
      (containment c).components[i]? = some k ∧
      (k.cyclic = true ↔ Relation.TransGen (containment c).Edge u u)) ∧
    ((∃ cycle, make c target names = .error (aliasFault cycle)) ↔
      ∃ n, Relation.TransGen (AliasEdge c) n n) ∧
    ((¬ ∃ n, Relation.TransGen (AliasEdge c) n n) → ∃ r, make c target names = .ok r ∧
      r.contract = c ∧ r.components = (containment c).components) := by
  refine ⟨fun u hu v _ => Graph.componentOf?_eq_iff hu, fun u hu => ?_, make_eq_error_iff,
    fun h => ⟨_, make_eq_ok_iff.mpr ⟨rfl, h⟩, rfl, rfl⟩⟩
  obtain ⟨i, hi⟩ := Graph.exists_componentOf? (g := containment c) hu
  obtain ⟨k, hk, hmem, huk⟩ := Graph.componentOf?_eq_some hi
  exact ⟨i, k, hi, hk, Graph.cyclic_iff hmem huk⟩

end Resolver

/-! ### Contracts with one definition -/

/-- The contract of one definition. -/
def Definition.alone (d : Definition) : Contract where
  version := 1
  errors := []
  types := [d]
  services := []
  extensions := []

namespace Resolver

variable {d d' : Definition} {n : TypeName}

/-- The resolver of one definition, where nothing stands for external types. -/
def ofDefinition (d : Definition) : Resolver where
  contract := d.alone
  target := { layout := ⟨"example.com/out", "com.example", false⟩ }
  names := []
  components := (containment d.alone).components

theorem eq_of_definition?_alone (h : d.alone.definition? n = some d') :
    d' = d :=
  List.mem_singleton.mp (Contract.mem_of_definition? h)

/-- One definition has a resolver unless it is an alias of a reference. -/
theorem make_alone (hd : ∀ m safety, d.shape ≠ .aliasFor (.reference m) safety) :
    make d.alone (ofDefinition d).target {} = .ok (ofDefinition d) := by
  refine make_eq_ok_iff.mpr ⟨rfl, ?_⟩
  rintro ⟨n, h⟩
  obtain ⟨m, ⟨hedge, ⟨d', t, safety, hd', hs⟩, -⟩, -⟩ := Relation.TransGen.head'_iff.mp h
  obtain ⟨⟨d'', hd'', hholds⟩, -⟩ := edge_containment_iff.mp hedge
  obtain rfl := eq_of_definition?_alone hd'
  obtain rfl := eq_of_definition?_alone hd''
  rcases hholds with ⟨fields, f, hobj, -⟩ | ⟨safety', halias⟩
  · rw [hs] at hobj
    cases hobj
  · exact hd m safety' halias

end Resolver

end Accord
