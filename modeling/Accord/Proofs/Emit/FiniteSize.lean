/-
# Types of finite size

A generated type contains another by value through a field that is not held by pointer, or by
being declared as the other type. A type that contains itself this way would have no size. Fields
are held by pointer where direct references go round in a circle; what is left are the circles
that pass through the fallback of an external type.

## Main definitions

* `Resolver.ResolvesTo`: a type is generated as the type of a name;
* `Resolver.Contains`: a generated type contains another by value;
* `Resolver.FallsBack`: a definition falls back to a type where it names an external one.

## Main results

* `Resolver.transGen_aliasEdge_of_contains`: without such fallbacks, types that contain
  themselves are aliases of each other;
* `Resolver.contains_acyclic_iff`: no generated type contains itself exactly if no type leads
  back to one that falls back to it.
-/

import Accord.Contract.Check
import Accord.Proofs.Emit.Containment

namespace Accord.Resolver

open Source (NameTable)

variable {c : Contract} {r : Resolver} {t : TypeExpr} {m n owner : TypeName} {d : Definition}

/-! ### What a type is generated as -/

/-- A type is generated as the type of a name: it refers to the name, or it is an external type
that nothing stands for, and its fallback is generated so. -/
inductive ResolvesTo (r : Resolver) : TypeExpr → TypeName → Prop where
  | reference {n : TypeName} (hn : n ∈ r.contract.typeNames) : ResolvesTo r (.reference n) n
  | fallback {x n : TypeName} {t : TypeExpr} (hx : r.mapped? x = none) (h : ResolvesTo r t n) :
    ResolvesTo r (.externalOr x t) n

/-! ### What a generated type contains -/

/-- A generated type contains another by value: an object through a field that is not held by
pointer, an alias through what it stands for. -/
inductive Contains (r : Resolver) (owner n : TypeName) : Prop where
  | field {d : Definition} {fields : List FieldDef} {f : FieldDef}
    (hd : r.contract.definition? owner = some d) (hs : d.shape = .object fields)
    (hf : f ∈ fields) (hbox : r.boxed owner f.type = false) (hn : r.ResolvesTo f.type n)
  | target {d : Definition} {t : TypeExpr} {safety : LogSafety}
    (hd : r.contract.definition? owner = some d) (hs : d.shape = .aliasFor t safety)
    (hn : r.ResolvesTo t n)

/-- A definition holds an external type that falls back to the type of a name. -/
def FallsBack (r : Resolver) (owner n : TypeName) : Prop :=
  ∃ d x t, r.contract.definition? owner = some d ∧ d.Holds (.externalOr x t) ∧
    r.ResolvesTo (.externalOr x t) n

/-- A field of an external type is never held by pointer. -/
theorem FallsBack.contains (h : r.FallsBack owner n) : r.Contains owner n := by
  obtain ⟨d, x, t, hd, hholds, hn⟩ := h
  rcases hholds with ⟨fields, f, hs, hf, hft⟩ | ⟨safety, hs⟩
  · rw [← hft] at hn
    exact .field hd hs hf (by rw [hft]; rfl) hn
  · exact .target hd hs hn

/-- What a type contains it falls back to, or it refers to it directly. An object that refers to
it directly does not hold it by pointer. -/
theorem Contains.cases_edge (h : r.Contains owner n) : r.FallsBack owner n ∨
    (containment r.contract).Edge owner n ∧
      (IsAlias r.contract owner ∨ r.boxed owner (.reference n) = false) := by
  have split {t : TypeExpr} {d : Definition} (hd : r.contract.definition? owner = some d)
      (hholds : d.Holds t) (hn : r.ResolvesTo t n) : r.FallsBack owner n ∨
        (containment r.contract).Edge owner n ∧ t = .reference n := by
    cases hn with
    | reference hdef => exact .inr ⟨edge_containment_iff.mpr ⟨⟨d, hd, hholds⟩, hdef⟩, rfl⟩
    | fallback hx ht => exact .inl ⟨d, _, _, hd, hholds, .fallback hx ht⟩
  cases h with
  | field hd hs hf hbox hn =>
    refine (split hd (.inl ⟨_, _, hs, hf, rfl⟩) hn).imp_right ?_
    rintro ⟨hedge, hft⟩
    exact ⟨hedge, .inr (hft ▸ hbox)⟩
  | target hd hs hn =>
    refine (split hd (.inr ⟨_, hs⟩) hn).imp_right ?_
    rintro ⟨hedge, -⟩
    exact ⟨hedge, .inl ⟨_, _, _, hd, hs⟩⟩

/-! ### Types that contain themselves -/

section NoReturn

variable (hr : r.components = (containment r.contract).components)
  (hback : ∀ o n, r.FallsBack o n → ¬ Relation.ReflTransGen r.Contains n o)

include hback

theorem edge_of_contains (h : r.Contains m n) (hnm : Relation.ReflTransGen r.Contains n m) :
    (containment r.contract).Edge m n ∧
      (IsAlias r.contract m ∨ r.boxed m (.reference n) = false) :=
  h.cases_edge.resolve_left fun hfall => hback m n hfall hnm

theorem reaches_of_contains (h : Relation.ReflTransGen r.Contains m n)
    (hnm : Relation.ReflTransGen r.Contains n m) : (containment r.contract).Reaches m n := by
  induction h with
  | refl => exact .refl _
  | tail hpath hlast ih =>
    have hedge := (edge_of_contains hback hlast (hnm.trans hpath)).1
    exact (ih (.head hlast hnm)).tail hedge

include hr

/-- A type that contains itself is an alias: the field of an object would be held by pointer. -/
theorem isAlias_of_contains (h : r.Contains m n) (hnm : Relation.ReflTransGen r.Contains n m) :
    IsAlias r.contract m := by
  obtain ⟨hedge, halias | hbox⟩ := edge_of_contains hback h hnm
  · exact halias
  · -- The way back is one along edges, which is what decides about pointers.
    have hreach := reaches_of_contains hback hnm (.single h)
    rw [(boxed_reference_iff hr hedge).mpr hreach] at hbox
    cases hbox

/-- Types that contain themselves are aliases of each other. -/
theorem transGen_aliasEdge_of_contains (h : Relation.TransGen r.Contains n n) :
    Relation.TransGen (AliasEdge r.contract) n n := by
  refine transGen_of_between h fun x y hnx hxy hyn => ?_
  have hyx := hyn.trans hnx
  -- The step that leaves `y` is on the circle as well.
  obtain ⟨z, hyz, hzy⟩ := Relation.TransGen.head'_iff.mp (Relation.TransGen.tail' hyx hxy)
  exact ⟨(edge_of_contains hback hxy hyx).1, isAlias_of_contains hr hback hxy hyx,
    isAlias_of_contains hr hback hyz hzy⟩

end NoReturn

variable {target : Target} {names : NameTable}

/-- No generated type contains itself by value exactly if no type leads back to one that falls
back to it. -/
theorem contains_acyclic_iff (h : make c target names = .ok r) :
    (∀ n, ¬ Relation.TransGen r.Contains n n) ↔
      ∀ o n, r.FallsBack o n → ¬ Relation.ReflTransGen r.Contains n o := by
  obtain ⟨rfl, hcircle⟩ := make_eq_ok_iff.mp h
  constructor
  · intro hacyclic o n hfall hno
    exact hacyclic o (Relation.TransGen.head' hfall.contains hno)
  · intro hback n hn
    exact hcircle ⟨n, transGen_aliasEdge_of_contains rfl hback hn⟩

/-! ### A type with one field -/

/-- The name of a type with one field. -/
def node : TypeName := ⟨"Node", "com.example.a"⟩

/-- A type with one field. -/
def linked (t : TypeExpr) : Definition := ⟨node, [], .object [{ name := "next", type := t }]⟩

/-- A type that refers to itself directly does not contain itself. -/
theorem contains_acyclic_iff_self_reference :
    make (linked (.reference node)).alone (ofDefinition (linked (.reference node))).target {} =
        .ok (ofDefinition (linked (.reference node))) ∧
      ∀ n, ¬ Relation.TransGen (ofDefinition (linked (.reference node))).Contains n n := by
  have hmake := make_alone (d := linked (.reference node)) (by simp [linked])
  refine ⟨hmake, (contains_acyclic_iff hmake).mpr ?_⟩
  rintro o n ⟨d, x, t, hd, hholds, -⟩
  obtain rfl := eq_of_definition?_alone hd
  simp [linked, Definition.Holds] at hholds

/-- An external type that falls back to the type with one field. -/
def fallbackToNode : TypeExpr := .externalOr ⟨"L", "j"⟩ (.reference node)

/-- A type that falls back to itself contains itself, though nothing is wrong with its
contract. -/
theorem self_fallback_contains_self :
    (linked fallbackToNode).alone.problems = [] ∧
      make (linked fallbackToNode).alone (ofDefinition (linked fallbackToNode)).target {} =
        .ok (ofDefinition (linked fallbackToNode)) ∧
      Relation.TransGen (ofDefinition (linked fallbackToNode)).Contains node node := by
  refine ⟨rfl, make_alone (by simp [linked]), .single ?_⟩
  refine .field rfl rfl List.mem_cons_self rfl (.fallback rfl (.reference ?_))
  exact Contract.mem_typeNames.mpr ⟨_, rfl⟩

end Accord.Resolver
