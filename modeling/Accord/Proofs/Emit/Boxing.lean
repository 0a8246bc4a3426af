/-
# Fields that are held by pointer

A field is held by pointer if it refers to a type on the same circle of types that contain each
other as its owner. Only aliases and objects are on such a circle, and an alias leads to the next
type on it; as aliases alone make no circle, every type on it leads to an object. So a field that is
held by pointer is required, and the code that sets fields, which takes the address of a required
value only where the field is held by pointer, assigns values of the type that the field has.

## Main definitions

* `Resolver.IsObject`: a name is declared as an object;
* `Emit.HasType`, `Emit.Returns`: the types of expressions, and of what code returns;
* `Emit.Assigns`: a declaration assigns to fields only values of their types;
* `Emit.Typed`: the declarations of an object treat its fields as what they are.

## Main results

* `Resolver.endsAt_object_of_circle`: a type on a circle leads to an object;
* `Resolver.isRequired_of_boxed`: a field that is held by pointer is required;
* `Emit.Built.typed`: the declarations of an object are typed if that is so;
* `Resolver.boxed_only_required`: both together.
-/

import Accord.Proofs.Emit.FiniteSize
import Accord.Proofs.Emit.Omission

namespace Accord

open Source

/-! ### Circles -/

namespace Resolver

variable {c : Contract} {r : Resolver} {t : TypeExpr} {k m n owner : TypeName}

/-- A name is declared as an object. -/
def IsObject (c : Contract) (n : TypeName) : Prop :=
  ∃ d fields, c.definition? n = some d ∧ d.shape = .object fields

/-- An alias leads to the type that it contains. -/
theorem leads_of_edge (halias : IsAlias r.contract n) (hedge : (containment r.contract).Edge n m) :
    r.Leads (.reference n) (.reference m) := by
  obtain ⟨d, target, safety, hd, hs⟩ := halias
  obtain ⟨⟨d', hd', hholds⟩, -⟩ := edge_containment_iff.mp hedge
  obtain rfl : d = d' := Option.some.inj (hd.symm.trans hd')
  rcases hholds with ⟨fields, f, hobject, -⟩ | ⟨safety', halias⟩
  · rw [hs] at hobject
    cases hobject
  · exact .target (aliasTarget?_eq_some_iff.mpr ⟨d, safety', hd, halias⟩)

/-- A type that contains another and is no alias is an object. -/
theorem isObject_of_edge (halias : ¬ IsAlias c n) (hedge : (containment c).Edge n m) :
    IsObject c n := by
  obtain ⟨⟨d, hd, hholds⟩, -⟩ := edge_containment_iff.mp hedge
  rcases hholds with ⟨fields, f, hobject, -⟩ | ⟨safety, hs⟩
  · exact ⟨d, fields, hd, hobject⟩
  · exact absurd ⟨d, _, safety, hd, hs⟩ halias

/-- On the way along edges there is a first type that is no alias, or there are aliases only. -/
theorem exists_nonalias_or_aliases (h : (containment r.contract).Reaches n k) :
    (∃ m, Relation.ReflTransGen r.Leads (.reference n) (.reference m) ∧
      (containment r.contract).Reaches m k ∧ ¬ IsAlias r.contract m) ∨
    IsAlias r.contract n ∧ IsAlias r.contract k ∧
      Relation.ReflTransGen (AliasEdge r.contract) n k := by
  induction h using Relation.ReflTransGen.head_induction_on with
  | refl =>
    by_cases hk : IsAlias r.contract k
    · exact .inr ⟨hk, hk, .refl⟩
    · exact .inl ⟨k, .refl, .refl k, hk⟩
  | @head n next hedge hrest ih =>
    by_cases hn : IsAlias r.contract n
    · rcases ih with ⟨m, hleads, hmk, hm⟩ | ⟨hnext, hk, haliases⟩
      · exact .inl ⟨m, .head (leads_of_edge hn hedge) hleads, hmk, hm⟩
      · exact .inr ⟨hn, hk, .head ⟨hedge, hn, hnext⟩ haliases⟩
    · exact .inl ⟨n, .refl, .head hedge hrest, hn⟩

/-- A type on a circle leads to an object on the circle, unless aliases go round in a circle. -/
theorem endsAt_object_of_circle (hno : ¬ ∃ n, Relation.TransGen (AliasEdge r.contract) n n)
    (hcircle : Relation.TransGen (containment r.contract).Edge n n) :
    ∃ m, IsObject r.contract m ∧ r.EndsAt (.reference n) (.reference m) := by
  obtain ⟨next, hedge, hback⟩ := Relation.TransGen.head'_iff.mp hcircle
  have hfound : ∃ m, Relation.ReflTransGen r.Leads (.reference n) (.reference m) ∧
      (containment r.contract).Reaches m n ∧ ¬ IsAlias r.contract m := by
    by_cases hn : IsAlias r.contract n
    · rcases exists_nonalias_or_aliases hback with ⟨m, hleads, hmn, hm⟩ | ⟨hnext, -, haliases⟩
      · exact ⟨m, .head (leads_of_edge hn hedge) hleads, hmn, hm⟩
      · exact absurd ⟨n, Relation.TransGen.head' ⟨hedge, hn, hnext⟩ haliases⟩ hno
    · exact ⟨n, .refl, .refl n, hn⟩
  obtain ⟨m, hleads, hmn, hm⟩ := hfound
  -- The circle goes on from there, and only an object or an alias contains anything.
  obtain ⟨_, hleave, -⟩ := Relation.TransGen.head'_iff.mp (hcircle.trans_right hmn)
  refine ⟨m, isObject_of_edge hm hleave, hleads, ?_⟩
  intro t hstep
  cases hstep with
  | target hn =>
    apply hm
    exact isSome_aliasTarget?_iff.mp (by rw [hn]; rfl)

/-- A field that is held by pointer refers to a type on a circle. -/
theorem circle_of_boxed (hr : r.components = (containment r.contract).components)
    (h : r.boxed owner t = true) :
    ∃ n, t = .reference n ∧ Relation.TransGen (containment r.contract).Edge n n := by
  obtain ⟨n, rfl⟩ := exists_reference_of_boxed h
  refine ⟨n, rfl, ?_⟩
  simp only [boxed, hr] at h
  split at h
  case h_1 i j _ hj =>
    obtain ⟨component, hget, hmem, hn⟩ := Graph.componentOf?_eq_some hj
    simp only [Bool.and_eq_true, decide_eq_true_eq] at h
    obtain ⟨rfl, hcyclic⟩ := h
    rw [hget] at hcyclic
    exact (Graph.cyclic_iff hmem hn).mp hcyclic
  case h_2 => cases h

/-- What leads to a reference is required. -/
theorem isRequired_of_endsAt_reference (h : r.EndsAt t (.reference m)) : r.isRequired t = true := by
  obtain ⟨hpath, hend⟩ := h
  induction hpath using Relation.ReflTransGen.head_induction_on with
  | refl => exact (isRequired_of_end hend).mpr rfl
  | head hstep hrest ih =>
    cases hstep with
    | target hn => rw [isRequired_target hn ⟨hrest, hend⟩, ih]
    | fallback hx => rw [isRequired_fallback hx, ih]

variable {target : Target} {names : NameTable}

/-- A field that is held by pointer leads to an object, and is required. -/
theorem isRequired_of_boxed (hmake : make c target names = .ok r) (h : r.boxed owner t = true) :
    r.isRequired t = true ∧ ∃ m, IsObject c m ∧ r.EndsAt t (.reference m) := by
  obtain ⟨rfl, hno⟩ := make_eq_ok_iff.mp hmake
  obtain ⟨n, rfl, hcircle⟩ := circle_of_boxed rfl h
  obtain ⟨m, hm, hends⟩ := endsAt_object_of_circle hno hcircle
  exact ⟨isRequired_of_endsAt_reference hends, m, hm, hends⟩

theorem isRequired_optional (item : TypeExpr) : r.isRequired (.optional item) = false := by
  have hend : ∀ u, ¬ r.Leads (.optional item) u := by
    intro u h
    cases h
  rw [isRequired, requiredFrom_of_end hend]
  rfl

end Resolver

/-! ### Types of generated code -/

/-- The statements of a function. -/
def Source.Decl.body : Decl → List Stmt
  | .func _ _ _ body => body
  | _ => []

/-- The parameters of a function. -/
def Source.Decl.params : Decl → List Param
  | .func _ _ signature _ => signature.params
  | _ => []

namespace Emit

/-- What the methods of an object are checked against: the expression that holds the object, the
fields of its struct, the variables, and the pointers that were found to lead somewhere. -/
structure Context where
  place : Expr
  fields : List StructField
  vars : List Param
  present : List Expr := []

/-- The types of expressions. A pointer is followed only where it leads somewhere. -/
inductive HasType (Γ : Context) : Expr → Ty → Prop
  | var {x : Text} {t : Ty} : ⟨x, t⟩ ∈ Γ.vars → HasType Γ (.ident x) t
  | field {x : Text} {t : Ty} {tag : Option Text} : ⟨x, t, tag⟩ ∈ Γ.fields →
      HasType Γ (.select Γ.place x) t
  | address {e : Expr} {t : Ty} : HasType Γ e t → HasType Γ (.address e) (.pointer t)
  | deref {e : Expr} {t : Ty} : HasType Γ e (.pointer t) → e ∈ Γ.present → HasType Γ (.deref e) t
  | append {e more : Expr} {t : Ty} : HasType Γ e (.slice t) → HasType Γ more (.variadic t) →
      HasType Γ (.call (.ident "append") [e, .spread more]) (.slice t)

/-- Code that returns values of the given types: it may declare variables and leave early where a
pointer is null. -/
inductive Returns (results : List Ty) : Context → List Stmt → Prop
  | ret {Γ : Context} {values : List Expr} : List.Forall₂ (HasType Γ) values results →
      Returns results Γ [.ret values]
  | var {Γ : Context} {x : Text} {t : Ty} {rest : List Stmt} :
      Returns results { Γ with vars := ⟨x, t⟩ :: Γ.vars } rest →
      Returns results Γ (.var x t :: rest)
  | guard {Γ : Context} {e : Expr} {t : Ty} {absent rest : List Stmt} :
      HasType Γ e (.pointer t) → Returns results Γ absent →
      Returns results { Γ with present := e :: Γ.present } rest →
      Returns results Γ (.when (.isNull e) absent :: rest)

/-- The object that a builder holds. -/
def held : Expr := .select (.ident "b") "v"

/-- All that a declaration assigns to fields are values of their types, for fields of the object
that a builder holds. -/
def Assigns (fields : List StructField) (item : Item) : Prop :=
  ∀ place field value, Stmt.assign (.select place field) value ∈ item.decl.body →
    place = held ∧ ∃ f ∈ fields, f.name = field ∧
      HasType { place := held, fields, vars := item.decl.params } value f.type

/-- The names that stand for truth values everywhere. -/
def truthValues : List Param := [⟨"true", .bool⟩, ⟨"false", .bool⟩]

/-- The declarations of an object treat its fields as what they are: a field has a method that sets
it to a value of its type, and one that returns such a value, and what is assigned to a field has
the type of the field. -/
structure Typed (name : Text) (plans : List FieldPlan) (items : List Item) : Prop where
  struct : ∃ docs, ⟨docs, .struct name (structFields plans)⟩ ∈ items
  nodup : ((structFields plans).map (·.name)).Nodup
  assigns : ∀ item ∈ items, Assigns (structFields plans) item
  sets : ∀ p ∈ plans, ∃ receiver next value,
    ⟨[], .func receiver p.member ⟨[⟨"v", p.valueType⟩], [.ident next]⟩
      [.assign (.select held p.field) value, .ret [.ident "b"]]⟩ ∈ items
  returns : ∀ p ∈ plans, ∃ docs results body,
    ⟨docs, method "o" (.ident name) p.member [] (p.valueType :: results) body⟩ ∈ items ∧
      Returns (p.valueType :: results)
        { place := .ident "o", fields := structFields plans, vars := truthValues } body

/-! ### Accessors -/

variable {r : Resolver} {owner : TypeName} {name docs : Text} {fields : List FieldDef}
  {items : List Item} {plans : List FieldPlan} {b : BuilderPlan} {f : FieldPlan}

theorem mem_structFields (hf : f ∈ plans) : ⟨f.field, f.fieldType, none⟩ ∈ structFields plans :=
  List.mem_map_of_mem hf

/-- The accessor of a field returns what its type says. -/
theorem returns_accessor (r : Resolver) (name : Text) (hf : f ∈ plans)
    (htype : f.fieldType = if f.boxed || f.optional then .pointer f.valueType else f.valueType) :
    ∃ docs results body, accessor r name f =
        ⟨docs, method "o" (.ident name) f.member [] (f.valueType :: results) body⟩ ∧
      Returns (f.valueType :: results)
        { place := .ident "o", fields := structFields plans, vars := truthValues } body := by
  have hfield : ∀ vars present, HasType ⟨.ident "o", structFields plans, vars, present⟩
      (.select (.ident "o") f.field) f.fieldType := by
    intro vars present
    exact .field (mem_structFields hf)
  unfold accessor
  cases hoptional : f.optional with
  | true =>
    -- The pointer is followed only after the test that it is not null.
    rw [hoptional, Bool.or_true, if_pos rfl] at htype
    rw [htype] at hfield
    refine ⟨_, _, _, rfl, .guard (hfield _ _) (.var (.ret ?_)) (.ret ?_)⟩
    · exact .cons (.var List.mem_cons_self)
        (.cons (.var (.tail _ (.tail _ List.mem_cons_self))) .nil)
    · exact .cons (.deref (hfield _ _) List.mem_cons_self) (.cons (.var List.mem_cons_self) .nil)
  | false =>
    cases hboxed : f.boxed with
    | true =>
      rw [hboxed, Bool.true_or, if_pos rfl] at htype
      rw [htype] at hfield
      refine ⟨_, _, _, rfl, .guard (hfield _ _) (.var (.ret ?_)) (.ret ?_)⟩
      · exact .cons (.var List.mem_cons_self) .nil
      · exact .cons (.deref (hfield _ _) List.mem_cons_self) .nil
    | false =>
      rw [hboxed, hoptional] at htype
      rw [htype] at hfield
      exact ⟨_, _, _, rfl, .ret (.cons (hfield _ _) .nil)⟩

/-! ### Setters -/

/-- The method that sets a field to a value or to its address. -/
def setter (b : BuilderPlan) (f : FieldPlan) (next : Text) (byAddress : Bool) : Item :=
  ⟨[], .func (some ⟨"b", .pointer (.ident b.impl)⟩) f.member (setterSignature f next)
    [.assign (.select held f.field) (if byAddress then .address (.ident "v") else .ident "v"),
     .ret [.ident "b"]]⟩

/-- The method that adds elements to a field. -/
def adder (b : BuilderPlan) (f : FieldPlan) (add : Text) (itemType : Ty) : Item :=
  ⟨[], .func (some ⟨"b", .pointer (.ident b.impl)⟩) add (adderSignature itemType b.final)
    [.assign (.select held f.field)
      (.call (.ident "append") [.select held f.field, .spread (.ident "v")]),
     .ret [.ident "b"]]⟩

/-- The methods of a field that is not required. -/
def defaultedMethods (b : BuilderPlan) (f : FieldPlan) : List Item :=
  setter b f b.final f.optional :: match f.add? with
    | some (add, itemType) => [adder b f add itemType]
    | none => []

theorem builderMethods_eq {others : List FieldPlan} : builderMethods name b others =
    b.steps.map (fun (f, _, next) => setter b f next f.boxed) ++
      others.flatMap (defaultedMethods b) ++
      [⟨[], method "b" (.pointer (.ident b.impl)) "Build" [] [.ident name] [.ret [held]]⟩] := by
  rfl

/-- The steps of a builder are for the fields that it has stages for. -/
theorem map_fst_steps (b : BuilderPlan) : b.steps.map (·.1) = b.stages.map (·.1) := by
  have hlength : b.stages.length ≤ ((b.stages.map (·.2)).drop 1 ++ [b.final]).length := by
    rw [List.length_append, List.length_drop, List.length_map, List.length_singleton]
    omega
  calc b.steps.map (·.1)
      = (b.stages.zip ((b.stages.map (·.2)).drop 1 ++ [b.final])).map (·.1.1) := by
        rw [BuilderPlan.steps, List.map_zipWith, List.zip, List.map_zipWith]
    _ = ((b.stages.zip ((b.stages.map (·.2)).drop 1 ++ [b.final])).map (·.1)).map (·.1) :=
        List.map_map.symm
    _ = b.stages.map (·.1) := by rw [List.map_fst_zip hlength]

/-! ### Methods that set no field -/

/-- A declaration without assignments to fields. -/
theorem assigns_of_not_mem {declared : List StructField} {item : Item}
    (h : ∀ place field value, Stmt.assign (.select place field) value ∉ item.decl.body) :
    Assigns declared item :=
  fun place field value hmem => absurd hmem (h place field value)

theorem assign_not_mem_accessor {target value : Expr} :
    Stmt.assign target value ∉ (accessor r name f).decl.body := by
  unfold accessor
  cases f.optional <;> cases f.boxed <;> simp [method, Decl.body]

theorem assign_not_mem_writing {target value : Expr} :
    Stmt.assign target value ∉ writing r plans := by
  intro hmem
  rcases writing_cases hmem with h | ⟨g, -, -, h⟩ | ⟨g, -, -, condition, h⟩ | h <;> cases h

theorem assign_select_not_mem_reading {place value : Expr} {field : Text} :
    Stmt.assign (.select place field) value ∉ reading r name plans := by
  unfold reading
  cases plans.isEmpty <;>
    simp [FieldPlan.read, Stmt.checkErr, Stmt.returnErr, Expr.deref]

theorem body_builderInterfaces {others : List FieldPlan} :
    ∀ item ∈ builderInterfaces name b others, item.decl.body = [] := by
  intro item hitem
  unfold builderInterfaces at hitem
  rcases List.mem_append.mp hitem with hstage | hfinal
  · obtain ⟨step, -, rfl⟩ := List.mem_map.mp hstage
    rfl
  · obtain rfl := List.mem_singleton.mp hfinal
    rfl

namespace Built

variable (h : Built r owner name fields docs items plans b)

include h

/-- The steps of a builder are for the required fields of the object. -/
theorem exists_step_iff : (∃ stage next, (f, stage, next) ∈ b.steps) ↔ f ∈ plans ∧ f.required := by
  have hmem : f ∈ b.steps.map (·.1) ↔ f ∈ plans.filter (·.required) := by
    rw [map_fst_steps, h.stages_eq]
  rw [List.mem_filter] at hmem
  rw [← hmem]
  simp

/-- What a setter assigns has the type of the field, if the address is taken where the field is a
pointer to the value. -/
theorem assigns_setter {next : Text} {byAddress : Bool} (hf : f ∈ plans)
    (haddress : byAddress = (f.boxed || f.optional)) :
    Assigns (structFields plans) (setter b f next byAddress) := by
  intro place field value hmem
  have hassign : Stmt.assign (.select place field) value =
      .assign (.select held f.field) (if byAddress then .address (.ident "v") else .ident "v") := by
    simpa [setter, Decl.body] using hmem
  cases hassign
  refine ⟨rfl, _, mem_structFields hf, rfl, ?_⟩
  have hvar : HasType ⟨held, structFields plans, [⟨"v", f.valueType⟩], []⟩ (.ident "v")
      f.valueType := .var List.mem_cons_self
  rw [(h.plans_source hf).valueType, ← haddress]
  cases byAddress with
  | true => exact .address hvar
  | false => exact hvar

/-- What an adder assigns has the type of the field. -/
theorem assigns_adder {add : Text} {itemType : Ty} (hf : f ∈ plans)
    (hadd : f.add? = some (add, itemType)) :
    Assigns (structFields plans) (adder b f add itemType) := by
  intro place field value hmem
  have hassign : Stmt.assign (.select place field) value = .assign (.select held f.field)
      (.call (.ident "append") [.select held f.field, .spread (.ident "v")]) := by
    simpa [adder, Decl.body] using hmem
  cases hassign
  refine ⟨rfl, _, mem_structFields hf, rfl, ?_⟩
  have hslice := (h.plans_source hf).itemType add itemType hadd
  rw [hslice]
  exact .append (.field (hslice ▸ mem_structFields hf)) (.var List.mem_cons_self)

/-- What a builder assigns has the types of the fields, if only required fields are held by
pointer. -/
theorem assigns_builderMethods (hboxed : ∀ p ∈ plans, p.boxed = true → p.required = true)
    (hoptional : ∀ p ∈ plans, p.optional = true → p.required = false) :
    ∀ item ∈ builderMethods name b (plans.filter (!·.required)),
      Assigns (structFields plans) item := by
  intro item hitem
  rw [builderMethods_eq, List.mem_append, List.mem_append, List.mem_singleton] at hitem
  rcases hitem with (hstep | hother) | rfl
  · -- A required field is not optional, so that it is enough to ask whether it is boxed.
    obtain ⟨⟨f, stage, next⟩, hmem, rfl⟩ := List.mem_map.mp hstep
    obtain ⟨hf, hrequired⟩ := h.exists_step_iff.mp ⟨stage, next, hmem⟩
    apply h.assigns_setter hf
    cases hopt : f.optional with
    | true =>
      rw [hoptional f hf hopt] at hrequired
      cases hrequired
    | false => rw [Bool.or_false]
  · obtain ⟨f, hmem, hitem⟩ := List.mem_flatMap.mp hother
    obtain ⟨hf, hrequired⟩ := List.mem_filter.mp hmem
    rcases List.mem_cons.mp hitem with rfl | hadder
    · -- Any other field is not boxed, so that it is enough to ask whether it is optional.
      apply h.assigns_setter hf
      cases hbox : f.boxed with
      | true =>
        rw [hboxed f hf hbox] at hrequired
        cases hrequired
      | false => rw [Bool.false_or]
    · cases hadd : f.add? with
      | none =>
        rw [hadd] at hadder
        cases hadder
      | some added =>
        rw [hadd] at hadder
        obtain rfl := List.mem_singleton.mp hadder
        exact h.assigns_adder hf hadd
  · intro place field value hmem
    simp [method, Decl.body] at hmem

/-- What the declarations of an object assign has the types of the fields. -/
theorem assigns_items (hboxed : ∀ p ∈ plans, p.boxed = true → p.required = true)
    (hoptional : ∀ p ∈ plans, p.optional = true → p.required = false) :
    ∀ item ∈ items, Assigns (structFields plans) item := by
  intro item hitem
  rw [h.items_eq, objectMarshal_eq, objectUnmarshal_eq] at hitem
  simp only [builderItems, List.mem_append, List.mem_cons, List.not_mem_nil, or_false] at hitem
  rcases hitem with ((rfl | haccessor) | (hinterface | rfl | rfl) | hmethod) | rfl | rfl
  · exact assigns_of_not_mem fun _ _ _ hmem => nomatch hmem
  · obtain ⟨p, -, rfl⟩ := List.mem_map.mp haccessor
    exact assigns_of_not_mem fun _ _ _ => assign_not_mem_accessor
  · refine assigns_of_not_mem fun _ _ _ hmem => ?_
    rw [body_builderInterfaces item hinterface] at hmem
    cases hmem
  · exact assigns_of_not_mem fun _ _ _ hmem => nomatch hmem
  · refine assigns_of_not_mem fun _ _ _ hmem => ?_
    simp [Decl.body] at hmem
  · exact h.assigns_builderMethods hboxed hoptional item hmethod
  · exact assigns_of_not_mem fun _ _ _ => assign_not_mem_writing
  · exact assigns_of_not_mem fun _ _ _ => assign_select_not_mem_reading

/-- A field has a setter. -/
theorem exists_setter (hf : f ∈ plans) : ∃ next byAddress, setter b f next byAddress ∈ items := by
  have hmethod : ∃ next byAddress,
      setter b f next byAddress ∈ builderMethods name b (plans.filter (!·.required)) := by
    rw [builderMethods_eq]
    cases hrequired : f.required with
    | true =>
      obtain ⟨stage, next, hstep⟩ := h.exists_step_iff.mpr ⟨hf, hrequired⟩
      have hmem := List.mem_map_of_mem (f := fun (f, _, next) => setter b f next f.boxed) hstep
      exact ⟨next, f.boxed, List.mem_append_left _ (List.mem_append_left _ hmem)⟩
    | false =>
      have hother : f ∈ plans.filter (!·.required) :=
        List.mem_filter.mpr ⟨hf, by rw [hrequired]; rfl⟩
      have hown : setter b f b.final f.optional ∈ defaultedMethods b f := List.mem_cons_self
      have hmem := List.mem_flatMap_of_mem hother hown
      exact ⟨b.final, f.optional, List.mem_append_left _ (List.mem_append_right _ hmem)⟩
  obtain ⟨next, byAddress, hmem⟩ := hmethod
  refine ⟨next, byAddress, ?_⟩
  rw [h.items_eq]
  simp [builderItems, hmem]

/-- The declarations of an object are typed if only required fields are held by pointer. -/
theorem typed (hboxed : ∀ p ∈ plans, p.boxed = true → p.required = true)
    (hoptional : ∀ p ∈ plans, p.optional = true → p.required = false) :
    Typed name plans items where
  struct := by
    refine ⟨r.docLines docs [], ?_⟩
    rw [h.items_eq]
    exact List.mem_cons_self
  nodup := by
    rw [structFields, List.map_map]
    exact h.nodup
  assigns := h.assigns_items hboxed hoptional
  sets := by
    intro p hp
    obtain ⟨next, byAddress, hmem⟩ := h.exists_setter hp
    exact ⟨_, next, _, hmem⟩
  returns := by
    intro p hp
    obtain ⟨docs', results, body, haccessor, hreturns⟩ :=
      returns_accessor r name hp (h.plans_source hp).valueType
    refine ⟨docs', results, body, ?_, hreturns⟩
    rw [← haccessor, h.items_eq]
    simp [List.mem_map_of_mem hp]

end Built

end Emit

/-! ### Boxed fields -/

namespace Resolver

variable {c : Contract} {target : Target} {names : NameTable} {r : Resolver}

/-- A field that is held by pointer leads to an object, and is required. So the generated code of an
object, which takes the address of a required value only where the field is held by pointer, and of
another only where the field is an optional, never assigns to a field what is not of its type. -/
theorem boxed_only_required (hmake : make c target names = .ok r) :
    (∀ owner t, r.boxed owner t = true →
      r.isRequired t = true ∧ ∃ m, IsObject c m ∧ r.EndsAt t (.reference m)) ∧
    ∀ owner name fields docs seed s items plans s',
      Emit.object r owner name fields docs seed s = .ok ((items, plans), s') →
      List.Forall₂ (FieldPlan.Plans r owner) fields plans ∧ Emit.Typed name plans items := by
  refine ⟨fun owner t h => isRequired_of_boxed hmake h, ?_⟩
  intro owner name fields docs seed s items plans s' hobject
  obtain ⟨b, hbuilt⟩ := Emit.yields_object owner name fields docs seed s _ s' hobject
  refine ⟨hbuilt.planned, hbuilt.typed ?_ ?_⟩
  · intro p hp hbox
    have hplan := hbuilt.plans_source hp
    rw [hplan.required]
    rw [hplan.boxed] at hbox
    exact (isRequired_of_boxed hmake hbox).1
  · intro p hp hopt
    have hplan := hbuilt.plans_source hp
    obtain ⟨item, hitem⟩ := hplan.optional.mp hopt
    rw [hplan.required, hitem]
    exact isRequired_optional item

/-! ### A circle through an alias -/

/-- A type with one field, which refers back to it through an alias. -/
def ring : Contract where
  version := 1
  errors := []
  types := [aliased (.reference node), linked (.reference handle)]
  services := []
  extensions := []

/-- The resolver of the circle. -/
def ofRing : Resolver :=
  ⟨ring, (ofDefinition (linked (.reference handle))).target, [], [⟨[node, handle], true⟩]⟩

/-- Which types of the circle contain which. -/
def ringGraph : Graph TypeName := { containment ring with nodes := [handle, node] }

theorem containment_ring : containment ring = ringGraph := by
  have hnames : ring.typeNames = [handle, node] := List.mergeSort_of_pairwise (by decide +kernel)
  unfold containment ringGraph
  rw [hnames]
  rfl

theorem components_ring : (containment ring).components = ofRing.components := by
  have hvisit : Graph.Walk.visit ringGraph {} handle =
      (Graph.Walk.step ringGraph)^[4] (.enter ringGraph {} handle) :=
    Graph.Walk.run_eq_iterate rfl
  -- The second node was met on the walk from the first.
  calc (containment ring).components
      = (Graph.Walk.visit ringGraph (Graph.Walk.visit ringGraph {} handle) node).groups.map
          fun members => ⟨members, ringGraph.isCyclic members⟩ := by rw [containment_ring]; rfl
    _ = ofRing.components := by rw [hvisit]; rfl

/-- The field of a type on a circle through an alias is held by pointer, and its code is typed. -/
theorem boxed_only_required_ring :
    make ring ofRing.target {} = .ok ofRing ∧
      ofRing.boxed node (.reference handle) = true ∧
      ofRing.isRequired (.reference handle) = true ∧
      ∃ items plans s', Emit.object ofRing node "Node"
          [{ name := "next", type := .reference handle }] [] [] { names := {} } =
            .ok ((items, plans), s') ∧
        plans.map (·.boxed) = [true] ∧ Emit.Typed "Node" plans items := by
  have hmake : make ring ofRing.target {} = .ok ofRing := by
    unfold make
    rw [components_ring]
    rfl
  have hbox : ofRing.boxed node (.reference handle) = true := rfl
  have hok : (Emit.object ofRing node "Node" [{ name := "next", type := .reference handle }] [] []
      { names := {} }).isOk = true := by decide +kernel
  obtain ⟨⟨⟨items, plans⟩, s'⟩, hobject⟩ := Outcome.isOk_iff.mp hok
  obtain ⟨hrequired, htyped⟩ := boxed_only_required hmake
  obtain ⟨hplans, htyped⟩ := htyped _ _ _ _ _ _ _ _ _ hobject
  refine ⟨hmake, hbox, (hrequired _ _ hbox).1, items, plans, s', hobject, ?_, htyped⟩
  cases hplans with
  | cons hplan hrest =>
    cases hrest
    rw [List.map_singleton, hplan.boxed, hbox]

end Resolver

end Accord
