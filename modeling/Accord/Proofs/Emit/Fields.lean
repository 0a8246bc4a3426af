/-
# Fields of generated objects

The code of an object is made from the plans of its fields. A plan says what the code needs to know
of a field: its identifier, the type it has in the struct and the type its values have outside, and
whether it is required, held by pointer or optional. This module says what the plans of an object
are, and which declarations are made from them.

## Main definitions

* `Emit.Yields`: what is true of the result of work that succeeds;
* `FieldPlan.Plans`: what a plan says of its field;
* `Emit.Built`: the plans and identifiers that the declarations of an object are made from.

## Main results

* `Emit.yields_planField`, `Emit.yields_planFields`: the plans of fields;
* `Emit.yields_object`: the declarations of an object.
-/

import Accord.Proofs.Emit.Declarations
import Accord.Proofs.Outcome

namespace Accord

open Source

/-! ### Results -/

namespace Emit

variable {α β : Type} {x : Emit α} {f : α → Emit β}

/-- What is true of the result of work that succeeds. -/
def Yields (x : Emit α) (Q : α → Prop) : Prop := ∀ s a s', x s = .ok (a, s') → Q a

namespace Yields

variable {P Q : α → Prop} {R : β → Prop}

theorem pure {a : α} (h : Q a) : Yields (pure a) Q := by
  intro s b s' hb
  cases hb
  exact h

theorem trivial (x : Emit α) : Yields x fun _ => True := fun _ _ _ _ => True.intro

theorem mono (hx : Yields x P) (h : ∀ a, P a → Q a) : Yields x Q :=
  fun s a s' ha => h a (hx s a s' ha)

theorem bind (hx : Yields x P) (hf : ∀ a, P a → Yields (f a) R) : Yields (x >>= f) R := by
  intro s b s'' h
  obtain ⟨a, s', ha, hb⟩ := bind_eq_ok.mp h
  exact hf a (hx s a s' ha) s' b s'' hb

theorem within (hx : Yields x Q) (context : Text) : Yields (within context x) Q :=
  fun s a s' h => hx s a s' (within_eq_ok.mp h)

theorem lift (y : Except Fault α) : Yields (monadLift y : Emit α) fun a => y = .ok a :=
  fun _ _ _ h => (lift_eq_ok.mp h).1

/-- Work for each element of a list, where the element can be told from the result. -/
theorem mapM (back : β → α) (hf : ∀ a, Yields (f a) fun b => back b = a) (as : List α) :
    Yields (as.mapM f) fun bs => bs.map back = as := by
  induction as with
  | nil => exact pure rfl
  | cons a rest ih =>
    rw [List.mapM_cons]
    refine bind (hf a) fun b hb => bind ih fun bs hbs => pure ?_
    rw [List.map_cons, hb, hbs]

end Yields

variable {r : Resolver}

theorem yields_declareIn (scope : Scope) (name : Text) :
    Yields (declareIn scope name) fun (ident, scope') =>
      ident ∉ scope.names ∧ scope'.names = ident :: scope.names :=
  (Yields.lift _).mono fun _ h => Scope.declare_eq_ok h

theorem yields_resolve (t : TypeExpr) : Yields (resolve r t) fun g => r.goType t = .ok g :=
  .bind (.trivial _) fun _ _ => .lift _

theorem yields_resolveField (owner : TypeName) (t : TypeExpr) :
    Yields (resolveField r owner t) fun g => r.fieldType owner t = .ok g :=
  .bind (.trivial _) fun _ _ => .lift _

end Emit

/-! ### Plans -/

/-- What a plan says of its field. -/
structure FieldPlan.Plans (r : Resolver) (owner : TypeName) (f : FieldDef) (p : FieldPlan) :
    Prop where
  source : p.source = f
  required : p.required = r.isRequired f.type
  boxed : p.boxed = r.boxed owner f.type
  optional : p.optional = true ↔ ∃ item, f.type = .optional item
  fieldType : r.fieldType owner f.type = .ok p.fieldType
  /-- The values of a field are what its type is a pointer to, or have the type itself. -/
  valueType : p.fieldType = if p.boxed || p.optional then .pointer p.valueType else p.valueType
  /-- Where elements can be added to a field, it is a slice of them. -/
  itemType : ∀ add item, p.add? = some (add, item) → p.fieldType = .slice item

namespace Resolver

variable {r : Resolver} {owner : TypeName} {t : TypeExpr} {g : Ty}

/-- Only references are held by pointer for the sake of their size. -/
theorem exists_reference_of_boxed (h : r.boxed owner t = true) : ∃ n, t = .reference n := by
  cases t with
  | reference n => exact ⟨n, rfl⟩
  | _ => cases h

theorem fieldType_eq_ok : r.fieldType owner t = .ok g ↔
    ∃ value, r.goType t = .ok value ∧ (if r.boxed owner t then .pointer value else value) = g :=
  Outcome.map_eq_ok

theorem fieldType_of_boxed (h : r.fieldType owner t = .ok g) (hbox : r.boxed owner t = true) :
    ∃ value, r.goType t = .ok value ∧ g = .pointer value := by
  obtain ⟨value, hvalue, rfl⟩ := fieldType_eq_ok.mp h
  exact ⟨value, hvalue, if_pos hbox⟩

theorem fieldType_optional {item : TypeExpr} (h : r.fieldType owner (.optional item) = .ok g) :
    ∃ value, r.goType item = .ok value ∧ g = .pointer value := by
  obtain ⟨pointer, hpointer, rfl⟩ := fieldType_eq_ok.mp h
  obtain ⟨value, hvalue, rfl⟩ := Outcome.map_eq_ok.mp hpointer
  exact ⟨value, hvalue, rfl⟩

/-- A field for a list or a set is a slice. -/
theorem fieldType_of_itemType? {item : TypeExpr} (h : r.fieldType owner t = .ok g)
    (hitem : Emit.itemType? t = some item) :
    ∃ value, r.goType item = .ok value ∧ g = .slice value := by
  obtain ⟨slice, hslice, rfl⟩ := fieldType_eq_ok.mp h
  cases t with
  | list item' =>
    cases hitem
    obtain ⟨value, hvalue, rfl⟩ := Outcome.map_eq_ok.mp hslice
    exact ⟨value, hvalue, rfl⟩
  | set item' =>
    cases hitem
    obtain ⟨value, hvalue, rfl⟩ := Outcome.map_eq_ok.mp hslice
    exact ⟨value, hvalue, rfl⟩
  | _ => cases hitem

end Resolver

namespace Emit

variable {r : Resolver} {owner : TypeName}

/-- What is planned for a field, given its identifiers in the scope of members. -/
theorem yields_planField (members : Scope) (f : FieldDef) :
    Yields (planField r owner members f) fun (p, members') =>
      FieldPlan.Plans r owner f p ∧ p.field ∉ members.names ∧ p.field ∈ members'.names ∧
        ∀ x ∈ members.names, x ∈ members'.names := by
  unfold planField
  refine .bind (.within (yields_declareIn _ _) _) fun (field, afterField) hfield => ?_
  refine .bind (.within (yields_declareIn _ _) _) fun (member, afterMember) hmember => ?_
  refine .bind (.within (yields_resolveField _ _) _) fun fieldType hft => ?_
  extract_lets boxed optional rest
  have hoptional : optional = true ↔ ∃ item, f.type = .optional item := by
    dsimp only [optional]
    cases f.type <;> simp
  obtain ⟨hfresh, hnames⟩ := hfield
  obtain ⟨-, hnames'⟩ := hmember
  have hkept : field ∈ afterMember.names ∧ ∀ x ∈ members.names, x ∈ afterMember.names := by
    rw [hnames', hnames]
    exact ⟨by simp, fun x hx => by simp [hx]⟩
  -- What follows is the same for all kinds of fields once the type of their values is known.
  have yields_rest : ∀ valueType : Ty,
      fieldType = (if boxed || optional then .pointer valueType else valueType) →
      Yields (rest valueType) fun (p, members') =>
        FieldPlan.Plans r owner f p ∧ p.field ∉ members.names ∧ p.field ∈ members'.names ∧
          ∀ x ∈ members.names, x ∈ members'.names := by
    intro valueType hvalue
    dsimp only [rest]
    split
    case h_1 => exact .pure ⟨⟨rfl, rfl, rfl, hoptional, hft, hvalue, nofun⟩, hfresh, hkept⟩
    case h_2 item hitem =>
      refine .bind (yields_resolve item) fun itemType hitemType => ?_
      refine .bind (.within (yields_declareIn _ _) _) fun (add, afterAdd) hadd => ?_
      obtain ⟨value, hgo, hslice⟩ := Resolver.fieldType_of_itemType? hft hitem
      obtain rfl : value = itemType := Except.ok.inj (hgo.symm.trans hitemType)
      refine .pure ⟨⟨rfl, rfl, rfl, hoptional, hft, hvalue, ?_⟩, hfresh, ?_⟩
      · rintro _ _ ⟨⟩
        exact hslice
      · rw [hadd.2]
        exact ⟨List.mem_cons_of_mem add hkept.1,
          fun x hx => List.mem_cons_of_mem add (hkept.2 x hx)⟩
  split
  case h_1 item hitem =>
    refine .bind (yields_resolve item) fun valueType hvalue => yields_rest valueType ?_
    rw [hitem] at hft
    obtain ⟨value, hgo, hpointer⟩ := Resolver.fieldType_optional hft
    obtain rfl : value = valueType := Except.ok.inj (hgo.symm.trans hvalue)
    rw [hoptional.mpr ⟨item, hitem⟩, Bool.or_true, hpointer]
    rfl
  case h_2 hother =>
    have hnot : optional = false := by
      rw [← Bool.not_eq_true, hoptional]
      intro h
      obtain ⟨item, hitem⟩ := h
      exact hother item hitem
    split
    case isTrue hbox =>
      refine .bind (yields_resolve f.type) fun valueType hvalue => yields_rest valueType ?_
      obtain ⟨value, hgo, hpointer⟩ := Resolver.fieldType_of_boxed hft hbox
      obtain rfl : value = valueType := Except.ok.inj (hgo.symm.trans hvalue)
      rw [hbox, hpointer]
      rfl
    case isFalse hbox =>
      refine .bind (.pure rfl) fun valueType (hvalue : fieldType = valueType) => ?_
      apply yields_rest
      rw [Bool.not_eq_true] at hbox
      rw [hbox, hnot, hvalue]
      rfl

/-- The plans of an object are those of its fields, in order, with identifiers of their own. -/
theorem yields_planFields (members : Scope) (fields : List FieldDef) :
    Yields (planFields r owner members fields) fun (plans, _) =>
      List.Forall₂ (FieldPlan.Plans r owner) fields plans ∧ (plans.map (·.field)).Nodup ∧
        ∀ p ∈ plans, p.field ∉ members.names := by
  induction fields generalizing members with
  | nil => exact .pure ⟨.nil, .nil, by simp⟩
  | cons f rest ih =>
    refine .bind (yields_planField members f) fun (p, after) hp => ?_
    obtain ⟨hplan, hfresh, hdeclared, hkept⟩ := hp
    refine .bind (ih after) fun (plans, last) hplans => .pure ?_
    obtain ⟨hrest, hnodup, hnew⟩ := hplans
    refine ⟨.cons hplan hrest, ?_, ?_⟩
    · rw [List.map_cons, List.nodup_cons]
      refine ⟨fun hmem => ?_, hnodup⟩
      -- The identifiers of later fields are new after this one.
      obtain ⟨q, hq, hqp⟩ := List.mem_map.mp hmem
      apply hnew q hq
      rw [hqp]
      exact hdeclared
    · refine List.forall_mem_cons.mpr ⟨hfresh, fun q hq hmem => ?_⟩
      exact hnew q hq (hkept _ hmem)

/-! ### Declarations -/

/-- The stages of a builder are those of the required fields, in order. -/
theorem yields_planBuilder (package name : Text) (plans : List FieldPlan) :
    Yields (planBuilder package name plans) fun b =>
      b.stages.map (·.1) = plans.filter (·.required) := by
  unfold planBuilder
  refine .bind (.mapM (fun stage => stage.1) (fun f => ?_) _) fun stages hstages => ?_
  · exact .bind (.trivial _) fun _ _ => .pure rfl
  refine .bind (.trivial _) fun _ _ => .bind (.trivial _) fun _ _ => ?_
  exact .bind (.trivial _) fun _ _ => .pure hstages

/-- The declarations that set the fields of an object up. -/
def builderItems (name : Text) (b : BuilderPlan) (others : List FieldPlan) : List Item :=
  builderInterfaces name b others ++
    [⟨[], .struct b.impl [⟨"v", .ident name, none⟩]⟩,
     ⟨[b.ctor ++ " returns a builder for " ++ name ++ "."],
      .func none b.ctor ⟨[], [.ident ((b.stages.map (·.2)).headD b.final)]⟩
        [.ret [.address (.composite (.ident b.impl) [])]]⟩] ++
    builderMethods name b others

/-- The fields of the struct of an object. -/
def structFields (plans : List FieldPlan) : List StructField :=
  plans.map fun f => ⟨f.field, f.fieldType, none⟩

/-- The struct of an object. -/
def objectStruct (r : Resolver) (name docs : Text) (plans : List FieldPlan) : Item :=
  ⟨r.docLines docs [], .struct name (structFields plans)⟩

/-- The declarations of an object are made from the plans of its fields and of its builder. -/
structure Built (r : Resolver) (owner : TypeName) (name : Text) (fields : List FieldDef)
    (docs : Text) (items : List Item) (plans : List FieldPlan) (b : BuilderPlan) : Prop where
  planned : List.Forall₂ (FieldPlan.Plans r owner) fields plans
  nodup : (plans.map (·.field)).Nodup
  stages_eq : b.stages.map (·.1) = plans.filter (·.required)
  items_eq : items = [objectStruct r name docs plans] ++ plans.map (accessor r name) ++
    builderItems name b (plans.filter (!·.required)) ++
    [objectMarshal r name plans, objectUnmarshal r name plans]

namespace Built

variable {name docs : Text} {fields : List FieldDef} {items : List Item} {plans : List FieldPlan}
  {b : BuilderPlan}

theorem map_source (h : Built r owner name fields docs items plans b) :
    plans.map (·.source) = fields := by
  have hplanned := h.planned
  clear h
  induction hplanned with
  | nil => rfl
  | cons hplan _ ih => rw [List.map_cons, hplan.source, ih]

/-- A plan of an object is the plan of one of its fields. -/
theorem plans_source (h : Built r owner name fields docs items plans b) {p : FieldPlan}
    (hp : p ∈ plans) : FieldPlan.Plans r owner p.source p := by
  have hplanned := h.planned
  clear h
  induction hplanned with
  | nil => cases hp
  | cons hplan _ ih =>
    rcases List.mem_cons.mp hp with rfl | hp
    · exact hplan.source.symm ▸ hplan
    · exact ih hp

end Built

theorem yields_object (owner : TypeName) (name : Text) (fields : List FieldDef) (docs : Text)
    (seed : List Text) : Yields (object r owner name fields docs seed) fun (items, plans) =>
      ∃ b, Built r owner name fields docs items plans b := by
  refine .bind (.trivial _) fun scope _ => ?_
  refine .bind (yields_planFields scope fields) fun (plans, after) hplans => ?_
  obtain ⟨hplans, hnodup, -⟩ := hplans
  have hbuilder : Yields (builder (r.target.packagePath owner) name plans) fun items =>
      ∃ b, b.stages.map (·.1) = plans.filter (·.required) ∧
        items = builderItems name b (plans.filter (!·.required)) :=
    .bind (yields_planBuilder _ name plans) fun b hb => .pure ⟨b, hb, rfl⟩
  refine .bind (.trivial _) fun _ _ => .bind (.within hbuilder _) fun items hitems => .pure ?_
  obtain ⟨b, hstages, hitems⟩ := hitems
  exact ⟨b, hplans, hnodup, hstages, by rw [hitems]; rfl⟩

end Emit

end Accord
