/-
# Which types generated code declares

Generated code declares the type of its definition and further types beside it: the stages of
a builder, a visitor, a client, the struct of a query. The identifier of the definition is
declared before any code is written; all others are declared while it is. This module follows
the declared identifiers through the emitters.

## Main definitions

* `Source.declaredTypes`: the types that declarations declare;
* `Source.NameTable.Adds`: identifiers are added to a package, and none is lost;
* `Emit.Quiet`: work that declares nothing in any package;
* `Emit.Makes`: work that declares identifiers in a package, with what is true of them;
* `Emit.Declares`: declared types are the definition's own or were declared on the way.

## Main results

* `Emit.makes_object`, `Emit.makes_enum`, `Emit.makes_union`, `Emit.makes_aliasType`,
  `Emit.makes_error`, `Emit.makes_service`: every emitter declares, next to its own type, only
  identifiers that were new to its package.
-/

import Accord.Generate
import Accord.Proofs.Source.Scope

namespace Accord

open Source

/-! ### Declared types -/

namespace Source

/-- The type that a declaration declares. -/
def Decl.typeName? : Decl → Option Text
  | struct name _ => some name
  | interface name _ => some name
  | type name _ => some name
  | constants _ => none
  | func _ _ _ _ => none

/-- The types that declarations declare. -/
def declaredTypes (items : List Item) : List Text := items.filterMap (·.decl.typeName?)

@[simp] theorem declaredTypes_nil : declaredTypes [] = [] := rfl

@[simp] theorem declaredTypes_cons (i : Item) (items : List Item) :
    declaredTypes (i :: items) = i.decl.typeName?.toList ++ declaredTypes items := by
  unfold declaredTypes
  cases h : i.decl.typeName? <;> simp [h]

@[simp] theorem declaredTypes_append (a b : List Item) :
    declaredTypes (a ++ b) = declaredTypes a ++ declaredTypes b :=
  List.filterMap_append

theorem mem_declaredTypes {t : Text} {items : List Item} :
    t ∈ declaredTypes items ↔ ∃ i ∈ items, i.decl.typeName? = some t :=
  List.mem_filterMap

/-- Functions and constants declare no type. -/
theorem declaredTypes_eq_nil {items : List Item} (h : ∀ i ∈ items, i.decl.typeName? = none) :
    declaredTypes items = [] :=
  List.filterMap_eq_nil_iff.mpr h

/-! ### Added identifiers -/

namespace NameTable

variable {package : Text} {made more : List Text} {t u v : NameTable}

/-- Identifiers are added to a package: they were not there before, and are there afterwards
together with all that was there. -/
structure Adds (package : Text) (made : List Text) (t u : NameTable) : Prop where
  kept : ∀ q x, x ∈ t.idents q → x ∈ u.idents q
  fresh : ∀ x ∈ made, x ∉ t.idents package
  declared : ∀ x ∈ made, x ∈ u.idents package

theorem Adds.refl (package : Text) (t : NameTable) : Adds package [] t t where
  kept _ _ h := h
  fresh _ h := absurd h List.not_mem_nil
  declared _ h := absurd h List.not_mem_nil

theorem Adds.trans (h : Adds package made t u) (k : Adds package more u v) :
    Adds package (made ++ more) t v where
  kept q x hx := k.kept q x (h.kept q x hx)
  fresh x hx ht := by
    rcases List.mem_append.mp hx with hx | hx
    · exact h.fresh x hx ht
    · exact k.fresh x hx (h.kept package x ht)
  declared x hx := by
    rcases List.mem_append.mp hx with hx | hx
    · exact k.kept package x (h.declared x hx)
    · exact k.declared x hx

theorem Adds.of_declare {name ident : Text} (h : t.declare package name = .ok (ident, u)) :
    Adds package [ident] t u := by
  obtain ⟨hfresh, hidents, -⟩ := declare_eq_ok h
  refine ⟨fun q x hx => ?_, by simpa using hfresh, by simp [hidents]⟩
  rw [hidents]
  by_cases hq : q = package
  · subst hq
    simp [hx]
  · simpa [hq] using hx

end NameTable

end Source

/-! ### Work on names -/

namespace Emit

variable {α β : Type} {x : Emit α} {f : α → Emit β} {package : Text} {s s' : Emission}

/-- Two steps succeed when the first does, and the second with its result and state. -/
theorem bind_eq_ok {result : β × Emission} : (x >>= f) s = .ok result ↔
    ∃ a s', x s = .ok (a, s') ∧ f a s' = .ok result := by
  constructor
  · intro h
    obtain ⟨⟨a, s'⟩, hx, hf⟩ := Outcome.bind_eq_ok.mp h
    exact ⟨a, s', hx, hf⟩
  · rintro ⟨a, s', hx, hf⟩
    exact Outcome.bind_eq_ok.mpr ⟨(a, s'), hx, hf⟩

theorem within_eq_ok {context : Text} {result : α × Emission} :
    within context x s = .ok result ↔ x s = .ok result := by
  unfold within
  cases x s with
  | error e =>
    constructor
    · intro h
      cases h
    · intro h
      cases h
  | ok a => rfl

theorem lift_eq_ok {y : Except Fault α} {a : α} :
    (monadLift y : Emit α) s = .ok (a, s') ↔ y = .ok a ∧ s' = s := by
  cases y with
  | error e => simp [monadLift, MonadLift.monadLift, StateT.lift, bind, Except.bind]
  | ok b =>
    simp [monadLift, MonadLift.monadLift, StateT.lift, bind, Except.bind, pure, Except.pure,
      eq_comm]

/-- Work that declares nothing in any package. -/
def Quiet (x : Emit α) : Prop :=
  ∀ s a s', x s = .ok (a, s') → s'.names.packages = s.names.packages

namespace Quiet

theorem pure (a : α) : Quiet (pure a : Emit α) := by
  rintro s _ _ ⟨⟩
  rfl

theorem throw (e : Fault) : Quiet (throw e : Emit α) := by
  rintro s _ _ ⟨⟩

theorem lift (y : Except Fault α) : Quiet (monadLift y : Emit α) := by
  intro s a s' h
  rw [(lift_eq_ok.mp h).2]

theorem bind (hx : Quiet x) (hf : ∀ a, Quiet (f a)) : Quiet (x >>= f) := by
  intro s b s'' h
  obtain ⟨a, s', ha, hb⟩ := bind_eq_ok.mp h
  rw [hf a s' b s'' hb, hx s a s' ha]

theorem within (hx : Quiet x) (context : Text) : Quiet (within context x) :=
  fun s a s' h => hx s a s' (within_eq_ok.mp h)

end Quiet

/-- Work that declares identifiers in a package, and what its result has to do with them. -/
def Makes (package : Text) (x : Emit α) (Q : α → List Text → Prop) : Prop :=
  ∀ s a s', x s = .ok (a, s') → ∃ made, NameTable.Adds package made s.names s'.names ∧ Q a made

namespace Makes

variable {P Q : α → List Text → Prop} {R : β → List Text → Prop}

theorem pure {a : α} (h : Q a []) : Makes package (pure a) Q := by
  rintro s _ _ ⟨⟩
  exact ⟨[], .refl package s.names, h⟩

theorem bind (hx : Makes package x P)
    (hf : ∀ a made, P a made → Makes package (f a) fun b more => R b (made ++ more)) :
    Makes package (x >>= f) R := by
  intro s b s'' h
  obtain ⟨a, s', ha, hb⟩ := bind_eq_ok.mp h
  obtain ⟨made, hadds, hp⟩ := hx s a s' ha
  obtain ⟨more, hmore, hr⟩ := hf a made hp s' b s'' hb
  exact ⟨made ++ more, hadds.trans hmore, hr⟩

theorem within (hx : Makes package x Q) (context : Text) :
    Makes package (within context x) Q :=
  fun s a s' h => hx s a s' (within_eq_ok.mp h)

/-- Work for each element of a list, where each result has an identifier of its own. -/
theorem mapM (ident : β → Text)
    (hf : ∀ a, Makes package (f a) fun b made => ident b ∈ made) (as : List α) :
    Makes package (as.mapM f) fun bs made => ∀ b ∈ bs, ident b ∈ made := by
  induction as with
  | nil => exact pure (by simp)
  | cons a rest ih =>
    rw [List.mapM_cons]
    refine bind (hf a) fun b made hb => bind ih fun bs more hbs => pure ?_
    simpa [hb] using fun c hc => Or.inr (hbs c hc)

end Makes

/-- Work that declares nothing, followed by work that does. -/
theorem Quiet.makes_bind {R : β → List Text → Prop} (hx : Quiet x)
    (hf : ∀ a, Makes package (f a) R) : Makes package (x >>= f) R := by
  intro s b s'' h
  obtain ⟨a, s', ha, hb⟩ := bind_eq_ok.mp h
  obtain ⟨made, hadds, hr⟩ := hf a s' b s'' hb
  -- The scopes of packages are the same in both states.
  have same : ∀ q, s'.names.idents q = s.names.idents q := by
    intro q
    rw [NameTable.idents, NameTable.packageScope, hx s a s' ha]
    rfl
  refine ⟨made, ⟨fun q y hy => hadds.kept q y (same q ▸ hy), fun y hy => ?_, hadds.declared⟩, hr⟩
  exact same package ▸ hadds.fresh y hy

/-! ### Steps that declare nothing in a package -/

variable {r : Resolver}

theorem quiet_declareIn (scope : Scope) (name : Text) : Quiet (declareIn scope name) :=
  .lift _

theorem quiet_members (owner : TypeName) (seed : List Text) : Quiet (members owner seed) := by
  rintro s _ _ ⟨⟩
  rfl

theorem quiet_putMembers (owner : TypeName) (scope : Scope) : Quiet (putMembers owner scope) := by
  rintro s _ _ ⟨⟩
  rfl

theorem quiet_note (t : TypeExpr) : Quiet (note r t) := by
  rintro s _ _ ⟨⟩
  rfl

theorem quiet_resolve (t : TypeExpr) : Quiet (resolve r t) :=
  .bind (quiet_note t) fun _ => .lift _

theorem quiet_resolveField (owner : TypeName) (t : TypeExpr) : Quiet (resolveField r owner t) :=
  .bind (quiet_note t) fun _ => .lift _

theorem quiet_planField (owner : TypeName) (members : Scope) (f : FieldDef) :
    Quiet (planField r owner members f) := by
  unfold planField
  refine .bind (.within (quiet_declareIn _ _) _) fun (_, _) => ?_
  refine .bind (.within (quiet_declareIn _ _) _) fun (_, _) => ?_
  refine .bind (.within (quiet_resolveField _ _) _) fun _ => ?_
  extract_lets boxed optional rest
  -- What follows is the same for all kinds of fields.
  have quiet_rest : ∀ valueType, Quiet (rest valueType) := by
    intro valueType
    dsimp only [rest]
    split
    · exact .pure _
    · refine .bind (quiet_resolve _) fun _ => ?_
      exact .bind (.within (quiet_declareIn _ _) _) fun (_, _) => .pure _
  split
  · exact .bind (quiet_resolve _) quiet_rest
  · split
    · exact .bind (quiet_resolve _) quiet_rest
    · exact .bind (.pure _) quiet_rest

theorem quiet_planFields (owner : TypeName) (members : Scope) (fields : List FieldDef) :
    Quiet (planFields r owner members fields) := by
  induction fields generalizing members with
  | nil => exact .pure _
  | cons f rest ih =>
    refine .bind (quiet_planField owner members f) fun (_, _) => ?_
    exact .bind (ih _) fun (_, _) => .pure _

theorem quiet_planArgs (locals queryFields : Scope) (args : List ArgDef) :
    Quiet (planArgs r locals queryFields args) := by
  induction args generalizing locals queryFields with
  | nil => exact .pure _
  | cons a rest ih =>
    unfold planArgs
    refine .bind (quiet_declareIn _ _) fun (_, _) => .bind (quiet_resolve _) fun _ => ?_
    extract_lets others
    have quiet_others : ∀ field, Quiet (others field) := by
      rintro ⟨_, _⟩
      dsimp only [others]
      split
      · exact .bind (.throw _) fun _ => .bind (ih _ _) fun (_, _) => .pure _
      · exact .bind (ih _ _) fun (_, _) => .pure _
    split
    · exact .bind (quiet_declareIn _ _) fun (_, _) => .bind (.pure _) quiet_others
    · exact .bind (.pure _) quiet_others

theorem makes_declare (package name : Text) :
    Makes package (declare package name) fun ident made => ident ∈ made := by
  intro s a s' h
  obtain ⟨t, _, ⟨⟩, h⟩ := bind_eq_ok.mp h
  obtain ⟨⟨ident, names⟩, u, hdeclare, h⟩ := bind_eq_ok.mp h
  obtain ⟨hnames, rfl⟩ := lift_eq_ok.mp hdeclare
  obtain ⟨_, _, ⟨⟩, ⟨⟩⟩ := bind_eq_ok.mp h
  exact ⟨[a], .of_declare hnames, List.mem_singleton_self a⟩

/-! ### Emitters -/

/-- The types that declarations declare are a given one, or among the identifiers that were
declared on the way. -/
def Declares (name : Text) (items : List Item) (made : List Text) : Prop :=
  ∀ t ∈ declaredTypes items, t = name ∨ t ∈ made

/-- Each stage of a builder is one of its declared stages. -/
theorem mem_stages_of_mem_steps {b : BuilderPlan} {step : FieldPlan × Text × Text}
    (h : step ∈ b.steps) : ∃ f, (f, step.2.1) ∈ b.stages := by
  unfold BuilderPlan.steps at h
  rw [← List.map_uncurry_zip_eq_zipWith] at h
  obtain ⟨⟨⟨f, stage⟩, next⟩, hzip, rfl⟩ := List.mem_map.mp h
  exact ⟨f, (List.of_mem_zip hzip).1⟩

theorem makes_planBuilder (package name : Text) (fields : List FieldPlan) :
    Makes package (planBuilder package name fields) fun b made =>
      (∀ stage ∈ b.stages, stage.2 ∈ made) ∧ b.final ∈ made ∧ b.impl ∈ made := by
  unfold planBuilder
  refine .bind (.mapM (fun stage => stage.2) (fun f => ?_) _) fun stages xs hstages => ?_
  · exact .bind (makes_declare package _) fun _ _ h => .pure (by simpa using h)
  refine .bind (makes_declare package _) fun final ys hfinal => ?_
  refine .bind (makes_declare package _) fun impl zs himpl => ?_
  refine .bind (makes_declare package _) fun ctor _ _ => .pure ⟨fun stage h => ?_, ?_, ?_⟩
  · exact List.mem_append_left _ (hstages stage h)
  · simp [hfinal]
  · simp [himpl]

/-- Setters, adders and the last method of a builder are functions. -/
theorem declaredTypes_builderMethods (name : Text) (b : BuilderPlan) (others : List FieldPlan) :
    declaredTypes (builderMethods name b others) = [] := by
  refine declaredTypes_eq_nil fun i hi => ?_
  simp only [builderMethods, List.mem_append, List.mem_map, List.mem_flatMap, List.mem_cons,
    List.not_mem_nil, or_false] at hi
  rcases hi with (⟨step, -, rfl⟩ | ⟨f, -, rfl | hadder⟩) | rfl
  · rfl
  · rfl
  · split at hadder
    · obtain rfl := List.mem_singleton.mp hadder
      rfl
    · exact absurd hadder List.not_mem_nil
  · rfl

theorem mem_declaredTypes_builderInterfaces {name t : Text} {b : BuilderPlan}
    {others : List FieldPlan} (h : t ∈ declaredTypes (builderInterfaces name b others)) :
    (∃ stage ∈ b.stages, stage.2 = t) ∨ t = b.final := by
  simp only [builderInterfaces, declaredTypes_append, declaredTypes_cons, declaredTypes_nil,
    List.append_nil, List.mem_append] at h
  rcases h with h | h
  · obtain ⟨i, hi, ht⟩ := mem_declaredTypes.mp h
    obtain ⟨step, hstep, rfl⟩ := List.mem_map.mp hi
    obtain ⟨f, hf⟩ := mem_stages_of_mem_steps hstep
    exact .inl ⟨_, hf, Option.some.inj ht⟩
  · exact .inr (by simpa [Decl.typeName?] using h)

theorem makes_builder (package name : Text) (fields : List FieldPlan) :
    Makes package (builder package name fields) fun items made =>
      ∀ t ∈ declaredTypes items, t ∈ made := by
  refine .bind (makes_planBuilder package name fields) ?_
  rintro b made ⟨hstages, hfinal, himpl⟩
  refine .pure fun t ht => ?_
  simp only [declaredTypes_append, declaredTypes_cons, declaredTypes_nil, List.append_nil,
    declaredTypes_builderMethods, List.mem_append] at ht
  rw [List.append_nil]
  rcases ht with ht | ht
  · rcases mem_declaredTypes_builderInterfaces ht with ⟨stage, hstage, rfl⟩ | rfl
    · exact hstages stage hstage
    · exact hfinal
  · obtain rfl : t = b.impl := by simpa [Decl.typeName?] using ht
    exact himpl

theorem makes_object (owner : TypeName) (name : Text) (fields : List FieldDef) (docs : Text)
    (seed : List Text) : Makes (r.target.packagePath owner) (object r owner name fields docs seed)
      fun result made => Declares name result.1 made := by
  refine (quiet_members owner seed).makes_bind fun scope => ?_
  refine (quiet_planFields owner scope fields).makes_bind fun (plans, scope) => ?_
  refine (quiet_putMembers owner scope).makes_bind fun _ => ?_
  refine .bind (.within (makes_builder _ _ _) _) fun build made hbuild => .pure fun t ht => ?_
  have accessors : declaredTypes (plans.map (accessor r name)) = [] := by
    refine declaredTypes_eq_nil fun i hi => ?_
    obtain ⟨f, -, rfl⟩ := List.mem_map.mp hi
    rfl
  simp only [declaredTypes_append, declaredTypes_cons, declaredTypes_nil, accessors,
    List.append_nil, List.mem_append] at ht
  rw [List.append_nil]
  rcases ht with (ht | ht) | ht
  · exact .inl (by simpa [Decl.typeName?] using ht)
  · exact .inr (hbuild t ht)
  · simp [objectMarshal, objectUnmarshal, method, Decl.typeName?] at ht

theorem makes_error (e : ErrorDef) (name : Text) :
    Makes (r.target.packagePath e.name) (error r e name) (Declares name) := by
  refine .bind (makes_object e.name name e.args e.docs errorMembers) ?_
  rintro ⟨items, fields⟩ made hitems
  refine .pure fun t ht => ?_
  rw [List.append_nil]
  simp only [declaredTypes_append, List.mem_append] at ht
  rcases ht with ht | ht
  · exact hitems t ht
  · simp [errorParameters, method, Decl.typeName?] at ht

theorem makes_aliasType (package name : Text) (target : TypeExpr) (docs : Text) :
    Makes package (aliasType r name target docs) (Declares name) := by
  refine (quiet_resolve target).makes_bind fun goType => ?_
  have wrapped (docs : List Text) : Declares name (wrapper r name docs goType) [] := by
    intro t ht
    simpa [wrapper, method, Decl.typeName?] using ht
  have plain : declaredTypes
      (if r.isPlain target then plainMethods r name target goType else []) = [] := by
    split
    · simp [plainMethods, method, Decl.typeName?]
    · rfl
  have named (docs : List Text) : Declares name (defined r name docs target goType) [] := by
    intro t ht
    simpa [defined, plain, method, Decl.typeName?] using ht
  dsimp only
  split
  · exact .pure (wrapped _)
  · exact .pure (wrapped _)
  · exact .pure (named _)

theorem makes_planEnum (package name : Text) (values : List EnumValue) :
    Makes package (planEnum package name values) fun p made => p.valueType ∈ made := by
  unfold planEnum
  refine .bind (makes_declare package _) fun valueType xs hvalueType => ?_
  refine .bind (.mapM (fun constant => constant.2) (fun v => ?_) _) fun constants _ _ => ?_
  · exact .bind (makes_declare package _) fun _ _ h => .pure (by simpa using h)
  refine .bind (makes_declare package _) fun unknown _ _ => ?_
  refine .bind (makes_declare package _) fun valuesFunc _ _ => ?_
  refine .bind (makes_declare package _) fun ctor _ _ => ?_
  refine .bind (makes_declare package _) fun parse _ _ => .pure ?_
  exact List.mem_append_left _ hvalueType

theorem makes_enum (owner : TypeName) (name : Text) (values : List EnumValue) (docs : Text) :
    Makes (r.target.packagePath owner) (enum r owner name values docs) (Declares name) := by
  refine .bind (makes_planEnum _ name values) fun p made hvalueType => .pure fun t ht => ?_
  have methods : declaredTypes (enumMethods r name p) = [] := by
    simp [enumMethods, method, Decl.typeName?]
  simp only [declaredTypes_append, methods, List.append_nil] at ht
  rw [List.append_nil]
  have hcases : t = p.valueType ∨ t = name := by simpa [enumHead, Decl.typeName?] using ht
  rcases hcases with rfl | rfl
  · exact .inr hvalueType
  · exact .inl rfl

theorem makes_planVariants (owner : TypeName) (name : Text) (scopes : UnionScopes)
    (fields : List FieldDef) : Makes (r.target.packagePath owner)
      (planVariants r owner name scopes fields) fun _ _ => True := by
  induction fields generalizing scopes with
  | nil => exact .pure trivial
  | cons f rest ih =>
    refine .bind (P := fun _ _ => True) (.within ?_ _) fun (_, _) _ _ => ?_
    · refine (quiet_declareIn _ _).makes_bind fun (_, _) => ?_
      refine (quiet_declareIn _ _).makes_bind fun (_, _) => ?_
      refine (quiet_declareIn _ _).makes_bind fun (_, _) => ?_
      refine .bind (makes_declare _ _) fun _ _ _ => ?_
      exact (quiet_resolve f.type).makes_bind fun _ => .pure trivial
    · exact .bind (ih _) fun (_, _) _ _ => .pure trivial

theorem makes_union (owner : TypeName) (name : Text) (fields : List FieldDef) (docs : Text) :
    Makes (r.target.packagePath owner) (union r owner name fields docs) (Declares name) := by
  refine (quiet_members _ _).makes_bind fun scope => ?_
  refine .bind (makes_declare _ _) fun visitor made hvisitor => ?_
  refine .bind (makes_planVariants owner name _ fields) fun (variants, scopes) _ _ => ?_
  refine (quiet_putMembers owner _).makes_bind fun _ => ?_
  refine (quiet_declareIn _ _).makes_bind fun (unknownFunc, _) => .pure fun t ht => ?_
  have ctors : declaredTypes (variants.map (variantCtor r name)) = [] := by
    refine declaredTypes_eq_nil fun i hi => ?_
    obtain ⟨v, -, rfl⟩ := List.mem_map.mp hi
    rfl
  have hcases : t = name ∨ t = visitor := by
    simpa [ctors, unionMarshal, unionUnmarshal, method, Decl.typeName?] using ht
  rcases hcases with rfl | rfl
  · exact .inl rfl
  · exact .inr (List.mem_append_left _ hvisitor)

theorem makes_planEndpoint (service : TypeName) (name : Text) (methods : Scope) (e : EndpointDef) :
    Makes (r.target.packagePath service) (planEndpoint r service name methods e)
      fun result made => ∀ q ∈ result.1.query?, q.1 ∈ made := by
  refine .within ?_ _
  refine (quiet_declareIn _ _).makes_bind fun (_, _) => ?_
  dsimp -zeta only
  extract_lets binaryReturn rest
  have makes_rest : ∀ token, Makes (r.target.packagePath service) (rest token)
      fun result made => ∀ q ∈ result.1.query?, q.1 ∈ made := by
    rintro ⟨token?, scope⟩
    refine (quiet_planArgs scope {} e.args).makes_bind fun (args, scope) => ?_
    dsimp -zeta only
    extract_lets finish
    have makes_finish (query? : Option (Text × Text)) (xs : List Text)
        (h : ∀ q ∈ query?, q.1 ∈ xs) : Makes (r.target.packagePath service) (finish query?)
          fun result made => ∀ q ∈ result.1.query?, q.1 ∈ xs ++ made := by
      dsimp only [finish]
      split
      · refine (quiet_resolve _).makes_bind fun _ => (Quiet.pure _).makes_bind fun _ => ?_
        exact .pure (by simpa using h)
      · exact (Quiet.pure _).makes_bind fun _ => .pure (by simpa using h)
    split
    · refine .bind (makes_declare _ _) fun struct xs hstruct => ?_
      refine (quiet_declareIn _ _).makes_bind fun (ident, _) => ?_
      rw [pure_bind]
      exact makes_finish _ xs (by simpa using hstruct)
    · rw [pure_bind]
      exact makes_finish none [] (by simp)
  split
  · exact (Quiet.pure _).makes_bind makes_rest
  · exact (quiet_declareIn _ _).makes_bind fun (_, _) => (Quiet.pure _).makes_bind makes_rest

theorem makes_planEndpoints (service : TypeName) (name : Text) (methods : Scope)
    (endpoints : List EndpointDef) : Makes (r.target.packagePath service)
      (planEndpoints r service name methods endpoints) fun plans made =>
        ∀ plan ∈ plans, ∀ q ∈ plan.query?, q.1 ∈ made := by
  induction endpoints generalizing methods with
  | nil => exact .pure (by simp)
  | cons e rest ih =>
    refine .bind (makes_planEndpoint service name methods e) fun (plan, methods) xs hplan => ?_
    refine .bind (ih methods) fun plans ys hplans => .pure fun p hp q hq => ?_
    rw [List.append_nil]
    rcases List.mem_cons.mp hp with rfl | hp
    · exact List.mem_append_left _ (hplan q hq)
    · exact List.mem_append_right _ (hplans p hp q hq)

theorem makes_service (s : ServiceDef) (name : Text) :
    Makes (r.target.packagePath s.name) (service r s name) (Declares name) := by
  refine .bind (makes_planEndpoints s.name name {} s.endpoints) fun plans ws hplans => ?_
  refine .bind (makes_declare _ _) fun client xs hclient => ?_
  refine .bind (makes_declare _ _) fun impl ys himpl => ?_
  refine .bind (makes_declare _ _) fun ctor _ _ => ?_
  refine .bind (makes_declare _ _) fun register _ _ => .pure fun t ht => ?_
  have clients : declaredTypes (plans.map (clientMethod r impl)) = [] := by
    refine declaredTypes_eq_nil fun i hi => ?_
    obtain ⟨e, -, rfl⟩ := List.mem_map.mp hi
    rfl
  have queries : ∀ t ∈ declaredTypes (plans.filterMap (queryStruct? r)), t ∈ ws := by
    intro t ht
    obtain ⟨i, hi, ht⟩ := mem_declaredTypes.mp ht
    obtain ⟨plan, hplan, hi⟩ := List.mem_filterMap.mp hi
    obtain ⟨q, hq, rfl⟩ := Option.map_eq_some_iff.mp hi
    obtain rfl : q.1 = t := Option.some.inj ht
    exact hplans plan hplan q hq
  simp only [declaredTypes_append, declaredTypes_cons, declaredTypes_nil, clients,
    List.append_nil, List.mem_append, Decl.typeName?, Option.toList_some, Option.toList_none,
    List.mem_singleton] at ht
  rcases ht with ((rfl | rfl) | rfl) | ht
  · exact .inr (by simp [hclient])
  · exact .inr (by simp [himpl])
  · exact .inl rfl
  · exact .inr (List.mem_append_left _ (queries t ht))

end Emit

end Accord
