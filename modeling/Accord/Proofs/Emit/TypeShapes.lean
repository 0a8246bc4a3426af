/-
# Tests for absence and the types they are made on

Generated code tests that a value is there in one of three ways: it compares a pointer, it counts
the elements of a collection, or it compares the pointer in a wrapper. Which test is used follows
from where the aliases and fallbacks of a type lead; what the generated type is made of is decided
one alias at a time, by the form of what the alias stands for. The two fit unless an alias stands
for an optional type only through a fallback: such an alias is a pointer and not a wrapper.

## Main definitions

* `TyShape`: what a generated type is made of;
* `Resolver.Shaped`: the shape of a type, along its aliases and fallbacks;
* `Emptiness.Fits`: a test can be made on a shape;
* `Resolver.HidesOptional`: an alias stands for an optional type only through a fallback.

## Main results

* `Resolver.tyShape_of_goType`: what a type is generated as if it leads nowhere;
* `Emit.aliasType_declares`: an alias is declared as a wrapper by the form of its target alone;
* `Resolver.exists_shaped_iff`: a type that leads to an end has one shape;
* `Resolver.fits_iff_of_shaped`: the test fits the shape exactly if no alias hides an optional type;
* `Resolver.emptiness_fits_iff`: all of this together;
* `Resolver.fallback_to_optional_unfit`: an alias may hide an optional type.
-/

import Accord.Emit.Alias
import Accord.Proofs.Emit.Absence
import Accord.Proofs.Emit.Fields
import Accord.Proofs.Emit.References

namespace Accord

open Source

/-! ### Shapes -/

/-- What a generated type is made of. -/
inductive TyShape where
  | pointer
  | slice
  | map
  /-- A struct with a value in it. -/
  | wrapper (value : TyShape)
  /-- Whatever is not tested for absence. -/
  | other
  deriving DecidableEq, Repr

namespace TypeExpr

/-- What the form of a type alone makes of it. -/
def tyShape : TypeExpr → TyShape
  | optional _ => .pointer
  | list _ => .slice
  | set _ => .slice
  | map _ _ => .map
  | _ => .other

/-- Whether an alias of a type is a struct around its value: pointers and untyped values can have
no methods. -/
def isWrapped : TypeExpr → Bool
  | optional _ => true
  | primitive .any => true
  | _ => false

end TypeExpr

/-- What a type that is written out is made of. -/
def Source.Ty.tyShape : Ty → TyShape
  | .pointer _ => .pointer
  | .slice _ => .slice
  | .map _ _ => .map
  | _ => .other

/-- A test for absence can be made on values of a shape. -/
def Emptiness.Fits : Emptiness → TyShape → Prop
  | never, _ => True
  | null, shape => shape = .pointer
  | length, shape => shape = .slice ∨ shape = .map
  | wrapped, shape => shape = .wrapper .pointer

theorem Emptiness.behindAlias_of_ne_null {e : Emptiness} (h : e ≠ null) : e.behindAlias = e := by
  cases e with
  | null => exact absurd rfl h
  | _ => rfl

namespace TypeExpr

theorem emptiness_fits_tyShape (t : TypeExpr) : t.emptiness.Fits t.tyShape := by
  cases t <;> simp [emptiness, tyShape, Emptiness.Fits]

/-- The test for a wrapped pointer is made on wrapped pointers. -/
theorem behindAlias_fits_wrapper {t : TypeExpr} (h : t.isWrapped = true) :
    t.emptiness.behindAlias.Fits (.wrapper t.tyShape) := by
  unfold isWrapped at h
  split at h
  · rfl
  · trivial
  · cases h

end TypeExpr

/-- An alias is declared as a struct around its value exactly if the form of its target asks for
it, and as its target otherwise. -/
theorem Emit.aliasType_declares {r : Resolver} (name : Text) (target : TypeExpr) (docs : Text) :
    Emit.Yields (aliasType r name target docs) fun items => ∃ g rest, r.goType target = .ok g ∧
      items = ⟨r.docLines docs [], if target.isWrapped then .struct name [⟨"Value", g, none⟩]
        else .type name g⟩ :: rest := by
  refine .bind (yields_resolve target) fun g hg => ?_
  dsimp only
  split
  case h_1 => exact .pure ⟨g, _, hg, rfl⟩
  case h_2 => exact .pure ⟨g, _, hg, rfl⟩
  case h_3 hoptional hany =>
    have hplain : target.isWrapped = false := by
      unfold TypeExpr.isWrapped
      split
      · exact absurd rfl (hoptional _)
      · exact absurd rfl hany
      · rfl
    refine .pure ⟨g, (defined r name (r.docLines docs []) target g).tail, hg, ?_⟩
    rw [hplain]
    rfl

namespace Resolver

variable {r : Resolver} {t u target : TypeExpr} {shape shape' : TyShape} {n x : TypeName}

theorem tyShape_of_chosen {spelled : Text} {g : Ty} (h : chosen n spelled = .ok g) :
    g.tyShape = .other := by
  unfold chosen chosen.malformed at h
  split at h
  · split at h
    · cases h
    · cases h
      rfl
  · cases h

/-- The generated type of a type that leads nowhere is made of what its form says. -/
theorem tyShape_of_goType {g : Ty} (hend : ∀ u, ¬ r.Leads t u) (h : r.goType t = .ok g) :
    g.tyShape = t.tyShape := by
  cases t with
  | primitive p =>
    cases h
    cases p <;> rfl
  | optional item =>
    obtain ⟨_, -, rfl⟩ := Outcome.map_eq_ok.mp h
    rfl
  | list item =>
    obtain ⟨_, -, rfl⟩ := Outcome.map_eq_ok.mp h
    rfl
  | set item =>
    obtain ⟨_, -, rfl⟩ := Outcome.map_eq_ok.mp h
    rfl
  | map key value =>
    by_cases hkey : r.isKey key = true
    · obtain ⟨k, hk⟩ := goType_map hkey value
      rw [hk] at h
      obtain ⟨_, -, rfl⟩ := Outcome.map_eq_ok.mp h
      rfl
    · rw [goType, Bool.eq_false_iff.mpr hkey] at h
      cases h
  | reference n =>
    unfold goType reference at h
    split at h
    · cases h
      rfl
    · cases h
  | external n =>
    unfold goType at h
    split at h
    · exact tyShape_of_chosen h
    · cases h
  | externalOr n fallback =>
    unfold goType at h
    split at h
    case h_1 => exact tyShape_of_chosen h
    case h_2 hn => exact absurd (.fallback hn) (hend fallback)

/-- The shape of a generated type. An external type that nothing stands for has the shape of its
fallback. An alias has the shape of its target, unless it is a struct around it. -/
inductive Shaped (r : Resolver) : TypeExpr → TyShape → Prop where
  | form {t : TypeExpr} (hend : ∀ u, ¬ r.Leads t u) : Shaped r t t.tyShape
  | fallback {x : TypeName} {t : TypeExpr} {shape : TyShape} (hx : r.mapped? x = none)
    (h : Shaped r t shape) : Shaped r (.externalOr x t) shape
  | wrapper {n : TypeName} {t : TypeExpr} {shape : TyShape} (hn : r.aliasTarget? n = some t)
    (hwrap : t.isWrapped = true) (h : Shaped r t shape) :
    Shaped r (.reference n) (.wrapper shape)
  | target {n : TypeName} {t : TypeExpr} {shape : TyShape} (hn : r.aliasTarget? n = some t)
    (hwrap : t.isWrapped = false) (h : Shaped r t shape) : Shaped r (.reference n) shape

namespace Shaped

theorem of_end (h : r.Shaped t shape) (hend : ∀ u, ¬ r.Leads t u) : shape = t.tyShape := by
  cases h with
  | form => rfl
  | fallback hx => exact absurd (.fallback hx) (hend _)
  | wrapper hn => exact absurd (.target hn) (hend _)
  | target hn => exact absurd (.target hn) (hend _)

theorem of_fallback (h : r.Shaped (.externalOr x t) shape) (hx : r.mapped? x = none) :
    r.Shaped t shape := by
  cases h with
  | form hend => exact absurd (.fallback hx) (hend t)
  | fallback _ h => exact h

/-- The shape of an alias comes from that of its target. -/
theorem of_target (h : r.Shaped (.reference n) shape) (hn : r.aliasTarget? n = some target) :
    ∃ inner, r.Shaped target inner ∧
      shape = if target.isWrapped then .wrapper inner else inner := by
  cases h with
  | form hend => exact absurd (.target hn) (hend target)
  | @wrapper n t inner hn' hwrap h =>
    obtain rfl : t = target := Option.some.inj (hn'.symm.trans hn)
    exact ⟨inner, h, by rw [if_pos hwrap]⟩
  | @target n t _ hn' hwrap h =>
    obtain rfl : t = target := Option.some.inj (hn'.symm.trans hn)
    exact ⟨shape, h, by rw [hwrap]; rfl⟩

/-- A type has one shape. -/
theorem unique (h : r.Shaped t shape) (h' : r.Shaped t shape') : shape = shape' := by
  induction h generalizing shape' with
  | form hend => exact (h'.of_end hend).symm
  | fallback hx _ ih => exact ih (h'.of_fallback hx)
  | wrapper hn hwrap _ ih =>
    obtain ⟨inner, hinner, hshape⟩ := h'.of_target hn
    rw [hshape, if_pos hwrap, ih hinner]
  | target hn hwrap _ ih =>
    obtain ⟨inner, hinner, hshape⟩ := h'.of_target hn
    rw [hshape, hwrap, ih hinner]
    rfl

/-- What falls back to an optional type is a pointer. -/
theorem of_unwrap {item : TypeExpr} (h : r.Shaped t shape) (ht : r.unwrap t = .optional item) :
    shape = .pointer := by
  induction h with
  | form hend =>
    rw [unwrap_of_end hend] at ht
    rw [ht]
    rfl
  | @fallback x t shape hx _ ih =>
    apply ih
    rw [← ht]
    simp [unwrap, hx]
  | wrapper => cases ht
  | target => cases ht

end Shaped

/-- A type that leads to an end has one shape. -/
theorem exists_shaped_iff (h : r.EndsAt t u) :
    ∃ shape, ∀ shape', r.Shaped t shape' ↔ shape' = shape := by
  have hexists : ∃ shape, r.Shaped t shape := by
    obtain ⟨hpath, hend⟩ := h
    induction hpath using Relation.ReflTransGen.head_induction_on with
    | refl => exact ⟨_, .form hend⟩
    | @head t v hstep _ ih =>
      obtain ⟨shape, hshape⟩ := ih
      cases hstep with
      | fallback hx => exact ⟨shape, .fallback hx hshape⟩
      | target hn =>
        cases hwrap : v.isWrapped with
        | true => exact ⟨_, .wrapper hn hwrap hshape⟩
        | false => exact ⟨shape, .target hn hwrap hshape⟩
  obtain ⟨shape, hshape⟩ := hexists
  refine ⟨shape, fun shape' => ⟨fun h' => h'.unique hshape, ?_⟩⟩
  intro heq
  rw [heq]
  exact hshape

/-! ### Hidden optional types -/

/-- An alias that a type leads to stands for an optional type, but only through a fallback. -/
def HidesOptional (r : Resolver) (t : TypeExpr) : Prop :=
  ∃ n target item, Relation.ReflTransGen r.Leads t (.reference n) ∧
    r.aliasTarget? n = some target ∧ r.unwrap target = .optional item ∧ target ≠ .optional item

theorem not_hidesOptional_of_end (hend : ∀ u, ¬ r.Leads t u) : ¬ r.HidesOptional t := by
  intro h
  obtain ⟨n, target, item, hpath, hn, -⟩ := h
  rcases hpath.cases_head with heq | ⟨v, hstep, -⟩
  · rw [heq] at hend
    exact hend target (.target hn)
  · exact hend v hstep

theorem hidesOptional_fallback_iff (hx : r.mapped? x = none) :
    r.HidesOptional (.externalOr x t) ↔ r.HidesOptional t := by
  constructor
  · intro h
    obtain ⟨n, target, item, hpath, hhidden⟩ := h
    rcases hpath.cases_head with heq | ⟨v, hstep, hrest⟩
    · cases heq
    · obtain rfl := hstep.eq (.fallback hx)
      exact ⟨n, target, item, hrest, hhidden⟩
  · intro h
    obtain ⟨n, target, item, hpath, hhidden⟩ := h
    exact ⟨n, target, item, .head (.fallback hx) hpath, hhidden⟩

/-- An alias hides an optional type itself, or its target does. -/
theorem hidesOptional_target_iff (hn : r.aliasTarget? n = some target) :
    r.HidesOptional (.reference n) ↔
      (∃ item, r.unwrap target = .optional item ∧ target ≠ .optional item) ∨
        r.HidesOptional target := by
  constructor
  · intro h
    obtain ⟨m, target', item, hpath, hm, hhidden⟩ := h
    rcases hpath.cases_head with heq | ⟨v, hstep, hrest⟩
    · cases heq
      obtain rfl : target' = target := Option.some.inj (hm.symm.trans hn)
      exact .inl ⟨item, hhidden⟩
    · obtain rfl := hstep.eq (.target hn)
      exact .inr ⟨m, target', item, hrest, hm, hhidden⟩
  · intro h
    rcases h with ⟨item, hhidden⟩ | ⟨m, target', item, hpath, hhidden⟩
    · exact ⟨n, target, item, .refl, hn, hhidden⟩
    · exact ⟨m, target', item, .head (.target hn) hpath, hhidden⟩

/-- A pointer is compared exactly if fallbacks alone lead to an optional type. -/
theorem emptiness_eq_null_iff (h : r.EndsAt t u) :
    r.emptiness t = .null ↔ ∃ item, r.unwrap t = .optional item := by
  obtain ⟨hpath, hend⟩ := h
  induction hpath using Relation.ReflTransGen.head_induction_on with
  | refl =>
    rw [emptiness_of_end hend, unwrap_of_end hend]
    cases u <;> simp [TypeExpr.emptiness]
  | @head t v hstep hrest ih =>
    cases hstep with
    | target hn =>
      rw [emptiness_target hn ⟨hrest, hend⟩]
      cases r.emptiness v <;> simp [Emptiness.behindAlias, unwrap]
    | fallback hx =>
      have hunwrap : ∀ x, r.mapped? x = none → r.unwrap (.externalOr x v) = r.unwrap v := by
        intro x hx
        simp [unwrap, hx]
      rw [emptiness_fallback hx, hunwrap _ hx]
      exact ih

/-! ### Tests and shapes -/

theorem not_leads_of_isWrapped (h : t.isWrapped = true) : ∀ u, ¬ r.Leads t u := by
  intro u hstep
  cases hstep with
  | target => cases h
  | fallback => cases h

/-- The case of an alias: its target has a form that is wrapped, or it hides an optional type, or
it passes everything on. -/
theorem fits_iff_of_target (hn : r.aliasTarget? n = some target) (h : r.EndsAt target u)
    (hshape : r.Shaped (.reference n) shape)
    (ih : ∀ inner, r.Shaped target inner →
      ((r.emptiness target).Fits inner ↔ ¬ r.HidesOptional target)) :
    (r.emptiness (.reference n)).Fits shape ↔ ¬ r.HidesOptional (.reference n) := by
  obtain ⟨inner, hinner, hshape⟩ := hshape.of_target hn
  rw [emptiness_target hn h, hidesOptional_target_iff hn, hshape]
  cases hwrap : target.isWrapped with
  | true =>
    -- The target has the form that is wrapped, and nothing leads on from there.
    have hend := not_leads_of_isWrapped (r := r) hwrap
    rw [emptiness_of_end hend, hinner.of_end hend]
    refine iff_of_true (TypeExpr.behindAlias_fits_wrapper hwrap) ?_
    intro hhides
    rcases hhides with ⟨item, hunwrap, hne⟩ | hhides
    · rw [unwrap_of_end hend] at hunwrap
      exact hne hunwrap
    · exact not_hidesOptional_of_end hend hhides
  | false =>
    by_cases hnull : r.emptiness target = .null
    · -- A fallback leads to an optional type: the alias is the pointer, and nothing wraps it.
      obtain ⟨item, hunwrap⟩ := (emptiness_eq_null_iff h).mp hnull
      have hne : target ≠ .optional item := by
        intro heq
        rw [heq] at hwrap
        cases hwrap
      rw [hnull, hinner.of_unwrap hunwrap]
      refine iff_of_false ?_ (not_not_intro (.inl ⟨item, hunwrap, hne⟩))
      intro hfits
      cases hfits
    · have hopen : ¬ ∃ item, r.unwrap target = .optional item ∧ target ≠ .optional item := by
        intro hhidden
        obtain ⟨item, hunwrap, -⟩ := hhidden
        exact hnull ((emptiness_eq_null_iff h).mpr ⟨item, hunwrap⟩)
      rw [Emptiness.behindAlias_of_ne_null hnull, or_iff_right hopen]
      exact ih inner hinner

/-- The test for absence fits the shape of a type exactly if no alias hides an optional type. -/
theorem fits_iff_of_shaped (h : r.EndsAt t u) (hshape : r.Shaped t shape) :
    (r.emptiness t).Fits shape ↔ ¬ r.HidesOptional t := by
  obtain ⟨hpath, hend⟩ := h
  induction hpath using Relation.ReflTransGen.head_induction_on generalizing shape with
  | refl =>
    rw [emptiness_of_end hend, hshape.of_end hend]
    exact iff_of_true u.emptiness_fits_tyShape (not_hidesOptional_of_end hend)
  | head hstep hrest ih =>
    cases hstep with
    | target hn => exact fits_iff_of_target hn ⟨hrest, hend⟩ hshape fun inner => ih
    | fallback hx =>
      rw [emptiness_fallback hx, hidesOptional_fallback_iff hx]
      exact ih (hshape.of_fallback hx)

/-- Shapes are those of the generated types: a type that leads nowhere is generated as what its form
says, and an alias is declared as a struct around its target if the form of the target asks for it,
and as its target otherwise. A type that leads to an end has one shape, and the test for its absence
can be made on that shape exactly if no alias on the way hides an optional type behind a
fallback. -/
theorem emptiness_fits_iff (r : Resolver) :
    (∀ t g, (∀ u, ¬ r.Leads t u) → r.goType t = .ok g → g.tyShape = t.tyShape) ∧
    (∀ name target docs s items s', Emit.aliasType r name target docs s = .ok (items, s') →
      ∃ g rest, r.goType target = .ok g ∧
        items = ⟨r.docLines docs [], if target.isWrapped then .struct name [⟨"Value", g, none⟩]
          else .type name g⟩ :: rest) ∧
    ∀ t u, r.EndsAt t u → ∃ shape, (∀ shape', r.Shaped t shape' ↔ shape' = shape) ∧
      ((r.emptiness t).Fits shape ↔ ¬ r.HidesOptional t) := by
  refine ⟨fun t g hend h => tyShape_of_goType hend h, ?_, ?_⟩
  · intro name target docs s items s' h
    exact Emit.aliasType_declares name target docs s items s' h
  · intro t u h
    obtain ⟨shape, hshape⟩ := exists_shaped_iff h
    exact ⟨shape, hshape, fits_iff_of_shaped h ((hshape shape).mpr rfl)⟩

/-- An alias of an optional type is a wrapped pointer, also for what falls back to it, and is
tested as one. -/
theorem emptiness_fits_iff_wrapper :
    optionalHandle.EndsAt fallbackToHandle (.optional (.primitive .string)) ∧
      ∃ shape, (∀ shape', optionalHandle.Shaped fallbackToHandle shape' ↔ shape' = shape) ∧
        ((optionalHandle.emptiness fallbackToHandle).Fits shape ↔
          ¬ optionalHandle.HidesOptional fallbackToHandle) ∧
        shape = .wrapper .pointer ∧ optionalHandle.emptiness fallbackToHandle = .wrapped := by
  obtain ⟨-, -, hends⟩ := emptiness_fits_iff optionalHandle
  obtain ⟨shape, hshape, hfits⟩ := hends _ _ endsAt_fallbackToHandle
  refine ⟨endsAt_fallbackToHandle, shape, hshape, hfits, ?_, rfl⟩
  have hend : ∀ u, ¬ optionalHandle.Leads (.optional (.primitive .string)) u :=
    endsAt_fallbackToHandle.2
  exact ((hshape _).mp (.fallback rfl (.wrapper rfl rfl (.form hend)))).symm

/-! ### An alias that hides an optional type -/

/-- An external type that falls back to an optional string. -/
def fallbackToOptional : TypeExpr := .externalOr ⟨"L", "j"⟩ (.optional (.primitive .string))

/-- The resolver of an alias of that type. -/
def hidingHandle : Resolver := ofDefinition (aliased fallbackToOptional)

/-- An alias of an external type that falls back to an optional one is declared as a pointer, but
tested as a wrapper, though nothing is wrong with its contract. -/
theorem fallback_to_optional_unfit :
    (aliased fallbackToOptional).alone.problems = [] ∧
      make (aliased fallbackToOptional).alone hidingHandle.target {} = .ok hidingHandle ∧
      hidingHandle.EndsAt (.reference handle) (.optional (.primitive .string)) ∧
      hidingHandle.emptiness (.reference handle) = .wrapped ∧
      hidingHandle.Shaped (.reference handle) .pointer ∧ ¬ Emptiness.wrapped.Fits .pointer ∧
      ∃ rest s', Emit.aliasType hidingHandle "A" fallbackToOptional [] { names := {} } =
        .ok (⟨[], .type "A" (.pointer (.ident "string"))⟩ :: rest, s') := by
  have hend : ∀ u, ¬ hidingHandle.Leads (.optional (.primitive .string)) u := by
    intro u h
    cases h
  refine ⟨rfl, make_alone (by simp [aliased, fallbackToOptional]),
    ⟨.head (.target rfl) (.single (.fallback rfl)), hend⟩, rfl,
    .target rfl rfl (.fallback rfl (.form hend)), ?_, _, _, rfl⟩
  intro hfits
  cases hfits

end Resolver

end Accord
