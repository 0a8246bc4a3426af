/-
# Where aliases lead

What is known of a type is known of the type that its aliases and fallbacks lead to. Following
them comes to an end unless they go round in a circle. Circles of aliases alone are refused; what
is left are the circles that pass through a fallback, and without these the steps that are allowed
for following a type suffice.

## Main definitions

* `Resolver.Leads`: one alias or one fallback is followed;
* `Resolver.EndsAt`: where a type leads in the end.

## Main results

* `Resolver.transGen_aliasEdge_of_leads`: a circle without fallbacks is one of aliases;
* `Resolver.endsAt_chaseFrom`: steps for every name that was not met before suffice;
* `Resolver.leads_wellFounded_iff`: following aliases and fallbacks comes to an end exactly if no
  fallback leads back to the type that has it, and the resolver finds the end.
-/

import Accord.Contract.Check
import Accord.Proofs.Emit.Containment
import Mathlib.Order.WellFounded

namespace Accord

open Source (NameTable)

theorem Contract.length_distinctNames_le (names : List TypeName) :
    (distinctNames names).length ≤ names.length := by
  induction names with
  | nil => exact Nat.le_refl 0
  | cons m rest ih =>
    rw [distinctNames_cons, List.length_cons]
    split
    case isTrue => omega
    case isFalse => rw [List.length_cons]; omega

theorem Contract.length_typeNames_le (c : Contract) : c.typeNames.length ≤ c.types.length := by
  have h := length_distinctNames_le (c.types.map (·.name))
  rw [List.length_map] at h
  rwa [typeNames, List.length_mergeSort]

namespace Resolver

variable {c : Contract} {r : Resolver} {t t' u : TypeExpr} {m n x : TypeName}

/-! ### Steps -/

/-- One step of following a type: from a reference to an alias to what the alias stands for, and
from an external type that nothing stands for to its fallback. -/
inductive Leads (r : Resolver) : TypeExpr → TypeExpr → Prop where
  | target {n : TypeName} {t : TypeExpr} (h : r.aliasTarget? n = some t) : Leads r (.reference n) t
  | fallback {x : TypeName} {t : TypeExpr} (h : r.mapped? x = none) : Leads r (.externalOr x t) t

/-- Where a type leads in the end. -/
def EndsAt (r : Resolver) (t u : TypeExpr) : Prop :=
  Relation.ReflTransGen r.Leads t u ∧ ∀ t', ¬ r.Leads u t'

/-- There is one step at most. -/
theorem Leads.eq (h : r.Leads t u) (h' : r.Leads t t') : u = t' := by
  cases h with
  | target h =>
    cases h' with
    | target h' => exact Option.some.inj (h.symm.trans h')
  | fallback =>
    cases h' with
    | fallback => rfl

/-- A type that leads to an end does so on every way, as there is only one. -/
theorem EndsAt.acc (h : r.EndsAt t u) : Acc (fun t' t => r.Leads t t') t := by
  obtain ⟨hpath, hend⟩ := h
  induction hpath using Relation.ReflTransGen.head_induction_on with
  | refl => exact .intro _ fun t' ht' => absurd ht' (hend t')
  | head hstep _ ih =>
    refine .intro _ fun t' ht' => ?_
    rwa [← hstep.eq ht']

/-! ### Circles -/

theorem not_transGen_leads (hwf : WellFounded fun t' t => r.Leads t t') (t : TypeExpr) :
    ¬ Relation.TransGen r.Leads t t := by
  intro hcircle
  exact hwf.transGen.irrefl.irrefl t (Relation.transGen_swap.mpr hcircle)

/-- Fallbacks lead back to no external type if no alias stands for one. -/
theorem not_reflTransGen_externalOr
    (htarget : ∀ n x t, r.aliasTarget? n = some (.externalOr x t) → r.mapped? x ≠ none)
    (hx : r.mapped? x = none) : ¬ Relation.ReflTransGen r.Leads t (.externalOr x t) := by
  -- All types on the way are external, and they get larger towards its start.
  have larger {u : TypeExpr} (h : Relation.ReflTransGen r.Leads u (.externalOr x t)) :
      sizeOf (TypeExpr.externalOr x t) ≤ sizeOf u ∧
        ∃ y v, u = .externalOr y v ∧ r.mapped? y = none := by
    induction h using Relation.ReflTransGen.head_induction_on with
    | refl => exact ⟨Nat.le_refl _, x, t, rfl, hx⟩
    | head hstep _ ih =>
      obtain ⟨hle, y, v, rfl, hy⟩ := ih
      cases hstep with
      | target hn => exact absurd hy (htarget _ y v hn)
      | @fallback z _ hz =>
        have hsize := TypeExpr.externalOr.sizeOf_spec z (.externalOr y v)
        exact ⟨by omega, z, _, rfl, hz⟩
  intro h
  have hle := (larger h).1
  rw [TypeExpr.externalOr.sizeOf_spec] at hle
  omega

theorem aliasEdge_of_aliasTarget? (hn : r.aliasTarget? n = some (.reference m))
    (hm : r.aliasTarget? m = some t) : AliasEdge r.contract n m := by
  obtain ⟨d, safety, hd, hs⟩ := aliasTarget?_eq_some_iff.mp hn
  obtain ⟨d', safety', hd', hs'⟩ := aliasTarget?_eq_some_iff.mp hm
  refine ⟨edge_containment_iff.mpr ⟨⟨d, hd, .inr ⟨safety, hs⟩⟩, ?_⟩,
    ⟨d, _, safety, hd, hs⟩, ⟨d', _, safety', hd', hs'⟩⟩
  exact Contract.mem_typeNames.mpr ⟨d', hd'⟩

/-- A path of references along aliases is a path of their names. -/
theorem exists_transGen_aliasEdge (h : Relation.TransGen (fun u v => ∃ n m, u = .reference n ∧
      v = .reference m ∧ AliasEdge r.contract n m) t u) :
    ∃ n m, t = .reference n ∧ u = .reference m ∧
      Relation.TransGen (AliasEdge r.contract) n m := by
  induction h with
  | single hstep =>
    obtain ⟨n, m, rfl, rfl, hnm⟩ := hstep
    exact ⟨n, m, rfl, rfl, .single hnm⟩
  | tail _ hstep ih =>
    obtain ⟨n, k, rfl, rfl, hnk⟩ := ih
    obtain ⟨k', m, hk, rfl, hkm⟩ := hstep
    obtain rfl := TypeExpr.reference.inj hk
    exact ⟨n, m, rfl, rfl, hnk.tail hkm⟩

/-- Types that lead to themselves without a fallback are aliases of each other. -/
theorem transGen_aliasEdge_of_leads
    (hback : ∀ x t, r.mapped? x = none → ¬ Relation.ReflTransGen r.Leads t (.externalOr x t))
    (h : Relation.TransGen r.Leads t t) :
    ∃ n, Relation.TransGen (AliasEdge r.contract) n n := by
  have target_of {u v : TypeExpr} (huv : r.Leads u v)
      (hvu : Relation.ReflTransGen r.Leads v u) :
      ∃ n, u = .reference n ∧ r.aliasTarget? n = some v := by
    cases huv with
    | target hn => exact ⟨_, rfl, hn⟩
    | fallback hx => exact absurd hvu (hback _ _ hx)
  obtain ⟨n, m, rfl, hm, hnm⟩ := exists_transGen_aliasEdge (r := r)
    (transGen_of_between h fun u v htu huv hvt => by
      have hvu := hvt.trans htu
      obtain ⟨n, rfl, hn⟩ := target_of huv hvu
      -- The circle goes on from `v`, which is hence an alias as well.
      obtain ⟨w, hvw, hwv⟩ := Relation.TransGen.head'_iff.mp (Relation.TransGen.tail' hvu huv)
      obtain ⟨m, rfl, hm⟩ := target_of hvw hwv
      exact ⟨n, m, rfl, rfl, aliasEdge_of_aliasTarget? hn hm⟩)
  obtain rfl := TypeExpr.reference.inj hm
  exact ⟨n, hnm⟩

/-! ### Following a type -/

theorem reflTransGen_unwrap (t : TypeExpr) : Relation.ReflTransGen r.Leads t (r.unwrap t) := by
  induction t with
  | externalOr x t ih =>
    rw [unwrap]
    split
    case isTrue => exact .refl
    case isFalse hx => exact .head (.fallback (Option.not_isSome_iff_eq_none.mp hx)) ih
  | _ => exact .refl

/-- Only aliases lead on from a type without its fallbacks. -/
theorem target_of_leads_unwrap (h : r.Leads (r.unwrap t) u) :
    ∃ n, r.unwrap t = .reference n ∧ r.aliasTarget? n = some u := by
  induction t with
  | externalOr x t ih =>
    rw [unwrap] at h ⊢
    split at h
    case isTrue hx =>
      cases h with
      | fallback hnone => simp [hnone] at hx
    case isFalse hx =>
      rw [if_neg hx]
      exact ih h
  | reference n =>
    cases h with
    | target hn => exact ⟨n, rfl, hn⟩
  | _ => cases h

/-- The aliases that were met on the way to a type: each of them once. -/
structure Seen (r : Resolver) (seen : List TypeName) (t : TypeExpr) : Prop where
  nodup : seen.Nodup
  declared : ∀ n ∈ seen, n ∈ r.contract.typeNames
  leads : ∀ n ∈ seen, Relation.TransGen r.Leads (.reference n) t

theorem Seen.length_le {seen : List TypeName} (h : r.Seen seen t) :
    seen.length ≤ r.contract.typeNames.length :=
  h.nodup.length_le_of_subset fun n hn => h.declared n hn

/-- An alias that is met was not seen before, as it would lead to itself. -/
theorem Seen.cons {seen : List TypeName} (h : r.Seen seen t) (hn : r.unwrap t = .reference n)
    (hu : r.aliasTarget? n = some u)
    (hcircle : ¬ Relation.TransGen r.Leads (.reference n) (.reference n)) :
    r.Seen (n :: seen) u := by
  have htn : Relation.ReflTransGen r.Leads t (.reference n) := by
    rw [← hn]
    exact reflTransGen_unwrap t
  have hfresh : n ∉ seen := by
    intro hmem
    exact hcircle ((h.leads n hmem).trans_left htn)
  obtain ⟨d, safety, hd, -⟩ := aliasTarget?_eq_some_iff.mp hu
  have hdeclared := Contract.mem_typeNames.mpr ⟨d, hd⟩
  refine ⟨List.nodup_cons.mpr ⟨hfresh, h.nodup⟩,
    List.forall_mem_cons.mpr ⟨hdeclared, h.declared⟩,
    List.forall_mem_cons.mpr ⟨.single (.target hu), fun m hm => ?_⟩⟩
  exact ((h.leads m hm).trans_left htn).tail (.target hu)

/-- What a type leads to is up to what is left of it without fallbacks. -/
theorem chase_congr (h : r.unwrap t = r.unwrap u) : r.chase t = r.chase u := by
  unfold chase
  cases r.contract.types.length with
  | zero => simp only [chaseFrom, h]
  | succ fuel => simp only [chaseFrom, h]

theorem chaseFrom_succ {fuel : Nat} (hn : r.unwrap t = .reference n)
    (hu : r.aliasTarget? n = some u) : r.chaseFrom (fuel + 1) t = r.chaseFrom fuel u := by
  simp only [chaseFrom, hn, hu]

theorem chaseFrom_of_end {fuel : Nat} (h : ∀ u, ¬ r.Leads (r.unwrap t) u) :
    r.chaseFrom fuel t = r.unwrap t := by
  cases fuel with
  | zero => rfl
  | succ fuel =>
    unfold chaseFrom
    split
    case h_1 n hn =>
      cases hu : r.aliasTarget? n with
      | some u => exact absurd (hn ▸ .target hu) (h u)
      | none => rw [hn]
    case h_2 => rfl

/-- Following a type finds its end if it leads to no circle and there are steps for all aliases
that were not seen. -/
theorem endsAt_chaseFrom {t : TypeExpr} {fuel : Nat} {seen : List TypeName}
    (hcircle : ∀ u, Relation.ReflTransGen r.Leads t u → ¬ Relation.TransGen r.Leads u u)
    (hseen : r.Seen seen t) (hfuel : r.contract.typeNames.length ≤ fuel + seen.length) :
    r.EndsAt t (r.chaseFrom fuel t) := by
  have hunwrap := reflTransGen_unwrap (r := r) t
  by_cases hend : ∀ u, ¬ r.Leads (r.unwrap t) u
  · rw [chaseFrom_of_end hend]
    exact ⟨hunwrap, hend⟩
  · obtain ⟨u, hlead⟩ := not_forall_not.mp hend
    obtain ⟨n, hn, hu⟩ := target_of_leads_unwrap hlead
    have hseen' := hseen.cons hn hu (hcircle _ (hn ▸ hunwrap))
    match fuel with
    | 0 =>
      -- All names were seen, so that there is no alias left to lead on.
      have hle := hseen'.length_le
      rw [List.length_cons] at hle
      omega
    | fuel + 1 =>
      have hleft : r.contract.typeNames.length ≤ fuel + (n :: seen).length := by
        rw [List.length_cons]
        omega
      have hpath := hunwrap.tail hlead
      obtain ⟨hrest, hlast⟩ := endsAt_chaseFrom
        (fun v hv => hcircle v (hpath.trans hv)) hseen' hleft
      rw [chaseFrom_succ hn hu]
      exact ⟨hpath.trans hrest, hlast⟩

/-- Following aliases and fallbacks finds the end of a type that leads to no circle. -/
theorem endsAt_chase_of_no_circle
    (hcircle : ∀ u, Relation.ReflTransGen r.Leads t u → ¬ Relation.TransGen r.Leads u u) :
    r.EndsAt t (r.chase t) := by
  have start : r.Seen [] t := ⟨.nil, by simp, by simp⟩
  exact endsAt_chaseFrom hcircle start r.contract.length_typeNames_le

/-- Following aliases and fallbacks finds the end of every type if there are no circles. -/
theorem endsAt_chase (hcircle : ∀ t, ¬ Relation.TransGen r.Leads t t) (t : TypeExpr) :
    r.EndsAt t (r.chase t) :=
  endsAt_chase_of_no_circle fun u _ => hcircle u

variable {target : Target} {names : NameTable}

/-- Following aliases and fallbacks comes to an end exactly if no fallback leads back to the type
that has it. The resolver then finds the end of every type. -/
theorem leads_wellFounded_iff (h : make c target names = .ok r) :
    (WellFounded (fun t' t => r.Leads t t') ↔
      ∀ x t, r.mapped? x = none → ¬ Relation.ReflTransGen r.Leads t (.externalOr x t)) ∧
    (WellFounded (fun t' t => r.Leads t t') → ∀ t, r.EndsAt t (r.chase t)) := by
  obtain ⟨rfl, hnone⟩ := make_eq_ok_iff.mp h
  refine ⟨⟨?_, ?_⟩, fun hwf => endsAt_chase (not_transGen_leads hwf)⟩
  · intro hwf x t hx hback
    exact not_transGen_leads hwf t (Relation.TransGen.tail' hback (.fallback hx))
  · intro hback
    refine ⟨fun t => (endsAt_chase (fun u hcircle => ?_) t).acc⟩
    exact hnone (transGen_aliasEdge_of_leads hback hcircle)

/-! ### One alias -/

/-- The name of an alias. -/
def handle : TypeName := ⟨"A", "com.example.a"⟩

/-- An alias of a type. -/
def aliased (t : TypeExpr) : Definition := ⟨handle, [], .aliasFor t .unset⟩

/-- An alias of a primitive type comes to an end. -/
theorem leads_wellFounded_iff_string :
    WellFounded fun t' t => (ofDefinition (aliased (.primitive .string))).Leads t t' := by
  have hmake := make_alone (d := aliased (.primitive .string)) (by simp [aliased])
  refine (leads_wellFounded_iff hmake).1.mpr fun x t hx => not_reflTransGen_externalOr ?_ hx
  intro n x t h
  obtain ⟨d, safety, hd, hs⟩ := aliasTarget?_eq_some_iff.mp h
  obtain rfl := eq_of_definition?_alone hd
  cases hs

/-- An external type that falls back to the alias. -/
def fallbackToHandle : TypeExpr := .externalOr ⟨"L", "j"⟩ (.reference handle)

/-- An alias that falls back to itself does not come to an end, though nothing is wrong with its
contract. -/
theorem self_fallback_not_wellFounded :
    (aliased fallbackToHandle).alone.problems = [] ∧
      make (aliased fallbackToHandle).alone (ofDefinition (aliased fallbackToHandle)).target {} =
        .ok (ofDefinition (aliased fallbackToHandle)) ∧
      ¬ WellFounded fun t' t => (ofDefinition (aliased fallbackToHandle)).Leads t t' := by
  refine ⟨rfl, make_alone (by simp [aliased, fallbackToHandle]), fun hwf => ?_⟩
  refine not_transGen_leads hwf (.reference handle) (.tail (.single (.target rfl)) ?_)
  exact .fallback rfl

end Resolver

end Accord
