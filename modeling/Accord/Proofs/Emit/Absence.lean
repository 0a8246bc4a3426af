/-
# Absent values

Two questions are asked about the values of a type: whether they have to be present on the wire,
and how their absence is told. Each is answered by a recursion of its own along the aliases and
fallbacks of the type. An alias passes on what is told of the type it stands for, except that a
pointer behind it is wrapped; a fallback passes on everything. The two answers agree on every type
that leads to an end.

## Main definitions

* `TypeExpr.emptiness`: how absence is told by the form of a type alone;
* `Resolver.PassedOn`: an answer is passed on along aliases and fallbacks.

## Main results

* `Resolver.EndsAt.chase_eq`: the resolver finds the end of every type that has one;
* `Resolver.PassedOn.succ_eq`: where the end is found, more fuel changes no answer;
* `Resolver.emptiness_target`, `Resolver.isRequired_target`: what an alias passes on;
* `Resolver.emptiness_fallback`, `Resolver.isRequired_fallback`: what a fallback passes on;
* `Resolver.isRequired_iff_never`: values that have to be present are those that never are absent.
-/

import Accord.Proofs.Emit.AliasChains

namespace Accord

/-- How the absence of a value is told by the form of its type alone. -/
def TypeExpr.emptiness : TypeExpr → Emptiness
  | optional _ => .null
  | list _ => .length
  | set _ => .length
  | map _ _ => .length
  | _ => .never

theorem Emptiness.behindAlias_eq_never_iff {e : Emptiness} : e.behindAlias = never ↔ e = never := by
  cases e <;> simp [behindAlias]

namespace Resolver

variable {r : Resolver} {t u v : TypeExpr} {n x : TypeName}

/-! ### Types that lead to an end -/

/-- A type leads where the next type leads. -/
theorem EndsAt.head (hstep : r.Leads t u) (h : r.EndsAt u v) : r.EndsAt t v :=
  ⟨.head hstep h.1, h.2⟩

/-- The next type leads where a type leads. -/
theorem EndsAt.of_leads (h : r.EndsAt t v) (hstep : r.Leads t u) : r.EndsAt u v := by
  obtain ⟨hpath, hend⟩ := h
  rcases hpath.cases_head with rfl | ⟨w, hstep', hrest⟩
  · exact absurd hstep (hend u)
  · obtain rfl := hstep.eq hstep'
    exact ⟨hrest, hend⟩

theorem EndsAt.of_reflTransGen (h : r.EndsAt t v) (hpath : Relation.ReflTransGen r.Leads t u) :
    r.EndsAt u v := by
  induction hpath with
  | refl => exact h
  | tail _ hstep ih => exact ih.of_leads hstep

/-- A type leads to one end only. -/
theorem EndsAt.unique (h : r.EndsAt t u) (h' : r.EndsAt t v) : u = v := by
  have huv := h'.of_reflTransGen h.1
  rcases huv.1.cases_head with heq | ⟨w, hstep, -⟩
  · exact heq
  · exact absurd hstep (h.2 w)

/-- A type on a circle has no end. -/
theorem EndsAt.not_transGen (h : r.EndsAt t u) : ¬ Relation.TransGen r.Leads t t := by
  intro hcircle
  obtain ⟨hpath, hend⟩ := h
  -- Every type on the way is on the circle, the end as well, and a step leads on from there.
  induction hpath using Relation.ReflTransGen.head_induction_on with
  | refl =>
    obtain ⟨w, hstep, -⟩ := Relation.TransGen.head'_iff.mp hcircle
    exact hend w hstep
  | head hstep hrest ih =>
    obtain ⟨w, hstep', hreturn⟩ := Relation.TransGen.head'_iff.mp hcircle
    obtain rfl := hstep.eq hstep'
    exact ih (Relation.TransGen.tail' hreturn hstep)

/-- Following a type that leads to an end finds it. -/
theorem EndsAt.chase_eq (h : r.EndsAt t u) : r.chase t = u := by
  have hfound : r.EndsAt t (r.chase t) :=
    endsAt_chase_of_no_circle fun _ hpath => (h.of_reflTransGen hpath).not_transGen
  exact hfound.unique h

/-! ### What is passed on -/

theorem mapped?_of_end (h : ∀ u, ¬ r.Leads (.externalOr x t) u) : (r.mapped? x).isSome = true :=
  Option.isSome_iff_ne_none.mpr fun hx => h t (.fallback hx)

/-- An end has no fallback that counts. -/
theorem unwrap_of_end (h : ∀ u, ¬ r.Leads t u) : r.unwrap t = t := by
  cases t with
  | externalOr x fallback => rw [unwrap, if_pos (mapped?_of_end h)]
  | _ => rfl

/-- An answer is passed on: that for an alias comes from that for its target, which takes one unit
of fuel, that for a fallback is the answer for the type that has it, and an end needs no fuel. -/
structure PassedOn {α : Type} (r : Resolver) (answer : Nat → TypeExpr → α) (through : α → α) :
    Prop where
  target : ∀ {fuel n t}, r.aliasTarget? n = some t →
    answer (fuel + 1) (.reference n) = through (answer fuel t)
  fallback : ∀ {fuel x t}, r.mapped? x = none → answer fuel (.externalOr x t) = answer fuel t
  settled : ∀ {fuel t}, (∀ u, ¬ r.Leads t u) → answer (fuel + 1) t = answer fuel t

namespace PassedOn

variable {α : Type} {answer : Nat → TypeExpr → α} {through : α → α} {fuel : Nat}

theorem unwrap_eq (h : r.PassedOn answer through) (t : TypeExpr) :
    answer fuel (r.unwrap t) = answer fuel t := by
  induction t with
  | externalOr x t ih =>
    rw [unwrap]
    split
    case isTrue => rfl
    case isFalse hx => rw [h.fallback (Option.not_isSome_iff_eq_none.mp hx), ih]
  | _ => rfl

/-- If the fuel leads to the end of a type, more of it does not change the answer. -/
theorem succ_eq (h : r.PassedOn answer through) (hends : r.EndsAt t (r.chaseFrom fuel t)) :
    answer (fuel + 1) t = answer fuel t := by
  -- On the fuel: either no alias is left, or one unit is spent on it on both sides.
  induction fuel generalizing t with
  | zero =>
    rw [← h.unwrap_eq, ← h.unwrap_eq t]
    exact h.settled hends.2
  | succ fuel ih =>
    rw [← h.unwrap_eq, ← h.unwrap_eq t]
    by_cases hend : ∀ u, ¬ r.Leads (r.unwrap t) u
    · exact h.settled hend
    · obtain ⟨u, hlead⟩ := not_forall_not.mp hend
      obtain ⟨n, hn, hu⟩ := target_of_leads_unwrap hlead
      rw [chaseFrom_succ hn hu] at hends
      rw [hn, h.target hu, h.target hu, ih (hends.of_reflTransGen ?_)]
      exact (reflTransGen_unwrap t).tail hlead

/-- With fuel for all types of the contract, the answer for an alias comes from that for its
target. -/
theorem target_eq (h : r.PassedOn answer through) (hn : r.aliasTarget? n = some t)
    (hends : r.EndsAt t u) : answer r.contract.types.length (.reference n) =
      through (answer r.contract.types.length t) := by
  obtain ⟨d, safety, hd, -⟩ := aliasTarget?_eq_some_iff.mp hn
  have hpos : 0 < r.contract.types.length :=
    List.length_pos_of_mem (Contract.mem_of_definition? hd)
  obtain ⟨fuel, hfuel⟩ := Nat.exists_eq_add_one.mpr hpos
  have hchase : r.chaseFrom fuel t = u := by
    have hfound := (hends.head (.target hn)).chase_eq
    rwa [chase, hfuel, chaseFrom_succ rfl hn] at hfound
  rw [hfuel, h.target hn, h.succ_eq (hchase.symm ▸ hends)]

end PassedOn

/-! ### Whether values have to be present -/

theorem aliasTarget?_of_end (h : ∀ u, ¬ r.Leads (.reference n) u) : r.aliasTarget? n = none := by
  cases hn : r.aliasTarget? n with
  | none => rfl
  | some t => exact absurd (.target hn) (h t)

/-- The form of an end tells whether its values have to be present. -/
theorem requiredBy_of_end {next : TypeExpr → Bool} (h : ∀ u, ¬ r.Leads t u) :
    r.requiredBy next t = decide (t.emptiness = .never) := by
  cases t with
  | reference n => rw [requiredBy, aliasTarget?_of_end h]; rfl
  | externalOr x fallback => rw [requiredBy, if_pos (mapped?_of_end h)]; rfl
  | _ => rfl

theorem requiredFrom_of_end {fuel : Nat} (h : ∀ u, ¬ r.Leads t u) :
    r.requiredFrom fuel t = decide (t.emptiness = .never) := by
  cases fuel <;> exact requiredBy_of_end h

theorem passedOn_requiredFrom : r.PassedOn r.requiredFrom id where
  target hn := by simp only [requiredFrom, requiredBy, hn, id]
  fallback {fuel} _ _ hx := by cases fuel <;> simp [requiredFrom, requiredBy, hx]
  settled h := by rw [requiredFrom_of_end h, requiredFrom_of_end h]

theorem isRequired_of_end (h : ∀ u, ¬ r.Leads t u) :
    r.isRequired t = true ↔ t.emptiness = .never := by
  rw [isRequired, requiredFrom_of_end h, decide_eq_true_eq]

theorem isRequired_fallback (hx : r.mapped? x = none) :
    r.isRequired (.externalOr x t) = r.isRequired t :=
  passedOn_requiredFrom.fallback hx

/-- An alias passes on whether values have to be present. -/
theorem isRequired_target (hn : r.aliasTarget? n = some t) (h : r.EndsAt t u) :
    r.isRequired (.reference n) = r.isRequired t :=
  passedOn_requiredFrom.target_eq hn h

/-! ### How absence is told -/

/-- The form of an end tells how the absence of its values is told. -/
theorem emptinessBy_of_end {next : TypeExpr → Emptiness} (h : ∀ u, ¬ r.Leads t u) :
    r.emptinessBy next t = t.emptiness := by
  cases t with
  | reference n => rw [emptinessBy, aliasTarget?_of_end h]; rfl
  | externalOr x fallback => rw [emptinessBy, if_pos (mapped?_of_end h)]; rfl
  | _ => rfl

theorem emptinessFrom_of_end {fuel : Nat} (h : ∀ u, ¬ r.Leads t u) :
    r.emptinessFrom fuel t = t.emptiness := by
  cases fuel <;> exact emptinessBy_of_end h

theorem passedOn_emptinessFrom : r.PassedOn r.emptinessFrom Emptiness.behindAlias where
  target hn := by simp only [emptinessFrom, emptinessBy, hn]
  fallback {fuel} _ _ hx := by cases fuel <;> simp [emptinessFrom, emptinessBy, hx]
  settled h := by rw [emptinessFrom_of_end h, emptinessFrom_of_end h]

theorem emptiness_of_end (h : ∀ u, ¬ r.Leads t u) : r.emptiness t = t.emptiness :=
  emptinessFrom_of_end h

theorem emptiness_fallback (hx : r.mapped? x = none) :
    r.emptiness (.externalOr x t) = r.emptiness t :=
  passedOn_emptinessFrom.fallback hx

/-- An alias passes on how absence is told, with pointers wrapped. -/
theorem emptiness_target (hn : r.aliasTarget? n = some t) (h : r.EndsAt t u) :
    r.emptiness (.reference n) = (r.emptiness t).behindAlias :=
  passedOn_emptinessFrom.target_eq hn h

/-! ### The two answers -/

/-- Values have to be present exactly if there is no way to tell that they are absent. -/
theorem isRequired_iff_never (h : r.EndsAt t u) :
    r.isRequired t = true ↔ r.emptiness t = .never := by
  obtain ⟨hpath, hend⟩ := h
  -- From the end of the way back to its start: each step passes both answers on.
  induction hpath using Relation.ReflTransGen.head_induction_on with
  | refl => rw [isRequired_of_end hend, emptiness_of_end hend]
  | head hstep hrest ih =>
    cases hstep with
    | target hn =>
      rw [isRequired_target hn ⟨hrest, hend⟩, emptiness_target hn ⟨hrest, hend⟩,
        Emptiness.behindAlias_eq_never_iff]
      exact ih
    | fallback hx =>
      rw [isRequired_fallback hx, emptiness_fallback hx]
      exact ih

/-! ### An alias of an optional type -/

/-- The resolver of an alias of an optional string. -/
def optionalHandle : Resolver := ofDefinition (aliased (.optional (.primitive .string)))

/-- What falls back to the alias leads to the optional string. -/
theorem endsAt_fallbackToHandle :
    optionalHandle.EndsAt fallbackToHandle (.optional (.primitive .string)) := by
  refine ⟨.head (.fallback rfl) (.single (.target rfl)), ?_⟩
  intro t h
  cases h

end Resolver

end Accord
