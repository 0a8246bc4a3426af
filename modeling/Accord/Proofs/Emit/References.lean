/-
# References that lead nowhere

Resolving a type looks names up: those of the references inside of it, as far as it gets. It fails
for an unknown reference exactly if it looks up a name that no type has. The check of a contract
lets references to errors pass, which are no types; hence a contract that passes the check has
unknown references exactly where the name of an error is looked up.

## Main definitions

* `Resolver.LooksUp`: resolving a type looks a name up;
* `Resolver.Dangling`: resolving a type fails for an unknown reference.

## Main results

* `Resolver.exists_goType_of_isKey`: a type that can be a key can be resolved;
* `Resolver.dangling_iff`: resolving fails for an unknown reference exactly if it looks up a name
  that no type has;
* `Resolver.dangling_iff_looksUp_error`: in a contract that passes the check, exactly if it looks
  up the name of an error;
* `Resolver.error_as_type_dangling`: this happens.
-/

import Accord.Proofs.Contract.Rules
import Accord.Proofs.Emit.AliasChains
import Accord.Proofs.Outcome

namespace Accord

theorem Text.append_ne_of_take {s t : Text} (h : t.take s.length ≠ s) (u : Text) : s ++ u ≠ t := by
  rintro rfl
  exact h List.take_left

/-! ### Marks -/

namespace Fault

variable {m m' : Mark} {hint text : Text}

theorem has_mark : (mark m' text).has m = true ↔ m' = m ∨ text = m.text := by
  simp [has, mark, parts]

theorem has_hinted_plain : (hinted hint (.plain text)).has m = true ↔ text = m.text := by
  simp [has, parts]

end Fault

namespace Resolver

variable {r : Resolver} {t u key value : TypeExpr} {n x : TypeName}

/-- Resolving a type looks a name up. Keys of maps are resolved before values, and only if they can
be keys; a fallback is resolved if nothing stands for the external type. -/
inductive LooksUp (r : Resolver) : TypeExpr → TypeName → Prop where
  | reference (n : TypeName) : LooksUp r (.reference n) n
  | optional {item : TypeExpr} {n : TypeName} (h : LooksUp r item n) : LooksUp r (.optional item) n
  | list {item : TypeExpr} {n : TypeName} (h : LooksUp r item n) : LooksUp r (.list item) n
  | set {item : TypeExpr} {n : TypeName} (h : LooksUp r item n) : LooksUp r (.set item) n
  | key {key value : TypeExpr} {n : TypeName} (hkey : r.isKey key = true)
    (h : LooksUp r key n) : LooksUp r (.map key value) n
  | value {key value : TypeExpr} {n : TypeName} (hkey : r.isKey key = true)
    (h : LooksUp r value n) : LooksUp r (.map key value) n
  | fallback {x n : TypeName} {fallback : TypeExpr} (hx : r.mapped? x = none)
    (h : LooksUp r fallback n) : LooksUp r (.externalOr x fallback) n

/-- Resolving a type fails for an unknown reference. -/
def Dangling (r : Resolver) (t : TypeExpr) : Prop :=
  ∃ e, r.goType t = .error e ∧ e.has .unknownReference = true

/-- A name that is looked up stands inside of the type. -/
theorem LooksUp.mentions (h : r.LooksUp t n) : t.Mentions n := by
  induction h with
  | reference n => exact .reference n
  | optional _ ih => exact .optional ih
  | list _ ih => exact .list ih
  | set _ ih => exact .set ih
  | key _ _ ih => exact .key ih
  | value _ _ ih => exact .value ih
  | fallback _ _ ih => exact .fallback ih

/-! ### Keys -/

theorem isKey_externalOr (hx : r.mapped? x = none) : r.isKey (.externalOr x t) = r.isKey t := by
  unfold isKey
  rw [chase_congr (u := t) (by simp [unwrap, hx])]

/-- A type from which no alias and no fallback leads on is a key if it is a primitive one or an
enumeration. -/
theorem isKey_of_end (h : ∀ u, ¬ r.Leads t u) (hunwrap : r.unwrap t = t)
    (hkey : r.isKey t = true) : (∃ p, t = .primitive p) ∨ ∃ n, t = .reference n ∧ r.isEnum n := by
  have hend : r.chase t = t := by
    rw [chase, chaseFrom_of_end (hunwrap.symm ▸ h), hunwrap]
  unfold isKey at hkey
  rw [hend] at hkey
  cases t with
  | primitive p => exact .inl ⟨p, rfl⟩
  | reference n => exact .inr ⟨n, rfl, hkey⟩
  | _ => cases hkey

theorem isSome_definition?_of_isEnum (h : r.isEnum n = true) :
    (r.contract.definition? n).isSome := by
  unfold isEnum at h
  cases hd : r.contract.definition? n with
  | none =>
    rw [hd] at h
    cases h
  | some d => rfl

/-- The types that can be keys. -/
theorem isKey_cases (h : r.isKey t = true) : (∃ p, t = .primitive p) ∨
    (∃ n, t = .reference n ∧ (r.contract.definition? n).isSome) ∨
      ∃ x u, t = .externalOr x u ∧ r.mapped? x = none ∧ r.isKey u = true := by
  by_cases hlead : ∃ u, r.Leads t u
  · obtain ⟨u, hlead⟩ := hlead
    cases hlead with
    | @target n _ hn =>
      obtain ⟨d, safety, hd, -⟩ := aliasTarget?_eq_some_iff.mp hn
      exact .inr (.inl ⟨n, rfl, by rw [hd]; rfl⟩)
    | @fallback x _ hx => exact .inr (.inr ⟨x, u, rfl, hx, isKey_externalOr hx ▸ h⟩)
  · have hunwrap : r.unwrap t = t := by
      cases t with
      | externalOr x u =>
        have hx : r.mapped? x ≠ none := fun hx => hlead ⟨u, .fallback hx⟩
        rw [unwrap, if_pos (Option.isSome_iff_ne_none.mpr hx)]
      | _ => rfl
    rcases isKey_of_end (not_exists.mp hlead) hunwrap h with hp | ⟨n, rfl, hn⟩
    · exact .inl hp
    · exact .inr (.inl ⟨n, rfl, isSome_definition?_of_isEnum hn⟩)

theorem reference_eq_ok (h : (r.contract.definition? n).isSome) :
    ∃ g, r.reference n = .ok g :=
  ⟨_, if_pos h⟩

/-- A type that can be a key can be resolved. -/
theorem exists_goType_of_isKey (h : r.isKey t = true) : ∃ g, r.goType t = .ok g := by
  induction t with
  | externalOr x u ih =>
    rcases isKey_cases h with ⟨_, hp⟩ | ⟨_, hn, -⟩ | ⟨x', u', heq, hx, hu⟩
    · cases hp
    · cases hn
    · cases heq
      obtain ⟨g, hg⟩ := ih hu
      exact ⟨g, by rw [goType, hx]; exact hg⟩
  | primitive p => exact ⟨_, rfl⟩
  | reference n =>
    rcases isKey_cases h with ⟨_, hp⟩ | ⟨m, hm, hdef⟩ | ⟨_, _, hx, -⟩
    · cases hp
    · cases hm
      exact reference_eq_ok hdef
    · cases hx
  | _ => rcases isKey_cases h with ⟨_, hp⟩ | ⟨_, hn, -⟩ | ⟨_, _, hx, -⟩ <;> contradiction

/-! ### Failures -/

/-- The key of a map cannot fail, so that resolving a map is resolving its value. -/
theorem goType_map (h : r.isKey key = true) (value : TypeExpr) :
    ∃ k : Source.Ty, r.goType (.map key value) = (r.goType value).map (.map k) := by
  obtain ⟨g, hg⟩ := exists_goType_of_isKey h
  refine ⟨if key = .primitive .boolean then r.runtime "Boolean" else g, ?_⟩
  rw [goType, h]
  by_cases hbool : key = .primitive .boolean
  · rw [if_pos hbool, if_pos hbool]
    cases r.goType value <;> rfl
  · rw [if_neg hbool, if_neg hbool, hg]
    cases r.goType value <;> rfl

theorem not_has_unsupportedKey : (unsupportedKey t).has .unknownReference ≠ true := by
  rw [unsupportedKey, Ne, Fault.has_mark]
  exact not_or.mpr ⟨by decide, Text.append_ne_of_take (by decide) _⟩

theorem not_has_unmapped : (unmapped x).has .unknownReference ≠ true := by
  rw [unmapped, Ne, Fault.has_mark, List.append_assoc]
  exact not_or.mpr ⟨by decide, Text.append_ne_of_take (by decide) _⟩

theorem not_has_chosen {spelled : Text} {e : Fault} (h : chosen x spelled = .error e) :
    e.has .unknownReference ≠ true := by
  have hmalformed : chosen.malformed x spelled = .error e := by
    unfold chosen at h
    split at h
    · split at h
      · exact h
      · cases h
    · exact h
  cases hmalformed
  rw [Ne, Fault.has_hinted_plain, List.append_assoc, List.append_assoc]
  exact Text.append_ne_of_take (by decide) _

theorem dangling_optional : r.Dangling (.optional t) ↔ r.Dangling t := by
  simp only [Dangling, goType, Outcome.map_eq_error]

theorem dangling_list : r.Dangling (.list t) ↔ r.Dangling t := by
  simp only [Dangling, goType, Outcome.map_eq_error]

theorem dangling_set : r.Dangling (.set t) ↔ r.Dangling t := by
  simp only [Dangling, goType, Outcome.map_eq_error]

theorem dangling_map : r.Dangling (.map key value) ↔ r.isKey key = true ∧ r.Dangling value := by
  by_cases hkey : r.isKey key = true
  · obtain ⟨k, hk⟩ := goType_map hkey value
    simp only [Dangling, hk, Outcome.map_eq_error, hkey, true_and]
  · refine iff_of_false ?_ fun h => hkey h.1
    rintro ⟨e, he, hhas⟩
    rw [goType, Bool.eq_false_iff.mpr hkey] at he
    cases he
    exact not_has_unsupportedKey hhas

theorem dangling_reference : r.Dangling (.reference n) ↔ r.contract.definition? n = none := by
  unfold Dangling
  rw [goType, reference]
  cases r.contract.definition? n with
  | none => simp [Fault.has_mark]
  | some d => simp

theorem not_dangling_external : ¬ r.Dangling (.external x) := by
  rintro ⟨e, he, hhas⟩
  rw [goType] at he
  split at he
  · exact not_has_chosen he hhas
  · cases he
    exact not_has_unmapped hhas

theorem dangling_externalOr :
    r.Dangling (.externalOr x t) ↔ r.mapped? x = none ∧ r.Dangling t := by
  cases hx : r.mapped? x with
  | none => simp only [Dangling, goType, hx, true_and]
  | some spelled =>
    refine iff_of_false ?_ fun h => nomatch h.1
    rintro ⟨e, he, hhas⟩
    rw [goType, hx] at he
    exact not_has_chosen he hhas

/-- Resolving a type fails for an unknown reference exactly if it looks up a name that no type
has. -/
theorem dangling_iff :
    r.Dangling t ↔ ∃ n, r.LooksUp t n ∧ r.contract.definition? n = none := by
  constructor
  · intro h
    induction t with
    | primitive p =>
      obtain ⟨e, he, -⟩ := h
      cases he
    | optional item ih =>
      obtain ⟨n, hn, hnone⟩ := ih (dangling_optional.mp h)
      exact ⟨n, .optional hn, hnone⟩
    | list item ih =>
      obtain ⟨n, hn, hnone⟩ := ih (dangling_list.mp h)
      exact ⟨n, .list hn, hnone⟩
    | set item ih =>
      obtain ⟨n, hn, hnone⟩ := ih (dangling_set.mp h)
      exact ⟨n, .set hn, hnone⟩
    | map key value _ ih =>
      obtain ⟨hkey, hvalue⟩ := dangling_map.mp h
      obtain ⟨n, hn, hnone⟩ := ih hvalue
      exact ⟨n, .value hkey hn, hnone⟩
    | reference n => exact ⟨n, .reference n, dangling_reference.mp h⟩
    | external x => exact absurd h not_dangling_external
    | externalOr x fallback ih =>
      obtain ⟨hx, hfallback⟩ := dangling_externalOr.mp h
      obtain ⟨n, hn, hnone⟩ := ih hfallback
      exact ⟨n, .fallback hx hn, hnone⟩
  · rintro ⟨n, hn, hnone⟩
    induction hn with
    | reference n => exact dangling_reference.mpr hnone
    | optional _ ih => exact dangling_optional.mpr (ih hnone)
    | list _ ih => exact dangling_list.mpr (ih hnone)
    | set _ ih => exact dangling_set.mpr (ih hnone)
    | key hkey _ ih =>
      -- A key that fails would not be a key.
      obtain ⟨e, he, -⟩ := ih hnone
      obtain ⟨g, hg⟩ := exists_goType_of_isKey hkey
      rw [hg] at he
      cases he
    | value hkey _ ih => exact dangling_map.mpr ⟨hkey, ih hnone⟩
    | fallback hx _ ih => exact dangling_externalOr.mpr ⟨hx, ih hnone⟩

/-! ### Errors as types -/

/-- In a contract that passes the check, resolving a type fails for an unknown reference exactly
if it looks up the name of an error. -/
theorem dangling_iff_looksUp_error (h : r.contract.problems = []) (ht : r.contract.Uses t) :
    r.Dangling t ↔ ∃ e ∈ r.contract.errors, r.LooksUp t e.name := by
  have hrules := Contract.consistent_of_problems h
  obtain ⟨-, -, hapart⟩ := List.nodup_append'.mp hrules.distinct
  rw [dangling_iff]
  constructor
  · rintro ⟨n, hn, hnone⟩
    have hdeclared := hrules.references t ht n hn.mentions
    have herror := (List.mem_append.mp hdeclared).resolve_left
      (Contract.definition?_eq_none_iff.mp hnone)
    obtain ⟨e, he, rfl⟩ := List.mem_map.mp herror
    exact ⟨e, he, hn⟩
  · rintro ⟨e, he, hn⟩
    refine ⟨e.name, hn, Contract.definition?_eq_none_iff.mpr fun hmem => ?_⟩
    exact hapart hmem (List.mem_map_of_mem he)

/-- An error without arguments. -/
def gone : ErrorDef := ⟨⟨"Gone", "com.example.a"⟩, "Shop", "NOT_FOUND", [], [], []⟩

/-- Errors by their texts, if there are any. -/
def goneByText : TypeExpr := .map (.primitive .string) (.optional (.reference gone.name))

/-- An object that refers to an error as if it were a type. -/
def receipt : Definition where
  name := ⟨"Receipt", "com.example.a"⟩
  docs := []
  shape := .object [⟨"cause", .reference gone.name, [], [], .unset⟩,
    ⟨"others", goneByText, [], [], .unset⟩]

/-- The contract of the object and the error. -/
def refund : Contract := ⟨1, [gone], [receipt], [], []⟩

/-- The resolver of the object and the error. -/
def refundResolver : Resolver where
  contract := refund
  target := { layout := ⟨"example.com/out", "com.example", false⟩ }
  names := []
  components := (containment refund).components

theorem problems_refund : refund.problems = [] := by decide +kernel

theorem make_refund : make refund refundResolver.target {} = .ok refundResolver :=
  make_of_no_alias (by simp [refund, receipt])

/-- An error is looked up inside of the values of a map. -/
theorem dangling_iff_looksUp_error_value : refundResolver.contract.problems = [] ∧
    refundResolver.contract.Uses goneByText ∧ refundResolver.Dangling goneByText := by
  have huses : refundResolver.contract.Uses goneByText :=
    .inl ⟨receipt, List.mem_singleton_self _, _, List.mem_cons_of_mem _ List.mem_cons_self, rfl⟩
  refine ⟨problems_refund, huses, (dangling_iff_looksUp_error problems_refund huses).mpr ?_⟩
  exact ⟨gone, List.mem_singleton_self _, .value (by decide +kernel) (.optional (.reference _))⟩

/-- A contract that refers to an error as if it were a type passes the check and has a resolver,
but the type of the field cannot be resolved: the reference is unknown. -/
theorem error_as_type_dangling : refund.problems = [] ∧
    make refund refundResolver.target {} = .ok refundResolver ∧
      refund.Uses (.reference gone.name) ∧ refundResolver.Dangling (.reference gone.name) := by
  refine ⟨problems_refund, make_refund, ?_, dangling_reference.mpr rfl⟩
  exact .inl ⟨receipt, List.mem_singleton_self _, _, List.mem_cons_self, rfl⟩

end Resolver

end Accord
