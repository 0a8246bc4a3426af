/-
# Identifiers stay apart

A scope hands out an identifier that it does not have yet, and keeps it. The scopes of a run
therefore only grow, and two names of one package never get the same identifier.

All that ever happens to the scopes of the packages is that one of them gets a new identifier,
which is then the identifier of a type or of something else. What one such step keeps is kept
by all requests.

## Main definitions

* `NameTable.idents`: the identifiers that are declared in a package;
* `NameTable.Gives`: a table gives out one identifier;
* `NameTable.Later`: a table has given out any number of identifiers;
* `NameTable.Assigned`: names have identifiers of their own in their packages.

## Main results

* `Scope.declare_cases`: the two ways in which declaring an identifier ends;
* `NameTable.declare_cases`, `NameTable.typeName_cases`: the same for tables;
* `NameTable.later_registerSorted`: registering names gives out identifiers, even if it fails;
* `NameTable.Assigned.register`: after registering, all names have identifiers of their own.
-/

import Accord.Proofs.Outcome
import Accord.Proofs.Text.Entries
import Accord.Source.Scope
import Mathlib.Logic.Relation

namespace Accord.Source

/-! ### One scope -/

namespace Scope

/-- A scope hands out the first spelling that it does not have, or fails if it has all of them. -/
theorem declare_cases (s : Scope) (name : Text) :
    (∃ ident ∈ candidates name, ident ∉ s.names ∧
      s.declare name = .ok (ident, ⟨ident :: s.names⟩)) ∨
    (∀ c ∈ candidates name, c ∈ s.names) ∧ s.declare name = .error (collision name) := by
  unfold declare declare?
  cases hfind : (candidates name).find? (!s.has ·) with
  | some ident =>
    have hfree : ident ∉ s.names := by simpa [has] using List.find?_some hfind
    exact .inl ⟨ident, List.mem_of_find?_eq_some hfind, hfree, rfl⟩
  | none =>
    refine .inr ⟨fun c hc => ?_, rfl⟩
    simpa [has] using List.find?_eq_none.mp hfind c hc

/-- An identifier that is handed out is new, and is kept. -/
theorem declare_eq_ok {s s' : Scope} {name ident : Text}
    (h : s.declare name = .ok (ident, s')) : ident ∉ s.names ∧ s'.names = ident :: s.names := by
  rcases s.declare_cases name with ⟨found, -, hfree, hfound⟩ | ⟨-, herror⟩
  · rw [h] at hfound
    cases hfound
    exact ⟨hfree, rfl⟩
  · rw [h] at herror
    cases herror

end Scope

/-! ### The scopes of a run -/

namespace NameTable

/-- An identifier that is given out in a package, to a type or to something else. -/
structure Grant where
  package : Text
  holder : Option TypeName
  ident : Text

/-- The identifiers that are declared in a package. -/
def idents (t : NameTable) (package : Text) : List Text := (t.packageScope package).names

/-- A table gives out an identifier that is new in its package. A type gets an identifier once,
in its own package, and it is a spelling of its name. -/
structure Gives (packageOf : TypeName → Text) (g : Grant) (t t' : NameTable) : Prop where
  fresh : g.ident ∉ t.idents g.package
  idents_eq : ∀ q,
    t'.idents q = if q = g.package then g.ident :: t.idents g.package else t.idents q
  types_eq : t'.types = (g.holder.map fun n => (n, g.ident)).toList ++ t.types
  spelled : ∃ name, g.ident ∈ Scope.candidates name
  first : ∀ n, g.holder = some n → t.types.lookup n = none ∧ g.package = packageOf n ∧
    g.ident ∈ Scope.candidates (exported n.name)

/-- A table after any number of identifiers were given out. -/
def Later (packageOf : TypeName → Text) : NameTable → NameTable → Prop :=
  Relation.ReflTransGen fun t t' => ∃ g, Gives packageOf g t t'

variable {t t' : NameTable} {package name ident : Text} {packageOf : TypeName → Text}
  {n m : TypeName} {g : Grant}

/-! ### What a step keeps -/

namespace Gives

theorem later (h : Gives packageOf g t t') : Later packageOf t t' := .single ⟨g, h⟩

theorem mem_idents_iff (h : Gives packageOf g t t') {q x : Text} :
    x ∈ t'.idents q ↔ x ∈ t.idents q ∨ q = g.package ∧ x = g.ident := by
  rw [h.idents_eq]
  by_cases hq : q = g.package
  · subst hq
    simp [or_comm]
  · simp [hq]

/-- A type has an identifier if it had it before or got it now. -/
theorem lookup_iff (h : Gives packageOf g t t') {x : Text} :
    t'.types.lookup n = some x ↔
      t.types.lookup n = some x ∨ g.holder = some n ∧ g.ident = x := by
  rw [h.types_eq]
  cases hholder : g.holder with
  | none => simp
  | some k =>
    -- The holder had no identifier, so that the new one hides none.
    by_cases hkn : n = k
    · subst hkn
      simp [(h.first n hholder).1]
    · have hbeq : (n == k) = false := beq_false_of_ne hkn
      simp [List.lookup_cons, hbeq, Ne.symm hkn]

end Gives

/-- What every step keeps is kept for good. -/
theorem Later.preserves {P : NameTable → Prop} (h : Later packageOf t t')
    (hstep : ∀ g u u', Gives packageOf g u u' → P u → P u') (ht : P t) : P t' := by
  induction h with
  | refl => exact ht
  | tail _ hlast ih =>
    obtain ⟨g, hg⟩ := hlast
    exact hstep g _ _ hg ih

/-- The identifiers of types are kept. -/
theorem Later.lookup (h : Later packageOf t t') {x : Text} (hn : t.types.lookup n = some x) :
    t'.types.lookup n = some x :=
  h.preserves (P := fun u => u.types.lookup n = some x)
    (fun _ _ _ hg hu => hg.lookup_iff.mpr (.inl hu)) hn

/-! ### Requests -/

/-- A table gives out the first spelling that its package does not have, or fails if the package
has all of them. -/
theorem declare_cases (packageOf : TypeName → Text) (t : NameTable) (package name : Text) :
    (∃ ident ∈ Scope.candidates name, ∃ t', Gives packageOf ⟨package, none, ident⟩ t t' ∧
      t.declare package name = .ok (ident, t')) ∨
    (∀ c ∈ Scope.candidates name, c ∈ t.idents package) ∧
      t.declare package name = .error (Scope.collision name) := by
  unfold declare
  rcases (t.packageScope package).declare_cases name with
    ⟨ident, hspelled, hfree, hok⟩ | ⟨htaken, herror⟩
  · let scope : Scope := ⟨ident :: t.idents package⟩
    refine .inl ⟨ident, hspelled, { t with packages := Text.upsert package scope t.packages },
      ⟨hfree, fun q => ?_, rfl, ⟨name, hspelled⟩, ?_⟩, by rw [hok]; rfl⟩
    · -- The scope of the package is replaced, and those of other packages are found as before.
      dsimp only [idents, packageScope]
      rw [Text.lookup_upsert]
      by_cases hq : q = package
      · rw [if_pos hq, if_pos hq]
        rfl
      · rw [if_neg hq, if_neg hq]
    · -- What is declared here is not a type.
      rintro n ⟨⟩
  · exact .inr ⟨htaken, by rw [herror]; rfl⟩

/-- Declaring an identifier adds a new one to its package, and changes nothing else. -/
theorem declare_eq_ok (h : t.declare package name = .ok (ident, t')) :
    ident ∉ t.idents package ∧
      (∀ q, t'.idents q = if q = package then ident :: t.idents package else t.idents q) ∧
      t'.types = t.types := by
  rcases declare_cases (fun _ => package) t package name with
    ⟨x, -, u, hgives, hok⟩ | ⟨-, herror⟩
  · rw [h] at hok
    cases hok
    exact ⟨hgives.fresh, hgives.idents_eq, hgives.types_eq⟩
  · rw [h] at herror
    cases herror

/-- A type has its identifier already, or it gets one, or there is none left for it. -/
theorem typeName_cases (packageOf : TypeName → Text) (t : NameTable) (n : TypeName) :
    (∃ ident, t.types.lookup n = some ident ∧ t.typeName packageOf n = .ok (ident, t)) ∨
    (∃ ident t', Gives packageOf ⟨packageOf n, some n, ident⟩ t t' ∧
      t.typeName packageOf n = .ok (ident, t')) ∨
    (t.types.lookup n = none ∧
      (∀ c ∈ Scope.candidates (exported n.name), c ∈ t.idents (packageOf n)) ∧
      t.typeName packageOf n =
        .error (.context ("type " ++ n.text) (Scope.collision (exported n.name)))) := by
  unfold typeName
  cases hlookup : t.types.lookup n with
  | some ident => exact .inl ⟨ident, rfl, rfl⟩
  | none =>
    refine .inr ?_
    rcases declare_cases packageOf t (packageOf n) (exported n.name) with
      ⟨ident, hspelled, u, hgives, hok⟩ | ⟨htaken, herror⟩
    · refine .inl ⟨ident, { u with types := (n, ident) :: u.types },
        ⟨hgives.fresh, hgives.idents_eq, ?_, hgives.spelled, ?_⟩, by rw [hok]; rfl⟩
      · exact congrArg ((n, ident) :: ·) hgives.types_eq
      · rintro k ⟨⟩
        exact ⟨hlookup, rfl, hspelled⟩
    · exact .inr ⟨rfl, htaken, by rw [herror]; rfl⟩

/-- Registering names gives out identifiers, and every name has one unless it fails. -/
theorem later_registerSorted (packageOf : TypeName → Text) (t : NameTable)
    (names : List TypeName) :
    Later packageOf t (registerSorted packageOf t names).2 ∧
      ((registerSorted packageOf t names).1 = .ok () →
        ∀ n ∈ names, ((registerSorted packageOf t names).2.types.lookup n).isSome) := by
  induction names generalizing t with
  | nil => exact ⟨.refl, by simp⟩
  | cons n rest ih =>
    unfold registerSorted
    -- What is left to register starts from a later table in which the first name is settled.
    have continued {ident : Text} {u : NameTable} (hu : Later packageOf t u)
        (hn : u.types.lookup n = some ident) :
        Later packageOf t (registerSorted packageOf u rest).2 ∧
          ((registerSorted packageOf u rest).1 = .ok () → ∀ k ∈ n :: rest,
            ((registerSorted packageOf u rest).2.types.lookup k).isSome) := by
      obtain ⟨hlater, hall⟩ := ih u
      refine ⟨hu.trans hlater, fun hok k hk => ?_⟩
      rcases List.mem_cons.mp hk with rfl | hk
      · rw [hlater.lookup hn, Option.isSome_some]
      · exact hall hok k hk
    rcases typeName_cases packageOf t n with
      ⟨ident, hn, hok⟩ | ⟨ident, u, hgives, hok⟩ | ⟨-, -, herror⟩
    · rw [hok]
      exact continued .refl hn
    · rw [hok]
      exact continued hgives.later (hgives.lookup_iff.mpr (.inr ⟨rfl, rfl⟩))
    · rw [herror]
      refine ⟨.refl, ?_⟩
      rintro ⟨⟩

/-! ### Identifiers of their own -/

/-- Every name that has an identifier has one of its own in its package. -/
structure Assigned (packageOf : TypeName → Text) (t : NameTable) : Prop where
  declared : ∀ n ident, t.types.lookup n = some ident → ident ∈ t.idents (packageOf n)
  apart : ∀ n m ident, t.types.lookup n = some ident → t.types.lookup m = some ident →
    packageOf n = packageOf m → n = m

theorem Assigned.empty : Assigned packageOf {} where
  declared _ _ h := by simp at h
  apart _ _ _ h := by simp at h

/-- A name that gets a new identifier gets one that no other name of its package has. -/
theorem Assigned.gives (ht : Assigned packageOf t) (h : Gives packageOf g t t') :
    Assigned packageOf t' := by
  -- The new identifier was not there, but the identifiers of all types of its package were.
  have alone {k l : TypeName} {x : Text} (hk : t.types.lookup k = some x)
      (hl : g.holder = some l) (hpackage : packageOf k = packageOf l) : g.ident ≠ x := by
    rintro rfl
    have hmem := ht.declared k _ hk
    rw [hpackage, ← (h.first l hl).2.1] at hmem
    exact h.fresh hmem
  refine ⟨fun k x hk => ?_, fun k l x hk hl hpackage => ?_⟩
  · rcases h.lookup_iff.mp hk with hk | ⟨hholder, rfl⟩
    · exact h.mem_idents_iff.mpr (.inl (ht.declared k x hk))
    · exact h.mem_idents_iff.mpr (.inr ⟨(h.first k hholder).2.1.symm, rfl⟩)
  · rcases h.lookup_iff.mp hk with hk | ⟨hk, hx⟩ <;> rcases h.lookup_iff.mp hl with hl | ⟨hl, hy⟩
    · exact ht.apart k l x hk hl hpackage
    · exact absurd hy (alone hk hl hpackage)
    · exact absurd hx (alone hl hk hpackage.symm)
    · exact Option.some.inj (hk.symm.trans hl)

/-- After registering names, each of them has an identifier of its own. -/
theorem Assigned.register {names : List TypeName} (ht : Assigned packageOf t)
    (h : NameTable.register t packageOf names = (.ok (), t')) :
    Assigned packageOf t' ∧ ∀ n ∈ names, (t'.types.lookup n).isSome := by
  obtain ⟨hlater, hall⟩ := later_registerSorted packageOf t (names.mergeSort TypeName.le)
  unfold NameTable.register at h
  rw [h] at hlater hall
  exact ⟨hlater.preserves (fun _ _ _ hg hu => hu.gives hg) ht,
    fun n hn => hall rfl n (List.mem_mergeSort.mpr hn)⟩

end NameTable

end Accord.Source
