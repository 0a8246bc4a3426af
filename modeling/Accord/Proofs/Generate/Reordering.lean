/-
# Runs do not depend on the order of a document

Names are put in order before they get identifiers, and files are written in the order of names.
So two contracts that list the same definitions in different orders give the same run: the same
identifiers, the same fields held by pointer, the same files handed on one after the other, and
the same warnings or the same fault. All names have to be different, because of two definitions
with one name the last counts.

## Main results

* `Generate.prepare_of_alike`: what is settled before the first file;
* `Generate.run_of_alike`: a whole run;
* `Generate.run_eq_of_reordering`: the same for contracts that list the same definitions.
-/

import Accord.Proofs.Emit.Lookups
import Accord.Proofs.Generate.Completeness

namespace Accord

open Source

variable {c c' : Contract} {t : Target}

theorem Resolver.containment_of_alike (h : c.Alike c') : containment c' = containment c := by
  simp only [containment, h.typeNames, h.definition?]

theorem Resolver.make_of_alike (h : c.Alike c') (names : NameTable) :
    make c' t names = (make c t names).map (·.asking c') := by
  -- The two resolvers differ in their contracts only.
  have hasking : (⟨c', t, names.types, (containment c').components⟩ : Resolver) =
      (⟨c, t, names.types, (containment c).components⟩ : Resolver).asking c' := by
    rw [containment_of_alike h, asking]
  simp only [make]
  rw [hasking, aliasCycle?_asking h]
  cases aliasCycle? ⟨c, t, names.types, (containment c).components⟩ with
  | none => rfl
  | some cycle => rfl

namespace Generate

theorem checkImports_of_alike (h : c.Alike c') : checkImports c' t = checkImports c t := by
  simp only [checkImports, importGraph, h.allNames, h.refs]

/-- What is settled before the first file depends on the definitions that are found. -/
theorem prepare_of_alike (h : c.Alike c') (hc : c.problems = []) (hc' : c'.problems = []) :
    prepare c' t = (prepare c t).map fun made => (made.1.asking c', made.2) := by
  simp only [prepare, hc, hc', h.allNames, checkImports_of_alike h, Resolver.make_of_alike h]
  obtain ⟨registered, names⟩ := NameTable.register {} t.packagePath c.allNames
  cases t.layout.modulePrefix.isEmpty with
  | true => rfl
  | false =>
    cases t.layout.single with
    | true => cases registered <;> cases Resolver.make c t names <;> rfl
    | false =>
      cases checkImports c t <;> cases registered <;> cases Resolver.make c t names <;> rfl

/-- A run depends on the definitions that are found. -/
theorem run_of_alike {σ : Type} (h : c.Alike c') (hc : c.problems = []) (hc' : c'.problems = [])
    (cancelled : Bool) (start : σ) (receive : σ → GeneratedFile → Except Fault σ) :
    run c' t cancelled start receive = run c t cancelled start receive := by
  simp only [run, prepare_of_alike h hc hc', h.allNames]
  cases hprepare : prepare c t with
  | error fault => rfl
  | ok made =>
    obtain ⟨r, names⟩ := made
    obtain ⟨rfl, -⟩ := assigned_of_prepare hprepare
    -- Both runs go through the same names, with resolvers that give the same files.
    simp only [Except.map, Outcome.ok_bind, filesFrom_asking h]

/-- Contracts that list the same definitions of different names, in whatever order, have the same
identifiers, the same generated types and the same fields held by pointer, and a run hands the
same files to the same places and ends with the same files and warnings, or the same fault. -/
theorem run_eq_of_reordering (h : c.Reordering c') (hnames : c.names.Nodup)
    (hproblems : c.problems = []) (t : Target) :
    (∀ r names, prepare c t = .ok (r, names) → ∃ r', prepare c' t = .ok (r', names) ∧
      r'.names = r.names ∧ r'.goType = r.goType ∧ r'.boxed = r.boxed ∧
        r'.fieldType = r.fieldType) ∧
    ∀ (σ : Type) (cancelled : Bool) (start : σ) (receive : σ → GeneratedFile → Except Fault σ),
      run c' t cancelled start receive = run c t cancelled start receive := by
  have halike := h.alike hnames
  have hproblems' := h.problems hproblems
  refine ⟨fun r names hprepare => ⟨r.asking c', ?_⟩, fun σ =>
    run_of_alike halike hproblems hproblems'⟩
  obtain ⟨rfl, -⟩ := assigned_of_prepare hprepare
  refine ⟨?_, rfl, Resolver.goType_asking halike, rfl, Resolver.fieldType_asking halike⟩
  rw [prepare_of_alike halike hproblems hproblems', hprepare]
  rfl

/-- An object that may hold another one. -/
def holding (name other : Text) : Definition :=
  ⟨⟨name, "shop"⟩, [],
    .object [⟨"other", .optional (.reference ⟨other, "shop"⟩), [], [], .unset⟩]⟩

/-- Two objects that may hold each other and want the same identifier. -/
def twins : Contract := ⟨1, [], [holding "Book" "book", holding "book" "Book"], [], []⟩

/-- The same objects in the other order. -/
def swappedTwins : Contract := { twins with types := twins.types.reverse }

/-- The names of the twins in order. -/
def twinNames : List TypeName := [⟨"Book", "shop"⟩, ⟨"book", "shop"⟩]

/-- The identifiers of the twins. -/
def twinTable : NameTable := (NameTable.registerSorted onePackage.packagePath {} twinNames).2

/-- The twins have different names, pass the check and can be written. -/
theorem twins_written : twins.names.Nodup ∧ twins.problems = [] ∧
    ∃ gen, run twins onePackage false () (fun _ _ => .ok ()) = .ok ((), gen) := by
  have hsorted : twinNames.Pairwise fun a b => a.le b := by decide +kernel
  have hall : twins.allNames = twinNames :=
    Contract.allNames_eq_of_sorted (by decide +kernel) hsorted
  have hproblems : twins.problems = [] := by decide +kernel
  have hprepare := prepare_eq (c := twins) (t := onePackage) twinTable (by decide) rfl hproblems
    (by simp [twins, holding]) (hall ▸ hsorted) (by rw [hall]; rfl)
  have hmade : (outputsFrom ⟨twins, onePackage, twinTable.types,
      (Resolver.containment twins).components⟩ [] twins.allNames ⟨twinTable, []⟩).isOk = true := by
    rw [hall]
    decide +kernel
  obtain ⟨⟨made, s⟩, hmade⟩ := Outcome.isOk_iff.mp hmade
  obtain ⟨gen, hrun, -⟩ := exists_run hprepare hmade
  exact ⟨by decide +kernel, hproblems, gen, hrun⟩

/-- The twins in either order are written alike. -/
theorem run_eq_of_reordering_twins : twins.Reordering swappedTwins ∧ twins.names.Nodup ∧
    twins.problems = [] ∧ ∃ gen,
      run twins onePackage false () (fun _ _ => .ok ()) = .ok ((), gen) ∧
      run swappedTwins onePackage false () (fun _ _ => .ok ()) = .ok ((), gen) := by
  have hreordering : twins.Reordering swappedTwins :=
    ⟨rfl, (List.reverse_perm _).symm, .refl _, .refl _, rfl⟩
  obtain ⟨hnames, hproblems, gen, hrun⟩ := twins_written
  refine ⟨hreordering, hnames, hproblems, gen, hrun, ?_⟩
  rw [(run_eq_of_reordering hreordering hnames hproblems onePackage).2, hrun]

end Generate

end Accord
