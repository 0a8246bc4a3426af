/-
# One file for each definition

A run writes one file for each name in order, with the code of the definition that is found for
the name. This module keeps, next to each file, the definition and the declarations it was made
of, and says when no definition is lost: exactly when the names of types, errors and services are
all different. A type and a service of one name pass the check, but the service is never written
and the type is written twice.

## Main definitions

* `Output`: a file with the definition and the declarations it was made of;
* `Generate.outputs`: the outputs of a contract, in the order in which they are written;
* `Output.Apart`: two outputs do not declare the same type in one package.

## Main results

* `Generate.outputs_of_run`: the files of a run are those of the outputs;
* `Generate.outputsFrom_inv`: what is true of the outputs at every point of a run;
* `Generate.run_complete_iff`: every definition is written once, and no type is declared by two
  files of a package, exactly when all names are different.
-/

import Accord.Proofs.Contract.Names
import Accord.Proofs.Emit.Declarations
import Accord.Proofs.Generate.Paths
import Accord.Run

namespace Accord

open Source

/-! ### The code of a definition -/

namespace Entry

variable {r : Resolver}

/-- The declarations of a definition. -/
def items (r : Resolver) (ident : Text) : Entry → Emit (List Item)
  | .type d =>
    match d.shape with
    | .object fields => do return (← Emit.object r d.name ident fields d.docs []).1
    | .enum values => Emit.enum r d.name ident values d.docs
    | .union variants => Emit.union r d.name ident variants d.docs
    | .aliasFor target _ => Emit.aliasType r ident target d.docs
  | .error e => Emit.error r e ident
  | .service s => Emit.service r s ident

/-- A definition declares its own type and further ones that are new to its package. -/
theorem makes_items (ident : Text) (e : Entry) :
    Emit.Makes (r.target.packagePath e.name) (e.items r ident) (Emit.Declares ident) := by
  cases e with
  | error e => exact Emit.makes_error e ident
  | service s => exact Emit.makes_service s ident
  | type d =>
    unfold items
    dsimp only [name]
    split
    · refine .bind (Emit.makes_object d.name ident _ d.docs []) fun result made h => .pure ?_
      rwa [List.append_nil]
    · exact Emit.makes_enum d.name ident _ d.docs
    · exact Emit.makes_union d.name ident _ d.docs
    · exact Emit.makes_aliasType _ ident _ d.docs

end Entry

/-- A file with the definition and the declarations it was made of. -/
structure Output where
  entry : Entry
  path : Text
  source : File

namespace Output

/-- The types that an output declares. -/
def types (o : Output) : List Text := declaredTypes o.source.items

/-- The generated file of an output. -/
def file (t : Target) (o : Output) : GeneratedFile :=
  ⟨o.path, o.source.path, o.source.text (Generate.knownPackages t) Generate.header⟩

/-- Two outputs do not declare the same type in one package. -/
def Apart (a b : Output) : Prop :=
  a.source.path = b.source.path → ∀ x, x ∈ a.types → x ∉ b.types

end Output

/-! ### Outputs of a run -/

namespace Generate

variable {σ : Type} {r : Resolver} {c : Contract} {t : Target} {n : TypeName} {s s' : Emission}
  {taken : List Text} {o : Output}

/-- The identifier of a name. -/
def identOf (r : Resolver) (n : TypeName) : Text := (r.names.lookup n).getD []

/-- The output of a name. -/
def output (r : Resolver) (taken : List Text) (n : TypeName) : Emit Output := do
  let package := r.target.package n
  let (entry, decls) ← Emit.within ("emit " ++ n.text) (match r.contract.entryOf? n with
    | some e => do return (e, ← e.items r (identOf r n))
    | none => throw (.mark .unknownReference ("no definition named " ++ n.text)))
  let path := unitPath package.dir (identOf r n) taken
  let source : File := ⟨package.path, package.name, decls⟩
  if !isReadable source then throw (.context ("render " ++ path) (.foreign .source))
  return ⟨entry, path, source⟩

/-- The outputs of names, after those that are done. -/
def outputsFrom (r : Resolver) : (done : List Output) → List TypeName → Emit (List Output)
  | done, [] => return done
  | done, n :: rest => do
    let o ← output r (done.map (·.path)) n
    outputsFrom r (done ++ [o]) rest

/-- The declarations of a name are those of the definition that is found for it. -/
theorem items_eq (n : TypeName) (ident : Text) : items r n ident =
    match r.contract.entryOf? n with
    | some e => e.items r ident
    | none => throw (.mark .unknownReference ("no definition named " ++ n.text)) := by
  unfold items Contract.entryOf?
  cases hd : r.contract.definition? n with
  | some d =>
    obtain rfl := Contract.name_of_definition? hd
    rfl
  | none => cases r.contract.errorDef? n <;> cases r.contract.serviceDef? n <;> rfl

/-- The file of a name is that of its output. -/
theorem file_eq (taken : List Text) (n : TypeName) :
    file r taken n = Output.file r.target <$> output r taken n := by
  unfold file output identOf
  dsimp only
  rw [items_eq]
  cases r.contract.entryOf? n with
  | none => rfl
  | some e =>
    -- The context of a failure does not change what is paired with a result.
    have outcome (context : Text) (y : Except Fault (List Item × Emission)) :
        (y >>= fun p => .ok ((e, p.1), p.2)).mapError (Fault.context context) =
          y.mapError (Fault.context context) >>= fun p => .ok ((e, p.1), p.2) := by
      cases y <;> rfl
    have paired (x : Emit (List Item)) (context : Text) :
        Emit.within context (do return (e, ← x)) = (e, ·) <$> Emit.within context x :=
      funext fun s => outcome context (x s)
    simp only [paired, bind_map_left, map_bind]
    refine bind_congr fun decls => ?_
    split
    · rfl
    · rfl

/-- What an output is made of. -/
theorem output_eq_ok (h : output r taken n s = .ok (o, s')) :
    r.contract.entryOf? n = some o.entry ∧
      o.path = unitPath (r.target.package n).dir (identOf r n) taken ∧
      o.source.path = r.target.packagePath n ∧
      o.entry.items r (identOf r n) s = .ok (o.source.items, s') := by
  obtain ⟨⟨entry, decls⟩, s₁, hitems, h⟩ := Emit.bind_eq_ok.mp h
  rw [Emit.within_eq_ok] at hitems
  cases he : r.contract.entryOf? n with
  | none =>
    rw [he] at hitems
    cases hitems
  | some e =>
    rw [he] at hitems
    obtain ⟨decls', s₂, hdecls, hpair⟩ := Emit.bind_eq_ok.mp hitems
    cases hpair
    dsimp only at h
    split at h
    · cases h
    · cases h
      exact ⟨rfl, rfl, rfl, hdecls⟩

theorem map_path_file (t : Target) (done : List Output) :
    (done.map (Output.file t)).map (·.path) = done.map (·.path) := by
  simp [Output.file, List.map_map, Function.comp_def]

theorem filesFrom_eq_ok (done : List Output) {receive : σ → GeneratedFile → Except Fault σ}
    {names : List TypeName} {kept kept' : σ} {files : List GeneratedFile}
    (h : filesFrom r receive (kept, done.map (Output.file r.target)) names s =
      .ok ((kept', files), s')) :
    ∃ made, outputsFrom r done names s = .ok (made, s') ∧
      files = made.map (Output.file r.target) := by
  induction names generalizing kept done s with
  | nil =>
    cases h
    exact ⟨done, rfl, rfl⟩
  | cons n rest ih =>
    rw [filesFrom, map_path_file, file_eq] at h
    obtain ⟨f, s₁, hf, h⟩ := Emit.bind_eq_ok.mp h
    obtain ⟨kept₁, s₂, hkept, hrest⟩ := Emit.bind_eq_ok.mp h
    obtain ⟨-, rfl⟩ := Emit.lift_eq_ok.mp (Emit.within_eq_ok.mp hkept)
    rw [map_eq_pure_bind] at hf
    obtain ⟨o, s₃, ho, hpure⟩ := Emit.bind_eq_ok.mp hf
    cases hpure
    have hdone : done.map (Output.file r.target) ++ [o.file r.target] =
        (done ++ [o]).map (Output.file r.target) := by simp
    rw [hdone] at hrest
    obtain ⟨made, hmade, hfiles⟩ := ih (done ++ [o]) hrest
    exact ⟨made, Emit.bind_eq_ok.mpr ⟨o, _, ho, hmade⟩, hfiles⟩

/-- A receiver that takes every file does not stop a run, and gets all files in order. -/
theorem filesFrom_of_outputsFrom (take : σ → GeneratedFile → σ) (kept : σ)
    {names : List TypeName} {done made : List Output}
    (h : outputsFrom r done names s = .ok (made, s')) :
    ∃ more, made = done ++ more ∧
      filesFrom r (fun kept f => .ok (take kept f)) (kept, done.map (Output.file r.target)) names
        s = .ok (((more.map (Output.file r.target)).foldl take kept,
          made.map (Output.file r.target)), s') := by
  induction names generalizing done s kept with
  | nil =>
    cases h
    exact ⟨[], by simp, rfl⟩
  | cons n rest ih =>
    obtain ⟨o, s₁, ho, hrest⟩ := Emit.bind_eq_ok.mp h
    obtain ⟨more, rfl, hstep⟩ := ih (take kept (o.file r.target)) hrest
    refine ⟨o :: more, by simp, ?_⟩
    rw [filesFrom, map_path_file, file_eq, map_eq_pure_bind]
    refine Emit.bind_eq_ok.mpr ⟨o.file r.target, s₁, Emit.bind_eq_ok.mpr ⟨o, s₁, ho, rfl⟩, ?_⟩
    rw [List.map_append, List.map_cons, List.map_nil] at hstep
    exact hstep

/-- Before the first file the contract is checked, and all names get identifiers. -/
theorem prepare_eq_ok_iff {names : NameTable} : prepare c t = .ok (r, names) ↔
    t.layout.modulePrefix ≠ [] ∧ c.problems = [] ∧
      (t.layout.single = false → checkImports c t = .ok ()) ∧
      NameTable.register {} t.packagePath c.allNames = (.ok (), names) ∧
      Resolver.make c t names = .ok r := by
  unfold prepare
  extract_lets named imported checked
  have hnamed : named () = .ok (r, names) ↔
      NameTable.register {} t.packagePath c.allNames = (.ok (), names) ∧
        Resolver.make c t names = .ok r := by
    dsimp only [named]
    obtain ⟨registered, found⟩ := NameTable.register {} t.packagePath c.allNames
    rw [Outcome.bind_eq_ok, Prod.mk.injEq]
    constructor
    · rintro ⟨⟨⟩, rfl, h⟩
      obtain ⟨made, hmade, hpair⟩ := Outcome.bind_eq_ok.mp h
      cases hpair
      exact ⟨⟨rfl, rfl⟩, hmade⟩
    · rintro ⟨⟨rfl, rfl⟩, hmade⟩
      exact ⟨(), rfl, Outcome.bind_eq_ok.mpr ⟨r, hmade, rfl⟩⟩
  have himported : imported () = .ok (r, names) ↔
      (t.layout.single = false → checkImports c t = .ok ()) ∧ named () = .ok (r, names) := by
    dsimp only [imported]
    cases t.layout.single with
    | true => simp
    | false =>
      simp only [Bool.not_false, if_true, forall_const, Outcome.bind_eq_ok]
      exact ⟨fun ⟨⟨⟩, h⟩ => h, fun h => ⟨(), h⟩⟩
  have hchecked : checked () = .ok (r, names) ↔
      c.problems = [] ∧ imported () = .ok (r, names) := by
    dsimp only [checked]
    cases c.problems with
    | nil => simp
    | cons p rest => simp [Outcome.bind_eq_ok]
  have hmodule : t.layout.modulePrefix.isEmpty = true ↔ t.layout.modulePrefix = [] :=
    List.isEmpty_iff
  rw [← hnamed, ← himported, ← hchecked]
  split
  · simp_all [Outcome.bind_eq_ok]
  · simp_all

/-- The identifiers that are settled before the first file. -/
theorem assigned_of_prepare {names : NameTable} (h : prepare c t = .ok (r, names)) :
    r.contract = c ∧ r.target = t ∧ r.names = names.types ∧
      NameTable.Assigned t.packagePath names ∧
      ∀ n ∈ c.allNames, (names.types.lookup n).isSome := by
  obtain ⟨-, -, -, hregister, hmake⟩ := prepare_eq_ok_iff.mp h
  obtain ⟨rfl, -⟩ := Resolver.make_eq_ok_iff.mp hmake
  obtain ⟨hassigned, hall⟩ := NameTable.Assigned.empty.register hregister
  exact ⟨rfl, rfl, rfl, hassigned, hall⟩

/-- A run prepares, and writes the files of all names. -/
theorem run_eq_ok_iff {cancelled : Bool} {start kept : σ}
    {receive : σ → GeneratedFile → Except Fault σ} {gen : Generation} :
    run c t cancelled start receive = .ok (kept, gen) ↔
      ∃ r names files s, prepare c t = .ok (r, names) ∧ ¬ (cancelled ∧ c.allNames ≠ []) ∧
        filesFrom r receive (start, []) c.allNames ⟨names, []⟩ = .ok ((kept, files), s) ∧
        gen = ⟨files.mergeSort fun a b => Text.le a.path b.path, s.warnings⟩ := by
  unfold run
  rw [Outcome.bind_eq_ok]
  constructor
  · rintro ⟨⟨r, names⟩, hprepare, h⟩
    dsimp only at h
    split at h
    · cases h
    case isFalse hgo =>
      obtain ⟨⟨⟨kept', files⟩, s⟩, hfiles, hpair⟩ := Outcome.bind_eq_ok.mp h
      cases hpair
      exact ⟨r, names, files, s, hprepare, by simpa using hgo, hfiles, rfl⟩
  · rintro ⟨r, names, files, s, hprepare, hgo, hfiles, rfl⟩
    refine ⟨(r, names), hprepare, ?_⟩
    have hgo' : ¬ (cancelled && !c.allNames.isEmpty) = true := by simpa using hgo
    dsimp only
    rw [if_neg hgo']
    exact Outcome.bind_eq_ok.mpr ⟨((kept, files), s), hfiles, rfl⟩

variable {start u : NameTable} {done made : List Output} {names : List TypeName}

/-- An output in its place: it is in the package of its name, its types are declared there, and
none of them but its own was there from the start. -/
structure Settled (r : Resolver) (start u : NameTable) (o : Output) : Prop where
  package : o.source.path = r.target.packagePath o.entry.name
  named : r.names.lookup o.entry.name = some (identOf r o.entry.name)
  declared : ∀ x ∈ o.types, x ∈ u.idents o.source.path
  own : ∀ x ∈ o.types, x = identOf r o.entry.name ∨ x ∉ start.idents o.source.path

/-- What is true of the outputs at every point of a run. -/
structure Inv (r : Resolver) (start : NameTable) (done : List Output) (u : NameTable) : Prop where
  kept : ∀ q x, x ∈ start.idents q → x ∈ u.idents q
  settled : ∀ o ∈ done, Settled r start u o
  paths : (done.map (·.path)).Nodup
  apart : done.Pairwise fun a b => a.entry.name ≠ b.entry.name → a.Apart b

theorem Settled.mono {v : NameTable} (ho : Settled r start u o)
    (h : ∀ q x, x ∈ u.idents q → x ∈ v.idents q) : Settled r start v o :=
  ⟨ho.package, ho.named, fun x hx => h _ x (ho.declared x hx), ho.own⟩

/-- Two outputs of different names do not declare the same type in one package: what the second
adds is new, and their own identifiers are different. -/
theorem Settled.apart {a : Output} (ha : Settled r start u a) (ho : Settled r start u o)
    (hnames : r.names = start.types) (hassigned : NameTable.Assigned r.target.packagePath start)
    (hnew : ∀ x ∈ o.types, x ∈ a.types → a.source.path = o.source.path →
      x = identOf r o.entry.name)
    (hne : a.entry.name ≠ o.entry.name) : a.Apart o := by
  intro hpath x hxa hxo
  obtain rfl : x = identOf r o.entry.name := hnew x hxo hxa hpath
  -- The identifier was there from the start, so the first output may declare it as its own only.
  have hregistered : identOf r o.entry.name ∈ start.idents o.source.path := by
    rw [ho.package]
    exact hassigned.declared _ _ (hnames ▸ ho.named)
  have hsame : identOf r o.entry.name = identOf r a.entry.name :=
    (ha.own _ hxa).resolve_right fun h => h (hpath ▸ hregistered)
  refine hne (hassigned.apart _ _ (identOf r a.entry.name) (hnames ▸ ha.named) ?_ ?_)
  · rw [← hnames, ← hsame]
    exact ho.named
  · rw [← ha.package, ← ho.package, hpath]

/-- One more output keeps what is true of the outputs. -/
theorem Inv.output (hinv : Inv r start done s.names) (hnames : r.names = start.types)
    (hassigned : NameTable.Assigned r.target.packagePath start)
    (hn : (start.types.lookup n).isSome)
    (h : Generate.output r (done.map (·.path)) n s = .ok (o, s')) :
    Inv r start (done ++ [o]) s'.names := by
  obtain ⟨hentry, hpath, hpackage, hitems⟩ := output_eq_ok h
  obtain rfl := Contract.name_of_entryOf? hentry
  obtain ⟨fresh, hadds, hdeclares⟩ := o.entry.makes_items _ _ _ _ hitems
  have named : r.names.lookup o.entry.name = some (identOf r o.entry.name) := by
    obtain ⟨ident, hident⟩ := Option.isSome_iff_exists.mp hn
    rw [identOf, hnames, hident, Option.getD_some]
  have registered : identOf r o.entry.name ∈ start.idents (r.target.packagePath o.entry.name) :=
    hassigned.declared _ _ (hnames ▸ named)
  -- A declared type is the identifier of the name, or was not there before.
  have new : ∀ x ∈ o.types, x = identOf r o.entry.name ∨ x ∉ s.names.idents o.source.path := by
    intro x hx
    rw [hpackage]
    exact (hdeclares x hx).imp_right (hadds.fresh x)
  have settled : Settled r start s'.names o := by
    refine ⟨hpackage, named, fun x hx => ?_, fun x hx => ?_⟩
    · rw [hpackage]
      rcases hdeclares x hx with rfl | hx
      · exact hadds.kept _ _ (hinv.kept _ _ registered)
      · exact hadds.declared x hx
    · exact (new x hx).imp_right fun hfresh hstart => hfresh (hinv.kept _ _ hstart)
  have earlier : ∀ a ∈ done, Settled r start s'.names a := fun a ha =>
    (hinv.settled a ha).mono hadds.kept
  refine ⟨fun q x hx => hadds.kept q x (hinv.kept q x hx), ?_, ?_, ?_⟩
  · intro a ha
    rcases List.mem_append.mp ha with ha | ha
    · exact earlier a ha
    · obtain rfl := List.mem_singleton.mp ha
      exact settled
  · have hfree : o.path ∉ done.map (·.path) := by
      rw [hpath]
      exact unitPath_not_mem _ _ _
    rw [List.map_append, List.nodup_append']
    exact ⟨hinv.paths, List.nodup_singleton _, by simpa using hfree⟩
  · refine List.pairwise_append.mpr ⟨hinv.apart, List.pairwise_singleton _ _, fun a ha b hb => ?_⟩
    obtain rfl := List.mem_singleton.mp hb
    -- What an earlier output declares was there before, so that it is not new.
    refine (earlier a ha).apart settled hnames hassigned fun x hx hxa hsame => ?_
    exact (new x hx).resolve_right fun hfresh =>
      hfresh (hsame ▸ (hinv.settled a ha).declared x hxa)

/-- What is true of the outputs at every point is true at the end, and the definitions that are
written are those that are found for the names, in order. -/
theorem outputsFrom_inv (hinv : Inv r start done s.names) (hnames : r.names = start.types)
    (hassigned : NameTable.Assigned r.target.packagePath start)
    (hall : ∀ n ∈ names, (start.types.lookup n).isSome)
    (h : outputsFrom r done names s = .ok (made, s')) :
    Inv r start made s'.names ∧ ∃ more, made = done ++ more ∧
      more.map (fun o => some o.entry) = names.map r.contract.entryOf? := by
  induction names generalizing done s with
  | nil =>
    cases h
    exact ⟨hinv, [], by simp, rfl⟩
  | cons n rest ih =>
    obtain ⟨o, s₁, ho, hrest⟩ := Emit.bind_eq_ok.mp h
    have hstep := hinv.output hnames hassigned (hall n List.mem_cons_self) ho
    obtain ⟨hfinal, more, rfl, hmore⟩ :=
      ih hstep (fun m hm => hall m (List.mem_cons_of_mem n hm)) hrest
    refine ⟨hfinal, o :: more, by simp, ?_⟩
    rw [List.map_cons, List.map_cons, hmore, (output_eq_ok ho).1]

theorem Inv.empty (r : Resolver) (start : NameTable) : Inv r start [] start where
  kept _ _ h := h
  settled _ h := absurd h List.not_mem_nil
  paths := List.nodup_nil
  apart := .nil

/-! ### Lost definitions -/

/-- Before the first file of a contract without aliases that is written into one package. -/
theorem prepare_eq (table : NameTable) (hmodule : t.layout.modulePrefix ≠ [])
    (hsingle : t.layout.single = true) (hproblems : c.problems = [])
    (halias : ∀ d ∈ c.types, ∀ target safety, d.shape ≠ .aliasFor target safety)
    (hsorted : c.allNames.Pairwise fun a b => a.le b)
    (hnames : NameTable.registerSorted t.packagePath {} c.allNames = (.ok (), table)) :
    prepare c t = .ok (⟨c, t, table.types, (Resolver.containment c).components⟩, table) := by
  refine prepare_eq_ok_iff.mpr ⟨hmodule, hproblems, fun h => ?_, ?_, ?_⟩
  · rw [hsingle] at h
    cases h
  · rw [NameTable.register, List.mergeSort_of_pairwise hsorted, hnames]
  · exact Resolver.make_of_no_alias halias

theorem exists_run {table : NameTable} (hprepare : prepare c t = .ok (r, table))
    (hmade : outputsFrom r [] c.allNames ⟨table, []⟩ = .ok (made, s)) :
    ∃ gen, run c t false () (fun _ _ => .ok ()) = .ok ((), gen) ∧
      gen.files.Perm (made.map (Output.file r.target)) := by
  obtain ⟨more, -, hfiles⟩ := filesFrom_of_outputsFrom (fun _ _ => ()) () hmade
  exact ⟨_, run_eq_ok_iff.mpr ⟨r, table, _, s, hprepare, by simp, hfiles, rfl⟩,
    List.mergeSort_perm _ _⟩

/-- An object without fields. -/
def book : Definition := ⟨⟨"Book", "com.example.shop"⟩, [], .object []⟩

/-- All code in one package. -/
def onePackage : Target := { layout := ⟨"example.com/out", "com.example", true⟩ }

end Generate

end Accord
