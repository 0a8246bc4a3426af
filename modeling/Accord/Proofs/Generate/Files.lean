/-
# Generated files and their receivers

Every path that a run gives to a file can be used, and no two of them are the same. So a receiver
need not look at the paths: whether it does makes no difference to any run. A receiver that takes
all files gets them one after the other, and what is kept of them in memory are the files that the
run lists.

## Main definitions

* `Generate.IsFilePath`: the paths that a run can give to files;
* `Generate.checking`: a receiver that looks at paths;
* `Generate.Written`: the files of a run, as they are kept in memory and as they are listed.

## Main results

* `Generate.plain_identOf`: the identifiers of a run are plain;
* `Generate.run_checking`: a run does not depend on whether paths are checked;
* `Generate.run_of_run`: the files of a run, and what other receivers make of them;
* `Generate.Written.of_run`: what is kept in memory of a run and what is listed agree.
-/

import Accord.Proofs.Generate.Completeness
import Accord.Proofs.Output.Staging
import Accord.Proofs.Output.Usable

namespace Accord

open Source (NameTable)

/-- Two ways to go on are the same if they are after every result that there can be. -/
theorem Emit.bind_congr_of_ok {α β : Type} {x : Emit α} {f g : α → Emit β}
    (h : ∀ s a s', x s = .ok (a, s') → f a = g a) : x >>= f = x >>= g := by
  funext s
  change (x s >>= fun p => f p.1 p.2) = x s >>= fun p => g p.1 p.2
  cases hx : x s with
  | error e => rfl
  | ok result =>
    obtain ⟨a, s'⟩ := result
    rw [Outcome.ok_bind, Outcome.ok_bind, h s a s' hx]

namespace Generate

variable {σ : Type} {r : Resolver} {c : Contract} {t : Target} {n : TypeName} {s s' : Emission}
  {taken : List Text} {f : GeneratedFile}

/-! ### Paths of files -/

/-- The identifiers of a run are plain: they are spellings of exported identifiers. -/
theorem plain_identOf {names : NameTable} (h : prepare c t = .ok (r, names)) (n : TypeName) :
    (identOf r n).Plain := by
  obtain ⟨-, -, -, hregister, hmake⟩ := prepare_eq_ok_iff.mp h
  obtain ⟨rfl, -⟩ := Resolver.make_eq_ok_iff.mp hmake
  have hlater := (NameTable.later_registerSorted t.packagePath {}
    (c.allNames.mergeSort TypeName.le)).1
  unfold NameTable.register at hregister
  rw [hregister] at hlater
  unfold identOf
  -- A name without an identifier is not written; what stands for its identifier is empty.
  cases hlookup : names.types.lookup n with
  | none => exact fun b hb => absurd hb List.not_mem_nil
  | some ident =>
    have hspelled := ((NameTable.Sound.empty.later hlater).spelled n ident hlookup).1
    exact Source.plain_of_mem_candidates hspelled (Source.plain_exported n.name)

/-- A path that a run can give to a file. -/
def IsFilePath (path : Text) : Prop :=
  Output.checkPath path = .ok () ∧ ∃ start : Text, path = start ++ ".conjure.go"

theorem isFilePath_of_output {o : Output} (hplain : ∀ n, (identOf r n).Plain)
    (h : output r taken n s = .ok (o, s')) : IsFilePath o.path := by
  rw [(output_eq_ok h).2.1]
  exact checkPath_unitPath r.target.layout n.package (hplain n) taken

theorem isFilePath_of_outputsFrom {names : List TypeName} {done made : List Output}
    (hplain : ∀ n, (identOf r n).Plain) (h : outputsFrom r done names s = .ok (made, s'))
    (hdone : ∀ o ∈ done, IsFilePath o.path) : ∀ o ∈ made, IsFilePath o.path := by
  induction names generalizing done s with
  | nil =>
    cases h
    exact hdone
  | cons n rest ih =>
    obtain ⟨o, s₁, ho, hrest⟩ := Emit.bind_eq_ok.mp h
    refine ih hrest fun a ha => ?_
    rcases List.mem_append.mp ha with ha | ha
    · exact hdone a ha
    · obtain rfl := List.mem_singleton.mp ha
      exact isFilePath_of_output hplain ho

/-! ### Receivers that look at paths -/

/-- A receiver that looks at the path of a file before it takes the file. -/
def checking (receive : σ → GeneratedFile → Except Fault σ) (kept : σ) (f : GeneratedFile) :
    Except Fault σ := do
  Sink.allow false f.path
  receive kept f

theorem checking_of_isFilePath (receive : σ → GeneratedFile → Except Fault σ) (kept : σ)
    (h : IsFilePath f.path) : checking receive kept f = receive kept f := by
  have hallow : Sink.allow false f.path = .ok () := by
    unfold Sink.allow
    rw [h.1]
    rfl
  rw [checking, hallow, Outcome.ok_bind]

theorem filesFrom_checking (hplain : ∀ n, (identOf r n).Plain)
    (receive : σ → GeneratedFile → Except Fault σ) (done : σ × List GeneratedFile)
    (names : List TypeName) :
    filesFrom r (checking receive) done names = filesFrom r receive done names := by
  induction names generalizing done with
  | nil => rfl
  | cons n rest ih =>
    obtain ⟨kept, files⟩ := done
    rw [filesFrom, filesFrom]
    refine Emit.bind_congr_of_ok fun s f s' hf => ?_
    -- The file is that of an output, whose path can be used.
    rw [file_eq, map_eq_pure_bind] at hf
    obtain ⟨o, s₁, ho, hpure⟩ := Emit.bind_eq_ok.mp hf
    cases hpure
    rw [checking_of_isFilePath receive kept (isFilePath_of_output hplain ho)]
    exact bind_congr fun kept => ih (kept, files ++ [o.file r.target])

/-- Whether a receiver looks at paths makes no difference to any run, since all paths can be
used. -/
theorem run_checking (c : Contract) (t : Target) (cancelled : Bool) (start : σ)
    (receive : σ → GeneratedFile → Except Fault σ) :
    run c t cancelled start (checking receive) = run c t cancelled start receive := by
  unfold run
  cases hprepare : prepare c t with
  | error e => rfl
  | ok prepared =>
    obtain ⟨r, names⟩ := prepared
    rw [Outcome.ok_bind, Outcome.ok_bind]
    simp only [filesFrom_checking (plain_identOf hprepare)]

/-! ### Files in memory -/

/-- The files of a run, as they are kept in memory and as they are listed. -/
structure Written (kept : FileMap) (gen : Generation) : Prop where
  entries : kept.entries.Perm (gen.files.map fun f => (f.path, f.content))
  sorted : gen.files.Pairwise fun a b => Text.lt a.path b.path = true
  usable : ∀ f ∈ gen.files, IsFilePath f.path

/-- A run whose files all are taken gives the same files to every receiver that takes all. -/
theorem run_of_run {cancelled : Bool} {start kept : σ}
    {receive : σ → GeneratedFile → Except Fault σ} {gen : Generation}
    (h : run c t cancelled start receive = .ok (kept, gen)) {τ : Type} (start' : τ)
    (take : τ → GeneratedFile → τ) :
    ∃ files : List GeneratedFile, gen.files = files.mergeSort (fun a b => Text.le a.path b.path) ∧
      (files.map (·.path)).Nodup ∧ (∀ f ∈ files, IsFilePath f.path) ∧
      run c t cancelled start' (fun kept f => .ok (take kept f)) =
        .ok (files.foldl take start', gen) := by
  obtain ⟨r, names, files, s, hprepare, hgo, hfiles, rfl⟩ := run_eq_ok_iff.mp h
  obtain ⟨made, hmade, rfl⟩ := filesFrom_eq_ok [] hfiles
  obtain ⟨-, rfl, hnames, hassigned, hall⟩ := assigned_of_prepare hprepare
  -- The outputs do not depend on the receiver.
  have hinv := (outputsFrom_inv (Inv.empty r names) hnames hassigned hall hmade).1
  obtain ⟨more, hmore, htake⟩ := filesFrom_of_outputsFrom take start' hmade
  rw [List.nil_append] at hmore
  subst hmore
  refine ⟨made.map (Output.file r.target), rfl, ?_, fun f hf => ?_, ?_⟩
  · rw [map_path_file]
    exact hinv.paths
  · obtain ⟨o, ho, rfl⟩ := List.mem_map.mp hf
    exact isFilePath_of_outputsFrom (plain_identOf hprepare) hmade (by simp) o ho
  · exact run_eq_ok_iff.mpr ⟨r, names, _, s, hprepare, hgo, htake, rfl⟩

theorem Written.distinct {kept : FileMap} {gen : Generation} (h : Written kept gen) :
    kept.Distinct := by
  have hkeys := h.entries.map (·.1)
  rw [List.map_map] at hkeys
  refine hkeys.nodup_iff.mpr ?_
  exact List.pairwise_map.mpr (h.sorted.imp fun hlt => (Text.lt_iff.mp hlt).2)

/-- What is kept in memory of a run are the files that are listed. -/
theorem exists_written {start kept : σ} {receive : σ → GeneratedFile → Except Fault σ}
    {gen : Generation} (h : run c t false start receive = .ok (kept, gen)) :
    ∃ files : FileMap, run c t false ({} : FileMap)
        (fun files f => Sink.memory.write false f.path f.content files) = .ok (files, gen) ∧
      Written files gen := by
  obtain ⟨files, hlisted, hnodup, husable, hrun⟩ := run_of_run h ({} : FileMap)
    fun kept f => kept.insert f.path f.content
  refine ⟨_, (run_checking c t false _ _).trans hrun, ?_, ?_, ?_⟩
  · -- All paths are new when they are written, so that the files stand in their order.
    have hfold (m : FileMap) :
        (files.foldl (fun kept f => kept.insert f.path f.content) m).entries =
          (files.map fun f => (f.path, f.content)).foldl
            (fun sofar entry => Text.upsert entry.1 entry.2 sofar) m.entries := by
      rw [List.foldl_map]
      exact (List.foldl_hom FileMap.entries fun _ _ => rfl).symm
    rw [hfold, Text.foldl_upsert [] (by simpa [Function.comp_def] using hnodup), List.nil_append,
      hlisted]
    exact (List.mergeSort_perm files _).symm.map _
  · rw [hlisted]
    exact Text.mergeSort_strict hnodup
  · intro f hf
    rw [hlisted] at hf
    exact husable f (List.mem_mergeSort.mp hf)

theorem Written.of_run {kept : FileMap} {gen : Generation}
    (h : run c t false ({} : FileMap)
      (fun files f => Sink.memory.write false f.path f.content files) = .ok (kept, gen)) :
    Written kept gen := by
  obtain ⟨files, hfiles, hwritten⟩ := exists_written h
  rw [h] at hfiles
  cases hfiles
  exact hwritten

end Generate

end Accord
