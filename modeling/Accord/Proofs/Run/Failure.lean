/-
# What a failed run leaves behind

The files of a run are held back until all of them are there. A run that fails before that leaves
its place as it was. If the place refuses one of the files later, the run fails too, but the place
keeps the files of smaller paths: nothing takes them back.

## Main results

* `Run.produce_eq_ok`: what a run consists of that succeeds;
* `Run.produce_distinct`: the files of a run have different paths;
* `Run.toSink_eq_error_iff`: when a run fails, and what its place is then.
-/

import Accord.Proofs.Generate.Files
import Accord.Run

namespace Accord

namespace Run

variable {α β : Type} {log log' : Log}

theorem bind_eq_ok {x : Run α} {f : α → Run β} {b : β} :
    (x >>= f).run.run log = (.ok b, log') ↔
      ∃ a log₁, x.run.run log = (.ok a, log₁) ∧ (f a).run.run log₁ = (.ok b, log') := by
  rw [ExceptT.run_bind, StateT.run_bind]
  rcases x.run.run log with ⟨outcome, log₁⟩
  cases outcome with
  | error e =>
    constructor
    · rintro ⟨⟩
    · rintro ⟨a, log₂, ⟨⟩, -⟩
  | ok a =>
    constructor
    · exact fun h => ⟨a, log₁, rfl, h⟩
    · rintro ⟨a, log₂, ⟨⟩, h⟩
      exact h

theorem lift_eq_ok {x : Except Fault α} {a : α} :
    (monadLift x : Run α).run.run log = (.ok a, log') ↔ x = .ok a ∧ log' = log := by
  cases x with
  | error e =>
    constructor
    · rintro ⟨⟩
    · rintro ⟨⟨⟩, -⟩
  | ok a =>
    constructor
    · rintro ⟨⟩
      exact ⟨rfl, rfl⟩
    · rintro ⟨⟨⟩, rfl⟩
      rfl

variable {s : Settings} {contract? : Option Contract} {read : Text → Stored} {cancelled : Bool}
  {files : FileMap} {report : Report}

/-- The files of a run besides the generated code: its manifest, and a module file if it declares
a module. -/
def records (s : Settings) (g : Generation) : List (Text × Text) :=
  (Manifest.fileName, (Manifest.make s g).json) ::
    if s.module.isEmpty then [] else [("go.mod", moduleFile s)]

/-- A run that succeeds has generated code, and adds its manifest and its module file to it. -/
theorem produce_eq_ok
    (h : (produce s contract? read cancelled).run.run log = (.ok (files, report), log')) :
    cancelled = false ∧ report.manifest = Manifest.make s.withDefaults report.generation ∧
      ∃ c generated, Generate.run c s.withDefaults.target cancelled {}
          (fun files f => Sink.memory.write cancelled f.path f.content files) =
            .ok (generated, report.generation) ∧
        files.entries = (records s.withDefaults report.generation).foldl
          (fun sofar entry => Text.upsert entry.1 entry.2 sofar) generated.entries := by
  -- Of the steps of a run that succeeds, three write files; the others check and log.
  obtain ⟨-, log₁, -, h⟩ := bind_eq_ok.mp h
  obtain ⟨c, log₂, -, h⟩ := bind_eq_ok.mp h
  obtain ⟨⟨generated, g⟩, log₃, hrun, h⟩ := bind_eq_ok.mp h
  obtain ⟨-, log₄, -, h⟩ := bind_eq_ok.mp h
  obtain ⟨-, log₅, -, h⟩ := bind_eq_ok.mp h
  obtain ⟨listed, log₆, hmanifest, h⟩ := bind_eq_ok.mp h
  have hgenerated := Outcome.mapError_eq_ok.mp (lift_eq_ok.mp hrun).1
  obtain ⟨-, hgo, rfl⟩ := Sink.memory_write_eq_ok_iff.mp
    (Outcome.mapError_eq_ok.mp (lift_eq_ok.mp hmanifest).1)
  -- The module file, if there is one, comes last.
  dsimp only at h
  split at h
  case isTrue hempty =>
    obtain ⟨all, log₇, hpure, h⟩ := bind_eq_ok.mp h
    obtain ⟨-, log₈, -, hreport⟩ := bind_eq_ok.mp h
    cases hpure
    cases hreport
    refine ⟨hgo, rfl, c, generated, hgenerated, ?_⟩
    rw [records, if_pos hempty]
    rfl
  case isFalse hempty =>
    obtain ⟨all, log₇, hmodule, h⟩ := bind_eq_ok.mp h
    obtain ⟨-, log₈, -, hreport⟩ := bind_eq_ok.mp h
    cases hreport
    obtain ⟨-, -, rfl⟩ := Sink.memory_write_eq_ok_iff.mp
      (Outcome.mapError_eq_ok.mp (lift_eq_ok.mp hmodule).1)
    refine ⟨hgo, rfl, c, generated, hgenerated, ?_⟩
    rw [records, if_neg hempty]
    rfl

/-- The files of a run have different paths. -/
theorem produce_distinct
    (h : (produce s contract? read cancelled).run.run log = (.ok (files, report), log')) :
    files.Distinct := by
  obtain ⟨rfl, -, c, generated, hrun, hfiles⟩ := produce_eq_ok h
  unfold FileMap.Distinct
  rw [hfiles]
  exact Text.nodup_keys_foldl_upsert (Generate.Written.of_run hrun).distinct _

variable {τ : Type} {sink : Sink τ} {place place' : τ} {fault : Fault}

/-- A run whose files are all there fails at the path of a file that its place refuses. -/
theorem toSink_of_refused {path content : Text} {cause : Fault}
    (hproduce : (produce s contract? read cancelled).run.run [] = (.ok (files, report), log))
    (hget : files.get? path = some content)
    (htaken : sink.takeAll cancelled (files.before path) place = .ok place')
    (hrefused : sink.write cancelled path content place' = .error cause) :
    toSink sink place s contract? read cancelled =
      ((.error (.context ("commit " ++ path) cause), log), place') := by
  have hcommit : Stage.commit sink cancelled ⟨place, files⟩ =
      (.error (.context ("commit " ++ path) cause), ⟨place', files⟩) :=
    (Stage.commit_eq_error_iff (produce_distinct hproduce)).mpr
      ⟨rfl, path, content, cause, hget, htaken, hrefused, rfl⟩
  simp only [toSink, hproduce, hcommit]
  rfl

/-- A run fails in one of two ways. Its files were not all there, and its place is as it was; or
its place refused one of the files, and holds besides what it held those of smaller paths. -/
theorem toSink_eq_error_iff :
    toSink sink place s contract? read cancelled = ((.error fault, log), place') ↔
      (produce s contract? read cancelled).run.run [] = (.error fault, log) ∧ place' = place ∨
      ∃ files report path content cause,
        (produce s contract? read cancelled).run.run [] = (.ok (files, report), log) ∧
        files.get? path = some content ∧
        sink.takeAll cancelled (files.before path) place = .ok place' ∧
        sink.write cancelled path content place' = .error cause ∧
        fault = .context ("commit " ++ path) cause := by
  constructor
  · intro h
    unfold toSink at h
    rcases hproduce : (produce s contract? read cancelled).run.run [] with ⟨outcome, log₁⟩
    rw [hproduce] at h
    cases outcome with
    | error e =>
      cases h
      exact .inl ⟨rfl, rfl⟩
    | ok made =>
      obtain ⟨files, report⟩ := made
      -- All files are there, so that it was the commit that failed.
      rcases hcommit : Stage.commit sink cancelled ⟨place, files⟩ with ⟨committed, stage⟩
      dsimp only at h
      rw [hcommit] at h
      dsimp only at h
      obtain ⟨hfirst, rfl⟩ := Prod.mk.inj h
      obtain ⟨hfault, rfl⟩ := Prod.mk.inj hfirst
      rw [Outcome.map_eq_error] at hfault
      rw [hfault, Stage.commit_eq_error_iff (produce_distinct hproduce)] at hcommit
      obtain ⟨-, path, content, cause, hrefused⟩ := hcommit
      exact .inr ⟨files, report, path, content, cause, rfl, hrefused⟩
  · rintro (⟨hproduce, rfl⟩ | ⟨files, report, path, content, cause, hproduce, hget, htaken,
      hrefused, rfl⟩)
    · simp only [toSink, hproduce]
    · exact toSink_of_refused hproduce hget htaken hrefused

/-- A contract without definitions. -/
def nothing : Contract := ⟨1, [], [], [], []⟩

/-- Settings that declare a module. -/
def withModule : Settings :=
  { modulePrefix := "example.com/out", single := true, module := "example.com/out" }

/-- The files of a run without definitions: its manifest and its module file. -/
def moduleFiles : FileMap :=
  let s := withModule.withDefaults
  ⟨[(Manifest.fileName, (Manifest.make s ⟨[], []⟩).json), ("go.mod", moduleFile s)]⟩

theorem exists_produce_nothing : ∃ report log,
    (produce withModule (some nothing) (fun _ => .missing) false).run.run [] =
      (.ok (moduleFiles, report), log) := by
  have hexternals : Text.sortKeys withModule.withDefaults.externals = [] := List.mergeSort_nil
  have hcomplaints : withModule.withDefaults.complaints = [] := by
    rw [Settings.complaints, hexternals]
    rfl
  have hcheck : withModule.withDefaults.check = .ok () := by rw [Settings.check, hcomplaints]
  have hrun : Generate.run nothing withModule.withDefaults.target false ({} : FileMap)
      (fun files f => Sink.memory.write false f.path f.content files) = .ok ({}, ⟨[], []⟩) := by
    have hall : nothing.allNames = [] := Contract.allNames_eq_of_sorted rfl .nil
    have hprepare := Generate.prepare_eq (c := nothing) (t := withModule.withDefaults.target) {}
      (by decide) rfl rfl (by simp [nothing]) (by simp [hall]) (by rw [hall]; rfl)
    refine Generate.run_eq_ok_iff.mpr ⟨_, _, [], ⟨{}, []⟩, hprepare, by simp, ?_, ?_⟩
    · rw [hall]
      rfl
    · rw [List.mergeSort_nil]
  exact ⟨_, _, bind_eq_ok.mpr ⟨(), [], lift_eq_ok.mpr ⟨hcheck, rfl⟩,
    bind_eq_ok.mpr ⟨nothing, [], rfl, bind_eq_ok.mpr ⟨({}, ⟨[], []⟩), [],
      lift_eq_ok.mpr ⟨congrArg _ hrun, rfl⟩, rfl⟩⟩⟩⟩

/-- An empty place that refuses the module file of a run keeps its manifest. -/
theorem manifest_kept : ∃ log place',
    toSink (Sink.memory.refusing "go.mod") {} withModule (some nothing) (fun _ => .missing) false =
      ((.error (.context "commit go.mod" (.plain "disk full")), log), place') ∧
    place'.entries.map (·.1) = [Manifest.fileName] ∧ place' ≠ {} := by
  obtain ⟨report, log, hproduce⟩ := exists_produce_nothing
  have hdistinct := produce_distinct hproduce
  have hsorted : moduleFiles.sorted =
      moduleFiles.entries.take 1 ++ (("go.mod" : Text), moduleFile withModule.withDefaults) :: [] :=
    List.mergeSort_of_pairwise (List.pairwise_pair.mpr rfl)
  have hbefore : moduleFiles.before "go.mod" = moduleFiles.entries.take 1 :=
    hdistinct.before_eq hsorted
  have htaken : (Sink.memory.refusing "go.mod").takeAll false (moduleFiles.before "go.mod") {} =
      .ok ⟨moduleFiles.entries.take 1⟩ := by
    rw [hbefore]
    rfl
  exact ⟨log, ⟨moduleFiles.entries.take 1⟩, toSink_of_refused hproduce rfl htaken rfl, rfl,
    by decide⟩

end Run

end Accord
