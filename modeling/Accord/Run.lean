/-
# Runs

A run takes settings to generated files. The files are held back until the run has
succeeded; a run that fails before that leaves nothing behind.

## Main definitions

* `Report`: what a run produced, and `Report.outline`: the same as untyped data;
* `Run`: a computation that may fail and keeps a log;
* `Run.produce`: the files of a run;
* `Run.check`: a run that writes nothing;
* `Run.toSink`: a run that hands its files to a sink.
-/

import Accord.Log
import Accord.Manifest
import Accord.Output.Directory
import Accord.Output.Staging
import Accord.Settings.Check

namespace Accord

/-- What a run produced. -/
structure Report where
  generation : Generation
  manifest : Manifest
  services : Nat
  errors : Nat
  endpoints : Nat

/-- The number of definitions that code was generated for. -/
def Report.definitions (r : Report) : Nat := r.generation.files.length

/-- What a run produced as untyped data. -/
def Report.outline (r : Report) : Any :=
  .map [("manifest", r.manifest.outline), ("services", .ofInt r.services),
    ("errors", .ofInt r.errors), ("endpoints", .ofInt r.endpoints),
    ("types", .ofInt r.definitions), ("files", .ofInt r.definitions),
    ("warnings", .list (r.generation.warnings.map fun w =>
      .texts [w.code, w.message, w.type.text]))]

/-- A computation that may fail and keeps a log. -/
abbrev Run := ExceptT Fault (StateM Log)

namespace Run

/-- Adds an entry to the log. -/
def log (level : LogLevel) (message : Text) (fields : List LogField) : Run Unit :=
  modify (· ++ [⟨level, message, fields⟩])

/-- The contract of a run: the one that is given, or else the one at the path in the
settings. -/
def contract (s : Settings) (read : Text → Stored) : Option Contract → Run Contract
  | some c => return c
  | none => do
    if s.contract.isEmpty then
      throw (.hinted "pass the IR document path" (.plain "no conjure definition"))
    let limit ← match Size.parse s.sizeLimit with
      | .ok n => pure n
      | .error e => throw e.fault
    let c ← monadLift (Contract.load s.contract limit (read s.contract))
    log .debug "loaded conjure definition"
      [.text "path" s.contract, .count "types" c.types.length, .count "errors" c.errors.length,
       .count "services" c.services.length]
    return c

/-- The files of a run, with the manifest and the module file among them. -/
def produce (given : Settings) (contract? : Option Contract) (read : Text → Stored)
    (cancelled : Bool) : Run (FileMap × Report) := do
  let s := given.withDefaults
  monadLift s.check
  let c ← contract s read contract?
  let write (files : FileMap) (path content : Text) : Except Fault FileMap :=
    Sink.memory.write cancelled path content files
  let (files, g) ← monadLift ((Generate.run c s.target cancelled ({} : FileMap)
    fun files f => write files f.path f.content).mapError (Fault.context "go generator"))
  for f in g.files do
    log .debug "generated file" [.text "path" f.path, .text "package" f.package,
      .text "size" (Size.format f.size)]
  for w in g.warnings do
    log .warn w.message [.text "code" w.code, .text "type" w.type.text]
  let manifest := Manifest.make s g
  let files ← monadLift ((write files Manifest.fileName manifest.json).mapError
    (Fault.context "write manifest"))
  let files ←
    if s.module.isEmpty then pure files
    else monadLift ((write files "go.mod" (moduleFile s)).mapError (Fault.context "write go.mod"))
  let report : Report :=
    { generation := g
      manifest
      services := c.services.length
      errors := c.errors.length
      endpoints := c.services.foldl (· + ·.endpoints.length) 0 }
  log .info "generated conjure definitions"
    [.count "types" c.types.length, .count "services" report.services,
     .count "errors" report.errors, .count "files" g.files.length,
     .text "bytes" (Size.format (g.files.foldl (· + ·.size) 0))]
  return (files, report)

/-- A run that writes nothing. -/
def check (s : Settings) (contract? : Option Contract) (read : Text → Stored)
    (cancelled : Bool) : Except Fault Report × Log :=
  let (outcome, log) := (produce s contract? read cancelled).run.run []
  (outcome.map (·.2), log)

/-- A run that hands its files to a sink once all of them are there. -/
def toSink {τ : Type} (sink : Sink τ) (place : τ) (s : Settings) (contract? : Option Contract)
    (read : Text → Stored) (cancelled : Bool) : (Except Fault Report × Log) × τ :=
  match (produce s contract? read cancelled).run.run [] with
  | (.error e, log) => ((.error e, log), place)
  | (.ok (files, report), log) =>
    let (committed, stage) := Stage.commit sink cancelled ⟨place, files⟩
    ((committed.map fun () => report, log), stage.place)

end Run

end Accord
