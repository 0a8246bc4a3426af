/-
# Commands

What the commands of the generator do to a file tree and what they print.

## Main definitions

* `Outcome`: what a command leaves behind;
* `Command.generate`: generates code from a contract;
* `Command.check`: checks that code can be generated;
* `BuildInfo`, `Release.version`: the version of the generator.
-/

import Accord.Run
import Accord.Settings.Load

namespace Accord

/-- What a command leaves behind. -/
structure Outcome where
  result : Except Fault Unit
  output : Text := []
  log : Log := []
  tree : FileTree

namespace Command

/-- The settings of a command line, in which there has to be a contract. -/
def settings (flags : Flags) (tree : FileTree) : Except Fault Settings := do
  let s ← flags.settings tree.stored
  if s.contract.isEmpty then
    throw (.hinted "pass <idl> or set idl in the config file" (.plain "no conjure definition"))
  return s

/-- A line for each warning. -/
def warnings (g : Generation) : Text := g.warnings.flatMap fun w => "! " ++ w.message ++ "\n"

/-- Checks that code can be generated from a contract. -/
def check (flags : Flags) (tree : FileTree) : Outcome :=
  match settings flags tree with
  | .error e => { result := .error e, tree }
  | .ok s =>
    match Run.check s none tree.stored false with
    | (.error e, log) => { result := .error e, log, tree }
    | (.ok r, log) =>
      let files := r.definitions
      { result := .ok ()
        output :=
          "✓ " ++ Text.ofNat r.services ++ " services, " ++ Text.ofNat r.endpoints ++
            " endpoints, " ++ Text.ofNat r.errors ++ " errors\n" ++
          "✓ " ++ Text.ofNat files ++ " definitions in " ++ Text.ofNat files ++ " files\n" ++
          warnings r.generation ++ "✓ All types resolvable\n"
        log, tree }

/-- Generates code from a contract. -/
def generate (flags : Flags) (tree : FileTree) : Outcome :=
  match settings flags tree with
  | .error e => { result := .error e, tree }
  | .ok s =>
    if s.outDir.isEmpty then
      { result := .error (.hinted "pass <out> or set out_dir in the config file"
          (.plain "no output directory")), tree }
    else
      match Run.toSink (Sink.directory { root := Path.clean s.outDir }) tree s none tree.stored
          false with
      | ((.error e, log), tree) => { result := .error e, log, tree }
      | ((.ok r, log), tree) =>
        let files := r.definitions
        { result := .ok ()
          output :=
            "✓ Generated " ++ Text.ofNat files ++ " files (" ++ Text.ofNat files ++ " types, " ++
              Text.ofNat r.services ++ " services) in " ++ s.outDir ++ "\n" ++
              warnings r.generation
          log, tree }

end Command

/-! ### Versions -/

/-- What is known about how the generator was built. -/
structure BuildInfo where
  /-- The version of a released build. -/
  version : Text := []
  settings : List (Text × Text) := []
  deriving DecidableEq, Repr

namespace Release

/-- The version that the next release will have. -/
def base : SemanticVersion := ⟨0, 1, 0, [], []⟩

/-- The version of the generator: that of the release, or else one that says which revision
it was built from. -/
def version (info : Option BuildInfo) : Text :=
  let devel : Text := "devel-" ++ base.text
  match info with
  | none => devel
  | some info =>
    if !info.version.isEmpty && info.version != ("(devel)" : Text) then info.version
    else
      match info.settings.find? fun (k, v) => k = "vcs.revision" && 7 ≤ v.length with
      | some (_, revision) => devel ++ "+" ++ revision.take 7
      | none => devel

/-- The lines that tell the version of the generator and of the runtime library. -/
def lines (version : Text) : List Text :=
  ["conjure " ++ version, "runtime " ++ runtimeVersion]

end Release

end Accord
