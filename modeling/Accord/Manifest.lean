/-
# Manifests

A manifest records what a run produced and what the generated code needs. A module file
beside it lets the generated code be used on its own.

## Main definitions

* `Manifest`: the record of a run;
* `Manifest.json`: the manifest as it is written;
* `Manifest.outline`: the manifest as untyped data;
* `moduleFile`: the declaration of a module.
-/

import Accord.Generate
import Accord.Json.Writer
import Accord.SemanticVersion
import Accord.Settings.Basic

namespace Accord

/-- The version of the runtime library that generated code is written for. -/
def runtimeVersion : Text := "v0.1.0"

/-- A module that generated code needs. -/
structure Dependency where
  module : Text
  version : Text
  deriving DecidableEq, Repr

/-- The record of a run. -/
structure Manifest where
  name : Text
  version : Text
  generator : Text := "conjure-go"
  dependencies : List Dependency
  files : List Text
  deriving DecidableEq, Repr

namespace Manifest

/-- The name of the file that the manifest is written to. -/
def fileName : Text := "conjure-manifest.json"

/-- The manifest of a run. A version may be written with a `v` in front. -/
def make (s : Settings) (g : Generation) : Manifest :=
  let version := (Text.dropStart? "v" s.projectVersion).getD s.projectVersion
  { name := s.projectName
    version := ((SemanticVersion.ofText? version).map SemanticVersion.text).getD version
    dependencies := [⟨s.target.runtimePath, runtimeVersion⟩]
    files := g.files.map (·.path) }

/-- JSON texts between brackets, each on a line of its own. -/
def block (opening closing indent : Text) (items : List Text) : Text :=
  if items.isEmpty then opening ++ closing
  else opening ++ "\n" ++ Text.join ",\n" (items.map fun i => indent ++ "  " ++ i) ++ "\n" ++
    indent ++ closing

/-- A member of a JSON object. -/
def member (name value : Text) : Text := Json.quote name ++ ": " ++ value

/-- The manifest as it is written. -/
def json (m : Manifest) : Text :=
  let dependency (d : Dependency) : Text := block "\x7b" "\x7d" "    "
    [member "module" (Json.quote d.module), member "version" (Json.quote d.version)]
  block "\x7b" "\x7d" ""
    [member "name" (Json.quote m.name),
     member "version" (Json.quote m.version),
     member "generator" (Json.quote m.generator),
     member "dependencies" (block "[" "]" "  " (m.dependencies.map dependency)),
     member "files" (block "[" "]" "  " (m.files.map Json.quote))] ++ "\n"

/-- The manifest as untyped data. -/
def outline (m : Manifest) : Any :=
  .map [("name", .string m.name), ("version", .string m.version),
    ("generator", .string m.generator), ("dependencies", .list (m.dependencies.map fun d =>
      .map [("module", .string d.module), ("version", .string d.version)])),
    ("files", .texts m.files)]

end Manifest

/-- The declaration of a module with the generated code. -/
def moduleFile (s : Settings) : Text :=
  "module " ++ s.module ++ "\n\ngo 1.25\n\nrequire " ++ s.target.runtimePath ++ " " ++
    runtimeVersion ++ "\n"

end Accord
