/-
# Settings

What a run of the generator is told: where the contract is, where the code goes and how it
is to look. Each setting has a key, by which settings files and reports know it.

## Main definitions

* `Settings`: the settings of a run;
* `Settings.withDefaults`: the settings with everything filled in that has a default;
* `Settings.target`: what the settings say about the generated code;
* `Slot`, `Settings.slots`: the keys of the settings with the way to read and set them;
* `Settings.outline`: the settings as untyped data.
-/

import Accord.Contract.Outline
import Accord.Emit.Resolver

namespace Accord

/-- The settings of a run. Empty texts stand for settings that are not given. -/
structure Settings where
  /-- The path of the contract. -/
  contract : Text := []
  /-- The directory that the generated files go to. -/
  outDir : Text := []
  /-- The import path of that directory. -/
  modulePrefix : Text := []
  /-- What is taken off the front of package names. -/
  stripPrefix : Text := []
  /-- Whether all definitions go into one package. -/
  single : Bool := false
  /-- The module to declare, if any. -/
  module : Text := []
  projectName : Text := []
  projectVersion : Text := []
  /-- The generated types of external types. -/
  externals : List (Text × Text) := []
  /-- Whether documentation becomes comments. -/
  comments : Option Bool := none
  /-- The size up to which a contract is read. -/
  sizeLimit : Text := []
  /-- The import path of the runtime library. -/
  runtime : Text := []
  deriving DecidableEq, Repr, Inhabited

namespace Settings

/-- A text, or another one if it is empty. -/
def orElse (t default : Text) : Text := if t.isEmpty then default else t

/-- The last element of an import path. -/
def lastElement (path : Text) : Text :=
  ((Text.cutLast? Path.slash path).map (·.2)).getD path

/-- The settings with everything filled in that has a default. -/
def withDefaults (s : Settings) : Settings :=
  { s with
    comments := some (s.comments.getD true)
    sizeLimit := orElse s.sizeLimit "64MiB"
    projectVersion := orElse s.projectVersion "0.0.0"
    projectName := orElse s.projectName (lastElement s.modulePrefix) }

/-- What the settings say about the generated code. -/
def target (s : Settings) : Target where
  layout := ⟨s.modulePrefix, s.stripPrefix, s.single⟩
  externals := s.externals
  comments := s.comments.getD true
  runtime := s.runtime

/-! ### Keys -/

end Settings

/-- How a setting is read and set. -/
inductive Slot where
  | text (get : Settings → Text) (set : Text → Settings → Settings)
  | flag (get : Settings → Option Bool) (set : Bool → Settings → Settings)
  | table (get : Settings → List (Text × Text))
      (set : List (Text × Text) → Settings → Settings)

namespace Settings

/-- The settings by their keys. -/
def slots : List (Text × Slot) :=
  [("idl", .text (·.contract) fun t s => { s with contract := t }),
   ("out_dir", .text (·.outDir) fun t s => { s with outDir := t }),
   ("module_prefix", .text (·.modulePrefix) fun t s => { s with modulePrefix := t }),
   ("strip_package_prefix", .text (·.stripPrefix) fun t s => { s with stripPrefix := t }),
   ("single_package", .flag (some ·.single) fun b s => { s with single := b }),
   ("module", .text (·.module) fun t s => { s with module := t }),
   ("project_name", .text (·.projectName) fun t s => { s with projectName := t }),
   ("project_version", .text (·.projectVersion) fun t s => { s with projectVersion := t }),
   ("external_types", .table (·.externals) fun ts s => { s with externals := ts }),
   ("emit_comments", .flag (·.comments) fun b s => { s with comments := some b }),
   ("max_idl_size", .text (·.sizeLimit) fun t s => { s with sizeLimit := t }),
   ("runtime_import_path", .text (·.runtime) fun t s => { s with runtime := t })]

/-- The settings as untyped data. -/
def outline (s : Settings) : Any :=
  .map (slots.map fun (key, slot) => (key, match slot with
    | .text get _ => .string (get s)
    | .flag get _ => (get s).elim .null .bool
    | .table get _ => .map ((get s).map fun (k, v) => (k, .string v))))

/-- The settings that untyped data holds under the keys. What has another type is passed
over. -/
def ofAny (a : Any) : Settings :=
  let entries : List (Text × Any) := match a with | .map entries => entries | _ => []
  slots.foldl (fun s (key, slot) =>
    match slot, entries.lookup key with
    | .text _ set, some (.string t) => set t s
    | .flag _ set, some (.bool b) => set b s
    | .table _ set, some (.map kvs) =>
      set (kvs.filterMap fun | (k, .string v) => some (k, v) | _ => none) s
    | _, _ => s) {}

end Settings

end Accord
