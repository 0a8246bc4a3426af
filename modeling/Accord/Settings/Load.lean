/-
# Settings files

Settings are read from YAML or TOML, which one the ending of the file's name says. Keys that
are not known are refused. Relative paths in a settings file are relative to the directory
that the file is in.

## Main definitions

* `Settings.ofYaml`, `Settings.ofToml`: the settings in a text;
* `Settings.load`: the settings in a file;
* `Flags`: what the command line says about settings;
* `Flags.settings`: the settings of a command line.
-/

import Accord.Contract.Load
import Accord.Settings.Basic
import Accord.Text.CaseMap
import Accord.Toml.Document
import Accord.Yaml.Reader

namespace Accord

namespace Settings

/-! ### YAML -/

/-- Sets a setting to a YAML value. One that is left out leaves the setting alone. -/
def setYaml (slot : Slot) (y : Yaml) (s : Settings) : Option Settings :=
  if y.isNull then some s
  else match slot with
    | .text _ set => y.text?.map (set · s)
    | .flag _ set => y.flag?.map (set · s)
    | .table _ set => y.table?.map (set · s)

/-- The settings that entries give to keys, all of which have to be known. -/
def ofYamlEntries : List (Yaml × Yaml) → Settings → Option Settings
  | [], s => some s
  | (k, v) :: rest, s => do
    let slot ← slots.lookup (← k.text?)
    ofYamlEntries rest (← setYaml slot v s)

/-- The settings in a YAML text. -/
def ofYaml (t : Text) : Except Fault Settings :=
  match Yaml.read t with
  | .error .noDocument => .error (.plain "EOF")
  | .error .malformed => .error (.foreign .yaml)
  | .ok y =>
    let settings := if y.isNull then some {} else y.entries?.bind (ofYamlEntries · {})
    settings.elim (.error (.foreign .yaml)) .ok

/-! ### TOML -/

/-- The setting of a key, whatever the case of its letters. -/
def slotFold? (key : Text) : Option Slot :=
  (slots.lookup key).orElse fun _ =>
    (slots.find? fun (name, _) => Text.sameLetters name key).map (·.2)

/-- The fault of a value of another type than the one that is wanted. -/
def mismatch (d : Toml.Document) (key : Toml.Key) (value : Toml) (wanted : Text) : Fault :=
  let line : Text := match d.line? key with
    | some n => "line " ++ Text.ofNat n ++ " "
    | none => []
  .plain ("toml: " ++ line ++ "(last key " ++ key.text.quote ++
    "): incompatible types: TOML value has type " ++ value.typeName ++
    "; destination has type " ++ wanted)

/-- The rows of a table of texts. -/
def tomlRows (d : Toml.Document) (key : Text) :
    List (Text × Toml) → Except Fault (List (Text × Text))
  | [] => .ok []
  | (k, .text t) :: rest => return (k, t) :: (← tomlRows d key rest)
  | (k, v) :: _ => .error (mismatch d [key, k] v "string")

/-- Sets a setting to a TOML value. Where a table is wanted, anything else is passed over. -/
def setToml (d : Toml.Document) (key : Text) (slot : Slot) (v : Toml) (s : Settings) :
    Except Fault Settings :=
  match slot, v with
  | .text _ set, .text t => .ok (set t s)
  | .text _ _, v => .error (mismatch d [key] v "string")
  | .flag _ set, .flag b => .ok (set b s)
  | .flag _ _, v => .error (mismatch d [key] v "boolean")
  | .table _ set, .table rows => return set (← tomlRows d key rows) s
  | .table _ _, _ => .ok s

/-- The settings that entries give to known keys. -/
def ofTomlEntries (d : Toml.Document) :
    List (Text × Toml) → Settings → Except Fault Settings
  | [], s => .ok s
  | (k, v) :: rest, s =>
    match slotFold? k with
    | none => ofTomlEntries d rest s
    | some slot => do ofTomlEntries d rest (← setToml d k slot v s)

/-- Whether a key was used: it is known, or it is a row of a table that is. -/
def usesKey (d : Toml.Document) : Toml.Key → Bool
  | [k] => (slotFold? k).isSome
  | [k, _] =>
    match slotFold? k, d.root.lookup k with
    | some (.table ..), some (.table _) => true
    | _, _ => false
  | _ => false

/-- The settings in a TOML text. -/
def ofToml (t : Text) : Except Fault Settings :=
  match Toml.read t with
  | none => .error (.foreign .toml)
  | some d => do
    let s ← ofTomlEntries d d.root {}
    match d.keys.filter fun k => !usesKey d k with
    | [] => return s
    | unknown =>
      throw (.plain ("unknown keys " ++ Text.join ", " (unknown.map Toml.Key.text)))

/-! ### Files -/

/-- A path of a settings file as seen from outside of its directory. -/
def relativeTo (dir path : Text) : Text :=
  if path.isEmpty || path.head? = some Path.slash then path else Path.join [dir, path]

/-- The settings in a file. -/
def load (path : Text) (stored : Stored) : Except Fault Settings := do
  let content ← match stored with
    | .file content => pure content
    | _ => throw (.context "read config" (.foreign .file))
  let ext := Text.lower (Path.extension path)
  let read (f : Text → Except Fault Settings) : Except Fault Settings :=
    (f content).mapError (.context ("parse " ++ path))
  let s ←
    if ext = ".yaml" || ext = ".yml" then read ofYaml
    else if ext = ".toml" then read ofToml
    else throw (.hinted "use a .yaml, .yml or .toml file"
      (.plain ("unsupported config format " ++ ext.quote)))
  let dir := Path.dir path
  return { s with contract := relativeTo dir s.contract, outDir := relativeTo dir s.outDir }

end Settings

/-! ### Command lines -/

/-- What the command line says about settings. -/
structure Flags where
  /-- The path of a settings file, if any. -/
  file : Text := []
  /-- The settings that are given; of the flags only those that are on count. -/
  given : Settings := {}
  noComments : Bool := false
  deriving Inhabited

namespace Flags

/-- The settings of a file with those of the command line set over them. -/
def onto (f : Flags) (s : Settings) : Settings :=
  let g := f.given
  { contract := Settings.orElse g.contract s.contract
    outDir := Settings.orElse g.outDir s.outDir
    modulePrefix := Settings.orElse g.modulePrefix s.modulePrefix
    stripPrefix := Settings.orElse g.stripPrefix s.stripPrefix
    single := g.single || s.single
    module := Settings.orElse g.module s.module
    projectName := Settings.orElse g.projectName s.projectName
    projectVersion := Settings.orElse g.projectVersion s.projectVersion
    externals := g.externals.foldl (fun es (k, v) => Text.upsert k v es) s.externals
    comments := if f.noComments then some false else s.comments
    sizeLimit := Settings.orElse g.sizeLimit s.sizeLimit
    runtime := Settings.orElse g.runtime s.runtime }

/-- The settings of a command line. -/
def settings (f : Flags) (read : Text → Stored) : Except Fault Settings :=
  if f.file.isEmpty then .ok (f.onto {})
  else return f.onto (← Settings.load f.file (read f.file))

end Flags

end Accord
