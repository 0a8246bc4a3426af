/-
# Checking settings

Settings are checked before they are used, and all that is wrong with them is reported at
once.

## Main definitions

* `isImportPath`: the spelling of import paths;
* `SettingRule`: the rules that settings keep;
* `Settings.complaints`: what is wrong with settings;
* `Settings.check`: refuses settings with something wrong.
-/

import Accord.SemanticVersion
import Accord.Settings.Basic
import Accord.Size

namespace Accord

/-- A byte that no import path holds. -/
def isPathForbidden (b : UInt8) : Bool :=
  b ≤ Text.byte ' ' || (Text.ofString "\"'\\:*<>?|\x60").contains b

/-- The spelling of import paths: elements between slashes, none of them empty or made of
one or two dots. -/
def isImportPath (t : Text) : Bool :=
  (Text.split Path.slash t).all fun element =>
    !element.isEmpty && element != ("." : Text) && element != (".." : Text) &&
      !element.any isPathForbidden

/-- The rules that settings keep. -/
inductive SettingRule where
  | required
  | importPath
  | qualifiedType
  | version
  | size
  deriving DecidableEq, Repr

namespace SettingRule

/-- Whether a value keeps a rule. -/
def holds (t : Text) : SettingRule → Bool
  | required => !t.isEmpty
  | importPath => isImportPath t
  | qualifiedType =>
    match Text.cutLast? (Text.byte '.') t with
    | some (path, name) => !name.isEmpty && isImportPath path
    | none => false
  | version => (SemanticVersion.ofText? ((Text.dropStart? "v" t).getD t)).isSome
  | size => match Size.parse t with | .ok n => 0 < n | .error _ => false

/-- What a rule asks for. -/
def message : SettingRule → Text
  | required => "is required"
  | importPath => "must be a Go import path"
  | qualifiedType => "must be written as \"import/path.Type\""
  | version => "must be a semantic version"
  | size => "must be a positive size such as \"64MiB\""

end SettingRule

namespace Settings

/-- The first rule that a value does not keep, with the name of the setting. -/
def broken (name value : Text) (rules : List SettingRule) : List (Text × SettingRule) :=
  ((rules.find? fun r => !r.holds value).map fun r => ("Config." ++ name, r)).toList

/-- The same for a value that may be left out. -/
def brokenIfGiven (name value : Text) (rules : List SettingRule) : List (Text × SettingRule) :=
  if value.isEmpty then [] else broken name value rules

/-- What is wrong with settings: the names of settings with the rules they do not keep. -/
def complaints (s : Settings) : List (Text × SettingRule) :=
  broken "ModulePrefix" s.modulePrefix [.required, .importPath] ++
  brokenIfGiven "Module" s.module [.importPath] ++
  brokenIfGiven "ProjectVersion" s.projectVersion [.version] ++
  (Text.sortKeys s.externals).flatMap (fun (key, type) =>
    let name : Text := "ExternalTypes[" ++ key ++ "]"
    broken name key [.required] ++ broken name type [.qualifiedType]) ++
  brokenIfGiven "MaxIDLSize" s.sizeLimit [.size] ++
  brokenIfGiven "RuntimeImportPath" s.runtime [.importPath]

/-- Refuses settings with something wrong. -/
def check (s : Settings) : Except Fault Unit :=
  match s.complaints with
  | [] => .ok ()
  | cs => .error (.hinted "see the conjuregen.Config field documentation for accepted values"
      (.plain ("invalid config: " ++
        Text.join "; " (cs.map fun (name, rule) => name ++ ": " ++ rule.message))))

end Settings

end Accord
