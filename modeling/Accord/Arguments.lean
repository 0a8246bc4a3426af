/-
# Arguments

A command line names a command, then its flags and the paths of the contract and of the
output directory in any order. A flag with a value takes it after an equals sign or from the
next argument.

## Main definitions

* `Invocation`: what the program is asked to do;
* `Invocation.ofArguments`: reads a command line.
-/

import Accord.Command

namespace Accord

/-- What the program is asked to do. -/
inductive Invocation where
  | generate (flags : Flags)
  | check (flags : Flags)
  | version (short : Bool)

namespace Invocation

/-- Why a command line is refused. -/
inductive Error where
  | noCommand
  | unknownCommand (name : Text)
  | unknownFlag (name : Text)
  | missingValue (flag : Text)
  | badValue (flag value : Text)
  | unexpected (argument : Text)
  deriving DecidableEq, Repr

/-- The text of the reason. -/
def Error.message : Error → Text
  | noCommand => "expected one of \"version\", \"gen\", \"check\""
  | unknownCommand name => "unexpected argument " ++ name
  | unknownFlag name => "unknown flag " ++ name
  | missingValue flag => flag ++ ": missing value"
  | badValue flag value => flag ++ ": expected \"<key>=<value>\" but got " ++ value.quote
  | unexpected argument => "unexpected argument " ++ argument

/-- The flags with a text, and the settings they set. -/
def textFlags : List (Text × Text) :=
  [("--module-prefix", "module_prefix"), ("--strip-package-prefix", "strip_package_prefix"),
   ("--module", "module"), ("--project-name", "project_name"),
   ("--project-version", "project_version"), ("--max-idl-size", "max_idl_size"),
   ("--runtime-import-path", "runtime_import_path")]

/-- Sets the setting of a key to a text. -/
def setText (key value : Text) (s : Settings) : Settings :=
  match Settings.slots.lookup key with
  | some (.text _ set) => set value s
  | _ => s

/-- Reads a flag with its value. -/
def withValue (flag value : Text) (f : Flags) : Except Error Flags :=
  match textFlags.lookup flag with
  | some key => .ok { f with given := setText key value f.given }
  | none =>
    if flag = "--config" || flag = "-c" then .ok { f with file := value }
    else if flag = "--external-type" then
      match Text.cut? (Text.byte '=') value with
      | some (k, v) =>
        .ok { f with given := { f.given with externals := Text.upsert k v f.given.externals } }
      | none => .error (.badValue flag value)
    else .error (.unknownFlag flag)

/-- Reads a flag without a value. -/
def switch? (flag : Text) (f : Flags) : Option Flags :=
  if flag = "--single-package" then some { f with given := { f.given with single := true } }
  else if flag = "--no-comments" then some { f with noComments := true }
  else if flag = "--verbose" || flag = "-v" then some f
  else none

/-- Reads a path: first the contract, then the output directory. -/
def withPath (paths : Nat) (path : Text) (f : Flags) : Except Error Flags :=
  if paths = 0 then .error (.unexpected path)
  else if f.given.contract.isEmpty then .ok { f with given := { f.given with contract := path } }
  else if paths = 1 || !f.given.outDir.isEmpty then .error (.unexpected path)
  else .ok { f with given := { f.given with outDir := path } }

/-- Reads the arguments of a command that takes a number of paths. -/
def flagsFrom (paths : Nat) : List Text → Flags → Except Error Flags
  | [], f => .ok f
  | argument :: rest, f =>
    if !argument.startsWith "-" then do flagsFrom paths rest (← withPath paths argument f)
    else match switch? argument f with
      | some f => flagsFrom paths rest f
      | none =>
        match Text.cut? (Text.byte '=') argument with
        | some (flag, value) => do flagsFrom paths rest (← withValue flag value f)
        | none =>
          match rest with
          | value :: rest => do flagsFrom paths rest (← withValue argument value f)
          | [] => .error (.missingValue argument)

/-- Reads a command line. -/
def ofArguments : List Text → Except Error Invocation
  | [] => .error .noCommand
  | command :: rest =>
    if command = "gen" then (flagsFrom 2 rest {}).map generate
    else if command = "check" then (flagsFrom 1 rest {}).map check
    else if command = "version" then
      match rest.find? fun a => a != ("--short" : Text) && a != ("-s" : Text) with
      | some a => .error (.unexpected a)
      | none => .ok (version (!rest.isEmpty))
    else .error (.unknownCommand command)

end Invocation

end Accord
