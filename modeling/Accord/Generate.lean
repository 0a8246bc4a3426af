/-
# Generating code

Each definition of a contract becomes one source file. The contract is checked first;
then identifiers are declared for all names in order, so that they do not depend on the
order of the document, and the files are written in the order of the names.

## Main definitions

* `GeneratedFile`: a file with its path, package and content;
* `Generation`: the files and warnings of a run;
* `Generate.run`: the files of a contract, one after the other;
* `Generate.runGiven`: the same where a contract or a receiver may be missing;
* `Generate.checkImports`: packages that would import each other are refused.
-/

import Accord.Contract.Check
import Accord.Emit.Alias
import Accord.Emit.Enum
import Accord.Emit.Error
import Accord.Emit.Service
import Accord.Emit.Union
import Accord.Source.Printer

namespace Accord

open Source (Item File NameTable)

/-- A generated file. -/
structure GeneratedFile where
  path : Text
  package : Text
  content : Text
  deriving DecidableEq, Repr

/-- The size of a generated file in bytes. -/
def GeneratedFile.size (f : GeneratedFile) : Nat := f.content.length

/-- The files of a run in the order of their paths, and its warnings. -/
structure Generation where
  files : List GeneratedFile
  warnings : List Warning

namespace Generate

/-! ### Import cycles -/

/-- Which packages import which. -/
def importGraph (c : Contract) (t : Target) : Graph Text where
  nodes := Text.sort (Text.distinct (c.allNames.map t.packagePath))
  next path := Text.sort (Text.distinct
    (((c.allNames.filter fun n => t.packagePath n = path).flatMap
      fun n => (c.refs n).map t.packagePath).filter (· != path)))

/-- Refuses packages that would import each other. -/
def checkImports (c : Contract) (t : Target) : Except Fault Unit :=
  match (importGraph c t).findCycle? with
  | none => .ok ()
  | some cycle =>
    .error (.hinted "set single_package to emit every definition into one Go package"
      (.mark .importCycle ("generated packages import each other: " ++ Text.join " -> " cycle)))

/-! ### Files -/

/-- The first line of every generated file. -/
def header : Text := "Code generated by conjure-go. DO NOT EDIT."

/-- The packages whose names are known. -/
def knownPackages (t : Target) : List (Text × Text) :=
  [(t.runtimePath, "conjure"), (t.codecsPath, "codecs")]

/-- The declarations of the definition of a name. -/
def items (r : Resolver) (n : TypeName) (ident : Text) : Emit (List Item) :=
  match r.contract.definition? n, r.contract.errorDef? n, r.contract.serviceDef? n with
  | some d, _, _ =>
    match d.shape with
    | .object fields => do return (← Emit.object r n ident fields d.docs []).1
    | .enum values => Emit.enum r n ident values d.docs
    | .union variants => Emit.union r n ident variants d.docs
    | .aliasFor target _ => Emit.aliasType r ident target d.docs
  | none, some e, _ => Emit.error r e ident
  | none, none, some s => Emit.service r s ident
  | none, none, none =>
    throw (.mark .unknownReference ("no definition named " ++ n.text))

/-- The first path of a file that is not taken: the identifier in snake case, then with the
numbers from two on. The fuel bounds the numbers. -/
def freePath (dir base : Text) (taken : List Text) : (fuel n : Nat) → Text
  | 0, n => Path.join [dir, base ++ "_" ++ Text.ofNat n ++ ".conjure.go"]
  | fuel + 1, n =>
    let name : Text := if n = 1 then base else base ++ "_" ++ Text.ofNat n
    let path := Path.join [dir, name ++ ".conjure.go"]
    if taken.contains path then freePath dir base taken fuel (n + 1) else path

/-- The path of the file of an identifier. -/
def unitPath (dir ident : Text) (taken : List Text) : Text :=
  freePath dir (Source.snake ident) taken (taken.length + 1) 1

/-- Whether a line can stand in a comment. -/
def isCommentLine (line : Text) : Bool :=
  line.symbols.all fun
    | .char c => c.toNat != 0 && c.toNat != 0xFEFF
    | .stray _ => false

/-- Whether the declarations of a file can be read back: the imported paths and all names
that come from the contract are well formed. -/
def isReadable (f : File) : Bool :=
  let own := some f.path
  (f.paths.all fun p => some p = own || Source.Import.isPath p) &&
    f.items.all fun i =>
      i.docs.all isCommentLine && i.decl.imported.all Source.isTypeName && match i.decl with
        | .constants cs =>
          cs.all fun c => Source.isIdentifier c.name && c.docs.all isCommentLine
        | .interface _ methods => methods.all fun m => m.docs.all isCommentLine
        | _ => true

/-- The file of the definition of a name. -/
def file (r : Resolver) (taken : List Text) (n : TypeName) : Emit GeneratedFile := do
  let package := r.target.package n
  let ident := (r.names.lookup n).getD []
  let decls ← Emit.within ("emit " ++ n.text) (items r n ident)
  let path := unitPath package.dir ident taken
  let f : File := ⟨package.path, package.name, decls⟩
  if !isReadable f then throw (.context ("render " ++ path) (.foreign .source))
  return ⟨path, package.path, f.text (knownPackages r.target) header⟩

/-! ### Runs -/

/-- Everything that precedes the first file: the checks, the identifiers and the resolver. -/
def prepare (c : Contract) (t : Target) : Except Fault (Resolver × NameTable) := do
  if t.layout.modulePrefix.isEmpty then
    throw (.hinted "set module_prefix to the import path of the output directory"
      (.plain "module prefix is required"))
  if !c.problems.isEmpty then
    throw (.mark .invalidDefinition ("invalid conjure definition:\n  " ++
      Text.join "\n  " (c.problems.map Problem.message)))
  if !t.layout.single then checkImports c t
  let (registered, names) := NameTable.register {} t.packagePath c.allNames
  registered
  return (← Resolver.make c t names, names)

/-- The files of names, each handed on as soon as it is done, with what the receiver keeps. -/
def filesFrom {σ : Type} (r : Resolver) (receive : σ → GeneratedFile → Except Fault σ) :
    (σ × List GeneratedFile) → List TypeName → Emit (σ × List GeneratedFile)
  | done, [] => return done
  | (kept, files), n :: rest => do
    let f ← file r (files.map (·.path)) n
    let kept ← Emit.within ("write " ++ f.path) (monadLift (receive kept f))
    filesFrom r receive (kept, files ++ [f]) rest

/-- Generates the code of a contract. A receiver takes each file as it is done. -/
def run {σ : Type} (c : Contract) (t : Target) (cancelled : Bool) (start : σ)
    (receive : σ → GeneratedFile → Except Fault σ) : Except Fault (σ × Generation) := do
  let (r, names) ← prepare c t
  if cancelled && !c.allNames.isEmpty then throw .canceled
  let ((kept, files), emission) ←
    filesFrom r receive (start, []) c.allNames |>.run ⟨names, []⟩
  return (kept, ⟨files.mergeSort fun a b => Text.le a.path b.path, emission.warnings⟩)

/-- Generates the code of a contract, if there is one, for a receiver, if there is one. -/
def runGiven {σ : Type} (c : Option Contract) (t : Target) (cancelled : Bool) (start : σ)
    (receive : Option (σ → GeneratedFile → Except Fault σ)) : Except Fault (σ × Generation) :=
  match c, receive with
  | none, _ => .error (.plain "conjure definition is nil")
  | _, none => .error (.plain "output sink is nil")
  | some c, some receive => run c t cancelled start receive

end Generate

end Accord
