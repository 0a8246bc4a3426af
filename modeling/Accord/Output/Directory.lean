/-
# Directories as sinks

A directory of a file tree is a sink. It replaces files as a whole: a new content is written to a
temporary file beside the target, which then takes the target's place. Unless told otherwise it
does not replace source code that does not say that it was generated. Every operation of the file
system may fail, and a write that fails takes its temporary file away again.

## Main definitions

* `isGenerated`: whether source code says that it was generated;
* `Circumstances`: what the file system does during a write;
* `Directory`: a directory with the way files are written to it;
* `Directory.resolve`: the absolute path of a path below a directory;
* `Directory.accept`: the checks before a write;
* `Directory.replace`: a file replaced as a whole;
* `Directory.write`: a write with the tree that it leaves;
* `Sink.directory`: the directory as a sink.
-/

import Accord.Output.FileTree
import Accord.Output.Sink

namespace Accord

/-- Whether a line is the comment by which tools know generated code. -/
def isHeader (line : Text) : Bool :=
  match Text.dropStart? "// Code generated " line with
  | some rest => rest.endsWith " DO NOT EDIT."
  | none => false

/-- Whether source code says that it was generated: a line of it is the comment. -/
def isGenerated (content : Text) : Bool := (Text.split (Text.byte '\n') content).any isHeader

/-! ### Operations of a file system -/

/-- What a file system is asked for during a write and may refuse. Only the removal of a file that
was just made is taken not to fail. -/
inductive Operation where
  | read
  | makeDirectories
  | create
  | fill
  | close
  | setMode
  | rename
  deriving DecidableEq, Repr

/-- What a fault says about an operation that failed during the write of a path. -/
def Operation.label (rel : Text) : Operation → Text
  | read => "read " ++ rel
  | makeDirectories => "create directories"
  | create => "create temp file"
  | fill => "write temp file"
  | close => "close temp file"
  | setMode => "set file mode"
  | rename => "rename temp file"

/-- The fault of an operation that failed. -/
def Operation.fault (rel : Text) (o : Operation) : Fault := .context (o.label rel) (.foreign .file)

/-- What the file system does during one write, as far as the tree does not decide it. -/
structure Circumstances where
  /-- The operations that fail although nothing in the tree is in their way. -/
  fails : Operation → Bool
  /-- The numbers tried one after the other in the name of the temporary file. -/
  numbers : List Nat
  /-- What the temporary file holds after its content could not be written. -/
  torn : Text
  /-- Whether the work is cancelled while the temporary file is written. -/
  interrupted : Bool

/-- The circumstances under which nothing fails: there are more numbers than files. -/
def Circumstances.usual (t : FileTree) : Circumstances where
  fails _ := false
  numbers := List.range (t.entries.length + 1)
  torn := []
  interrupted := false

/-! ### Directories -/

/-- A directory with the way files are written to it. -/
structure Directory where
  /-- The absolute path, clean. -/
  root : Text
  /-- The permissions of new files; zero stands for the usual ones. -/
  mode : Nat := 0o644
  /-- Whether source code that was not generated may be replaced. -/
  replaceAny : Bool := false
  deriving DecidableEq, Repr

namespace Directory

/-- The absolute path of a path below the directory. -/
def resolve (d : Directory) (rel : Text) : Except Fault Text :=
  let target := Path.join [d.root, rel]
  if target ≠ d.root && !target.startsWith (d.root ++ "/") then
    .error (.plain ("path escapes root directory: " ++ rel.quote))
  else .ok target

/-- The file with a content and the permissions of new files. -/
def newFile (d : Directory) (content : Text) : StoredFile :=
  ⟨content, if d.mode = 0 then 0o644 else d.mode⟩

/-- Whether a file system can hold a name: not too long, and without a zero byte. -/
def canHold (name : Text) : Bool := name.length ≤ 255 && !name.contains 0

/-- Whether a path can be looked up in the tree. -/
def reachable (t : FileTree) (target : Text) : Bool :=
  !t.isBlocked target && (Text.split Path.slash target).all canHold

/-- Refuses to replace source code that was not generated. -/
def guard (c : Circumstances) (rel target : Text) (t : FileTree) : Except Fault Unit :=
  if c.fails .read || !reachable t target then .error (Operation.read.fault rel)
  else match t.stored target with
    | .missing => .ok ()
    | .directory => .error (Operation.read.fault rel)
    | .file content =>
      if isGenerated content then .ok ()
      else .error (.hinted
        "move the file out of the output directory or choose another output directory"
        (.context rel (.mark .handWritten "refusing to overwrite hand-written file")))

/-- The checks before a write, and the path that is written to. -/
def accept (d : Directory) (c : Circumstances) (cancelled : Bool) (rel : Text) (t : FileTree) :
    Except Fault Text := do
  Sink.allow cancelled rel
  let target ← d.resolve rel
  if !d.replaceAny && rel.endsWith ".go" then guard c rel target t
  return target

/-! ### Replacing a file -/

/-- What a path has before its last element. -/
def folder (target : Text) : Text :=
  ((Text.cutLast? Path.slash target).map fun (before, _) => before ++ [Path.slash]).getD []

/-- The path of a temporary file beside a target. -/
def temporary (target : Text) (number : Nat) : Text :=
  folder target ++ ".conjure-" ++ Text.ofNat number ++ ".tmp"

/-- The first temporary file that is not there yet. -/
def freeTemporary? (c : Circumstances) (target : Text) (t : FileTree) : Option Text :=
  (c.numbers.map (temporary target)).find? fun path => t.stored path = .missing

/-- Whether a file can be moved to a target: the name is a possible one, and there is no directory,
as there is at the root even if it is empty. -/
def canReplace (d : Directory) (target : Text) (t : FileTree) : Bool :=
  canHold (Path.base target) && (target ≠ d.root || (t.get? target).isSome) &&
    t.stored target ≠ .directory

/-- Writes a content to a new temporary file, which then takes the place of the target. -/
def fillAndMove (d : Directory) (c : Circumstances) (rel path target content : Text)
    (t : FileTree) : Except Fault Unit × FileTree :=
  let created := t.insert path ⟨[], 0o600⟩
  if c.fails .fill then (.error (Operation.fill.fault rel), created.insert path ⟨c.torn, 0o600⟩)
  else
    let filled := created.insert path ⟨content, 0o600⟩
    if c.fails .close then (.error (Operation.close.fault rel), filled)
    else if c.fails .setMode then (.error (Operation.setMode.fault rel), filled)
    else
      let ready := filled.insert path (d.newFile content)
      if c.interrupted then (.error .canceled, ready)
      else if c.fails .rename || !d.canReplace target t then
        (.error (Operation.rename.fault rel), ready)
      else (.ok (), ready.rename path target)

/-- Replaces a file as a whole, or makes it with the directories that it needs. -/
def replace (d : Directory) (c : Circumstances) (rel target content : Text) (t : FileTree) :
    Except Fault Unit × FileTree :=
  if c.fails .makeDirectories || t.isBlocked target ||
      !(Text.split Path.slash (folder target)).all canHold then
    (.error (Operation.makeDirectories.fault rel), t)
  else if c.fails .create then (.error (Operation.create.fault rel), t)
  else match freeTemporary? c target t with
    | none => (.error (Operation.create.fault rel), t)
    | some path =>
      match d.fillAndMove c rel path target content t with
      | (.error e, left) => (.error e, left.erase path)
      | done => done

/-- Writes a file: what the caller is told, and the tree afterwards. -/
def write (d : Directory) (c : Circumstances) (cancelled : Bool) (rel content : Text)
    (t : FileTree) : Except Fault Unit × FileTree :=
  match d.accept c cancelled rel t with
  | .error e => (.error e, t)
  | .ok target => d.replace c rel target content t

end Directory

/-- A directory as a sink. -/
def Sink.directory (d : Directory) : Sink FileTree where
  write cancelled rel content t :=
    match d.write (.usual t) cancelled rel content t with
    | (.error e, _) => .error e
    | (.ok (), written) => .ok written

end Accord
