/-
# The program

Reads the files that a command needs, runs the command on them and writes what has changed.

## Main definitions

* `main`: the program.
-/

import Accord.Arguments

namespace Accord.Program

/-- A text as it is printed. -/
def printed (t : Text) : String := (String.fromUTF8? ⟨t.toArray⟩).getD ""

/-- The path of a file as seen from the root. -/
def absolute (path : Text) : IO Text := do
  if path.isEmpty || path.head? = some Path.slash then return path
  return Path.join [Text.ofString (← IO.currentDir).toString, path]

/-- Adds a file to a tree, if there is one at a path. -/
def withFile (tree : FileTree) (path : Text) : IO FileTree := do
  try
    let content ← IO.FS.readBinFile (printed path)
    return tree.insert path ⟨content.toList, 0o644⟩
  catch _ => return tree

/-- The flags with all paths as seen from the root. -/
def rooted (f : Flags) : IO Flags := do
  return { f with
    file := ← absolute f.file
    given := { f.given with
      contract := ← absolute f.given.contract
      outDir := ← absolute f.given.outDir } }

/-- The settings file and the contract of a command line. -/
def inputs (f : Flags) : IO FileTree := do
  let tree ← withFile {} f.file
  match f.settings tree.stored with
  | .ok s => withFile tree s.contract
  | .error _ => return tree

/-- Replaces a file as a whole. -/
def replace (path content : Text) : IO Unit := do
  let dir := Path.dir path
  let scratch := dir ++ "/.conjure-new.tmp"
  IO.FS.createDirAll (printed dir)
  IO.FS.writeBinFile (printed scratch) ⟨content.toArray⟩
  IO.FS.rename (printed scratch) (printed path)

/-- Prints what a command has to say; the exit code is that of the process. -/
def report (o : Outcome) : IO UInt32 := do
  for e in o.log do
    if e.level != .debug then
      IO.eprintln (printed (e.level.text ++ "\t" ++ e.message))
  IO.print (printed o.output)
  match o.result with
  | .ok () => return 0
  | .error e =>
    IO.eprintln (printed ("conjure: error: " ++ e.message))
    for hint in e.hints do IO.eprintln (printed hint)
    return 1

/-- Generates code. The command is run once to learn which files it writes, and again with
those that are there already. -/
def generate (f : Flags) : IO UInt32 := do
  let f ← rooted f
  let given ← inputs f
  let planned := (Command.generate f given).tree
  let before ← planned.entries.foldlM (fun t (path, _) => withFile t path) given
  let o := Command.generate f before
  for (path, file) in o.tree.entries do
    if before.get? path != some file then replace path file.content
  report o

end Accord.Program

open Accord in
/-- The program. -/
def main (args : List String) : IO UInt32 := do
  match Invocation.ofArguments (args.map Text.ofString) with
  | .error e =>
    IO.eprintln (Program.printed ("conjure: error: " ++ e.message))
    return 1
  | .ok (.version short) =>
    let version := Release.version none
    IO.println (Program.printed
      (if short then version else Text.join "\n" (Release.lines version)))
    return 0
  | .ok (.check f) => do
    let f ← Program.rooted f
    Program.report (Command.check f (← Program.inputs f))
  | .ok (.generate f) => Program.generate f
