/-
# File trees

A file tree holds files by their absolute paths; directories are there where a file is
below them.

## Main definitions

* `FileTree`: files by their absolute paths;
* `FileTree.insert`, `FileTree.erase`, `FileTree.rename`: the tree with a file set, removed or
  moved;
* `FileTree.stored`: what is found at a path;
* `FileTree.below`: the files below a directory.
-/

import Accord.Contract.Load

namespace Accord

/-- A file with its permissions. -/
structure StoredFile where
  content : Text
  mode : Nat := 0o644
  deriving DecidableEq, Repr

/-- The permissions as a directory listing shows them. -/
def StoredFile.permissions (f : StoredFile) : Text :=
  let bit (k : Nat) (c : Char) : UInt8 := Text.byte (if f.mode.testBit k then c else '-')
  Text.byte '-' :: [2, 1, 0].flatMap fun k =>
    [bit (3 * k + 2) 'r', bit (3 * k + 1) 'w', bit (3 * k) 'x']

/-- Files by their absolute paths. -/
structure FileTree where
  entries : List (Text × StoredFile) := []
  deriving DecidableEq, Repr, Inhabited

namespace FileTree

/-- The file at a path. -/
def get? (t : FileTree) (path : Text) : Option StoredFile := t.entries.lookup path

/-- The tree with one file set. -/
def insert (t : FileTree) (path : Text) (f : StoredFile) : FileTree :=
  ⟨Text.upsert path f t.entries⟩

/-- The tree without the file at a path. -/
def erase (t : FileTree) (path : Text) : FileTree :=
  ⟨t.entries.filter fun (p, _) => p ≠ path⟩

/-- The tree with a file moved to another path, where it replaces the file that is there. -/
def rename (t : FileTree) (path target : Text) : FileTree :=
  match t.get? path with
  | some f => (t.erase path).insert target f
  | none => t

/-- A path with the separator at its end. -/
def within (path : Text) : Text := if path.endsWith "/" then path else path ++ "/"

/-- Whether there is a file below a path. -/
def isDirectory (t : FileTree) (path : Text) : Bool :=
  t.entries.any fun (p, _) => p.startsWith (within path)

/-- What is found at a path. -/
def stored (t : FileTree) (path : Text) : Stored :=
  match t.get? path with
  | some f => .file f.content
  | none => if t.isDirectory path then .directory else .missing

/-- Whether a file stands where a path needs a directory. -/
def isBlocked (t : FileTree) (path : Text) : Bool :=
  t.entries.any fun (p, _) => p ≠ path && path.startsWith (within p)

/-- The files below a directory, with paths relative to it and in their order. -/
def below (t : FileTree) (root : Text) : List (Text × StoredFile) :=
  Text.sortKeys (t.entries.filterMap fun (p, f) =>
    (Text.dropStart? (within root) p).map fun rel => (rel, f))

end FileTree

end Accord
