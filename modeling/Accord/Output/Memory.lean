/-
# Files in memory

Files by their paths, each path once.

## Main definitions

* `FileMap`: files by their paths;
* `Sink.memory`: the sink that keeps its files in memory.
-/

import Accord.Output.Sink

namespace Accord

/-- Files by their paths. -/
structure FileMap where
  entries : List (Text × Text) := []
  deriving DecidableEq, Repr, Inhabited

namespace FileMap

/-- The content of a file. -/
def get? (m : FileMap) (path : Text) : Option Text := m.entries.lookup path

/-- The files with one of them set. -/
def insert (m : FileMap) (path content : Text) : FileMap :=
  ⟨Text.upsert path content m.entries⟩

/-- The paths in order. -/
def paths (m : FileMap) : List Text := Text.sort (m.entries.map (·.1))

/-- The files in the order of their paths. -/
def sorted (m : FileMap) : List (Text × Text) := Text.sortKeys m.entries

end FileMap

/-- The sink that keeps its files in memory. -/
def Sink.memory : Sink FileMap where
  write cancelled path content files := do
    Sink.allow cancelled path
    return files.insert path content

end Accord
