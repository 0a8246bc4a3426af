/-
# Staging

A stage holds files back until all of them are known. Nothing reaches the place behind it
before the commit, which hands the files over in the order of their paths and stops at
the first that is refused.

## Main definitions

* `Stage`: files held back from a place;
* `Stage.write`: holds one more file back;
* `Stage.commit`: hands the files over;
* `Stage.discard`: drops them.
-/

import Accord.Output.Memory

namespace Accord

/-- Files held back from a place. -/
structure Stage (τ : Type) where
  /-- The place behind the stage. -/
  place : τ
  staged : FileMap := {}

namespace Stage

variable {τ : Type}

/-- Holds a file back. -/
def write (cancelled : Bool) (path content : Text) (s : Stage τ) : Except Fault (Stage τ) :=
  return { s with staged := ← Sink.memory.write cancelled path content s.staged }

/-- Hands files to a place one by one. What the place took before a refusal it keeps. -/
def handOver (sink : Sink τ) (cancelled : Bool) :
    List (Text × Text) → τ → Except Fault Unit × τ
  | [], place => (.ok (), place)
  | (path, content) :: rest, place =>
    match sink.write cancelled path content place with
    | .error e => (.error (.context ("commit " ++ path) e), place)
    | .ok place => handOver sink cancelled rest place

/-- Hands all files over in the order of their paths. The stage is empty afterwards, unless a
file was refused. -/
def commit (sink : Sink τ) (cancelled : Bool) (s : Stage τ) : Except Fault Unit × Stage τ :=
  match handOver sink cancelled s.staged.sorted s.place with
  | (.error e, place) => (.error e, { s with place })
  | (.ok (), place) => (.ok (), ⟨place, {}⟩)

/-- Drops the files held back. -/
def discard (s : Stage τ) : Stage τ := { s with staged := {} }

end Stage

end Accord
