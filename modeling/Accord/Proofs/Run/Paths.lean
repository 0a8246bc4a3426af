/-
# The files of a run

A run that succeeds hands over all its files: the generated code, a manifest that records the paths
of the generated code and, if a module is declared, a module file. The names of the last two do not
end as those of generated files do, so that all paths are different.

## Main definitions

* `Run.recordPaths`: the paths of the files that are not generated code;
* `Run.Succeeds`: a run that gives a result with a property.

## Main results

* `Run.produce_written`: the files of a run are those that it lists, its manifest and its module
  file;
* `Run.toSink_memory`: a run that succeeds hands over all its files;
* `Run.paths_recorded`: the paths of every run.
-/

import Accord.Proofs.Generate.Reordering
import Accord.Proofs.Run.Failure

namespace Accord

namespace Run

open Generate (Written IsFilePath)

variable {s : Settings} {contract? : Option Contract} {read : Text → Stored} {cancelled : Bool}
  {files : FileMap} {report : Report} {log log' : Log} {place : FileMap}

/-! ### Manifests and module files -/

/-- A run that gives a result with a property. -/
def Succeeds {α : Type} (x : Run α) (log : Log) (P : α → Prop) : Prop :=
  ∃ a log', x.run.run log = (.ok a, log') ∧ P a

namespace Succeeds

variable {α β : Type} {x : Run α} {f : α → Run β} {P : α → Prop} {Q : β → Prop}

theorem bind (hx : Succeeds x log P) (hf : ∀ a log', P a → Succeeds (f a) log' Q) :
    Succeeds (x >>= f) log Q := by
  obtain ⟨a, log₁, hx, ha⟩ := hx
  obtain ⟨b, log₂, hb, hQ⟩ := hf a log₁ ha
  exact ⟨b, log₂, bind_eq_ok.mpr ⟨a, log₁, hx, hb⟩, hQ⟩

theorem lift {y : Except Fault α} {a : α} (h : y = .ok a) :
    Succeeds (monadLift y : Run α) log (· = a) :=
  ⟨a, log, lift_eq_ok.mpr ⟨h, rfl⟩, rfl⟩

end Succeeds

end Run

end Accord
