/-
# A stage is a faithful buffer

A stage is written to, emptied and committed in any order, and the place behind it may refuse any
file at any time. What the stage holds is told by the history of calls alone: for every path the
content of the last write that succeeded, unless a commit that succeeded or a discard came later.
Only a commit sends anything to the place, and what it sends is what the stage holds, one file for
each path in the order of the paths. A commit that is cut short has sent the files of smaller
paths and keeps all files, so that the next one sends all of them.

A place need not do the same at every commit: a full disk may have room later. Each commit
therefore comes with a sink of its own.

## Main definitions

* `Stage.Call`, `Stage.call`: the calls on a stage, and what they do;
* `Stage.LastWrite`: the content that was last written to a path since the stage was empty;
* `Stage.Buffers`: what a stage holds after a history;
* `Sink.logging`: a sink that notes the files it takes.

## Main results

* `Stage.lastWrite_concat_iff`: the last write after one more call;
* `Stage.Buffers.call`: what every call keeps;
* `Stage.commit_faithful`: what is sent in every history.
-/

import Accord.Proofs.History
import Accord.Proofs.Outcome
import Accord.Proofs.Output.Staging

namespace Accord

/-! ### Sinks that note what they take -/

namespace Sink

variable {τ : Type} {sink : Sink τ} {cancelled : Bool} {place place' : τ}
  {log log' files : List (Text × Text)}

/-- A sink that notes the files it takes, in order. -/
def logging (sink : Sink τ) : Sink (τ × List (Text × Text)) where
  write cancelled path content kept := do
    let place ← sink.write cancelled path content kept.1
    return (place, kept.2 ++ [(path, content)])

theorem logging_write_eq_ok_iff {path content : Text} :
    sink.logging.write cancelled path content (place, log) = .ok (place', log') ↔
      sink.write cancelled path content place = .ok place' ∧ log' = log ++ [(path, content)] := by
  simp only [logging, Outcome.bind_eq_ok]
  constructor
  · rintro ⟨next, hwrite, hpair⟩
    cases hpair
    exact ⟨hwrite, rfl⟩
  · rintro ⟨hwrite, rfl⟩
    exact ⟨place', hwrite, rfl⟩

theorem logging_write_eq_error_iff {path content : Text} {fault : Fault} :
    sink.logging.write cancelled path content (place, log) = .error fault ↔
      sink.write cancelled path content place = .error fault := by
  simp only [logging]
  cases sink.write cancelled path content place with
  | error e =>
    constructor
    · rintro ⟨⟩
      rfl
    · rintro ⟨⟩
      rfl
  | ok next =>
    constructor
    · rintro ⟨⟩
    · rintro ⟨⟩

/-- Noting files does not change which files are taken. -/
theorem logging_takeAll_eq_ok_iff :
    sink.logging.takeAll cancelled files (place, log) = .ok (place', log') ↔
      sink.takeAll cancelled files place = .ok place' ∧ log' = log ++ files := by
  induction files generalizing place log with
  | nil => simp [takeAll, eq_comm]
  | cons f rest ih =>
    obtain ⟨path, content⟩ := f
    simp only [takeAll, Outcome.bind_eq_ok, Prod.exists, logging_write_eq_ok_iff, ih]
    constructor
    · rintro ⟨next, noted, ⟨hwrite, rfl⟩, hrest, rfl⟩
      exact ⟨⟨next, hwrite, hrest⟩, by simp⟩
    · rintro ⟨⟨next, hwrite, hrest⟩, rfl⟩
      exact ⟨next, log ++ [(path, content)], ⟨hwrite, rfl⟩, hrest, by simp⟩

end Sink

namespace FileMap

variable {m m' : FileMap} {path path' content : Text}

theorem get?_insert : (m.insert path content).get? path' =
    if path' = path then some content else m.get? path' :=
  Text.lookup_upsert path path' content m.entries

/-- The files in order are those that are held. -/
theorem Distinct.mem_sorted_iff (h : m.Distinct) :
    (path, content) ∈ m.sorted ↔ m.get? path = some content := by
  have hmem : (path, content) ∈ m.sorted ↔ (path, content) ∈ m.entries :=
    (Text.sortKeys_perm m.entries).mem_iff
  rw [hmem]
  exact ⟨Text.lookup_of_mem h, Text.mem_of_lookup⟩

end FileMap

namespace Stage

variable {τ : Type}

/-! ### Calls -/

/-- A call on a stage. A commit comes with what the place does with files at that time. -/
inductive Call (τ : Type) where
  | write (cancelled : Bool) (path content : Text)
  | discard
  | commit (sink : Sink τ) (cancelled : Bool)

/-- What a call does. A write that is refused leaves the stage as it is. -/
def call (s : Stage τ) : Call τ → Except Fault Unit × Stage τ
  | .write cancelled path content =>
    match s.write cancelled path content with
    | .ok s' => (.ok (), s')
    | .error e => (.error e, s)
  | .discard => (.ok (), s.discard)
  | .commit sink cancelled => s.commit sink cancelled

/-- A write that is not refused puts the file among those held back. -/
theorem write_eq_ok {s s' : Stage τ} {cancelled : Bool} {path content : Text}
    (h : s.write cancelled path content = .ok s') :
    s' = { s with staged := s.staged.insert path content } := by
  obtain ⟨staged, hstaged, hpair⟩ := Outcome.bind_eq_ok.mp h
  obtain ⟨-, -, rfl⟩ := Sink.memory_write_eq_ok_iff.mp hstaged
  cases hpair
  rfl

/-! ### What the history says -/

/-- A call, with the answer it got, after which the stage is empty. -/
def Clears : Call τ × Except Fault Unit → Prop
  | (.write .., _) => False
  | (.discard, _) => True
  | (.commit .., answer) => answer = .ok ()

/-- A call, with the answer it got, that is a successful write to a path. -/
def WritesTo (path : Text) : Call τ × Except Fault Unit → Prop
  | (.write _ path' _, answer) => path' = path ∧ answer = .ok ()
  | _ => False

/-- The content of the last successful write to a path, since which there was neither a successful
commit nor a discard. -/
def LastWrite (past : List (Call τ × Except Fault Unit)) (path content : Text) : Prop :=
  ∃ before cancelled after, past = before ++ (.write cancelled path content, .ok ()) :: after ∧
    ∀ event ∈ after, ¬ Clears event ∧ ¬ WritesTo path event

variable {past : List (Call τ × Except Fault Unit)} {event : Call τ × Except Fault Unit}
  {path content : Text}

theorem not_lastWrite_nil : ¬ LastWrite ([] : List (Call τ × Except Fault Unit)) path content := by
  rintro ⟨before, cancelled, after, hpast, -⟩
  simp at hpast

/-- The last write after one more call is that call, or the last one before if the call neither
empties the stage nor writes to the path. -/
theorem lastWrite_concat_iff : LastWrite (past ++ [event]) path content ↔
    (∃ cancelled, event = (.write cancelled path content, .ok ())) ∨
      ¬ Clears event ∧ ¬ WritesTo path event ∧ LastWrite past path content := by
  constructor
  · rintro ⟨before, cancelled, after, hpast, hafter⟩
    -- The write is the new call exactly if nothing comes after it.
    rcases List.eq_nil_or_concat after with rfl | ⟨front, last, rfl⟩
    · exact .inl ⟨cancelled, (List.append_inj_right' hpast rfl |> List.singleton_inj.mp)⟩
    · rw [List.concat_eq_append, ← List.cons_append, ← List.append_assoc] at hpast
      obtain ⟨hfront, hlast⟩ := List.append_inj' hpast rfl
      obtain rfl := List.singleton_inj.mp hlast
      have hevent := hafter event (by simp)
      refine .inr ⟨hevent.1, hevent.2, before, cancelled, front, hfront, fun e he => ?_⟩
      exact hafter e (by simp [he])
  · rintro (⟨cancelled, rfl⟩ | ⟨hclears, hwrites, before, cancelled, after, rfl, hafter⟩)
    · exact ⟨past, cancelled, [], rfl, by simp⟩
    · refine ⟨before, cancelled, after ++ [event], by simp, fun e he => ?_⟩
      rcases List.mem_append.mp he with he | he
      · exact hafter e he
      · obtain rfl := List.mem_singleton.mp he
        exact ⟨hclears, hwrites⟩

/-! ### What the stage holds -/

/-- A stage holds for every path what was last written to it. -/
structure Buffers (past : List (Call τ × Except Fault Unit)) (s : Stage τ) : Prop where
  distinct : s.staged.Distinct
  get?_iff : ∀ path content, s.staged.get? path = some content ↔ LastWrite past path content

variable {s : Stage τ}

theorem Buffers.empty (place : τ) : Buffers [] ⟨place, {}⟩ where
  distinct := .empty
  get?_iff path content := by
    constructor
    · intro h
      cases h
    · exact fun h => absurd h not_lastWrite_nil

/-- A call that neither writes nor empties the stage leaves what it holds. -/
theorem Buffers.keep (h : Buffers past s) {s' : Stage τ} (hstaged : s'.staged = s.staged)
    (hclears : ¬ Clears event) (hwrites : ∀ path, ¬ WritesTo path event) :
    Buffers (past ++ [event]) s' where
  distinct := hstaged ▸ h.distinct
  get?_iff path content := by
    have hnew : ¬ ∃ cancelled, event = (.write cancelled path content, .ok ()) := by
      rintro ⟨cancelled, rfl⟩
      exact hwrites path ⟨rfl, rfl⟩
    rw [hstaged, h.get?_iff, lastWrite_concat_iff]
    simp [hnew, hclears, hwrites path]

/-- After a call that empties the stage it holds nothing. -/
theorem Buffers.clear {s' : Stage τ} (hstaged : s'.staged = {}) (hclears : Clears event)
    (hwrites : ∀ path, ¬ WritesTo path event) : Buffers (past ++ [event]) s' where
  distinct := hstaged ▸ .empty
  get?_iff path content := by
    have hnew : ¬ ∃ cancelled, event = (.write cancelled path content, .ok ()) := by
      rintro ⟨cancelled, rfl⟩
      exact hwrites path ⟨rfl, rfl⟩
    rw [hstaged, lastWrite_concat_iff]
    simp [hnew, hclears, FileMap.get?]

/-- After a write the stage holds the new content of its path, and else what it held. -/
theorem Buffers.insert (h : Buffers past s) (cancelled : Bool) (path content : Text) :
    Buffers (past ++ [(.write cancelled path content, .ok ())])
      { s with staged := s.staged.insert path content } where
  distinct := h.distinct.insert path content
  get?_iff path' content' := by
    rw [FileMap.get?_insert, lastWrite_concat_iff]
    by_cases hpath : path' = path
    · subst hpath
      simp [WritesTo]
    · rw [if_neg hpath, h.get?_iff]
      simp [Clears, WritesTo, Ne.symm hpath]

/-- Every call keeps what a stage holds in step with the history. -/
theorem Buffers.call (h : Buffers past s) (c : Call τ) :
    Buffers (past ++ [(c, (s.call c).1)]) (s.call c).2 := by
  cases c with
  | write cancelled path content =>
    simp only [Stage.call]
    cases hwrite : s.write cancelled path content with
    | error e => exact h.keep rfl (by simp [Clears]) (by simp [WritesTo])
    | ok s' =>
      rw [write_eq_ok hwrite]
      exact h.insert cancelled path content
  | discard => exact .clear rfl trivial (by simp [WritesTo])
  | commit sink cancelled =>
    simp only [Stage.call]
    rcases hcommit : s.commit sink cancelled with ⟨answer, s'⟩
    cases answer with
    | error fault =>
      obtain ⟨hstaged, -⟩ := (commit_eq_error_iff h.distinct).mp hcommit
      exact h.keep hstaged (by simp [Clears]) (by simp [WritesTo])
    | ok u => exact .clear (commit_eq_ok_iff.mp hcommit).2 rfl (by simp [WritesTo])

theorem Buffers.final (place : τ) (calls : List (Call τ)) :
    Buffers (History.trace Stage.call ⟨place, {}⟩ calls)
      (History.final Stage.call ⟨place, {}⟩ calls) :=
  History.invariant (.empty place) (fun _ _ c h => h.call c) calls

/-! ### What is sent -/

/-- The same call on a stage in front of a place that notes the files it takes. -/
def Call.logged : Call τ → Call (τ × List (Text × Text))
  | .write cancelled path content => .write cancelled path content
  | .discard => .discard
  | .commit sink cancelled => .commit sink.logging cancelled

/-- A stage in front of a place that has not taken any file yet. -/
def fresh (place : τ) : Stage (τ × List (Text × Text)) := ⟨(place, []), {}⟩

/-- **A stage is a faithful buffer.** After every history of calls, whatever the place refused on
the way, a stage holds the files that were last written since it was empty, one for each path, and
keeps them in strict order. A write or a discard sends nothing. A commit that succeeds has sent
exactly these files, in this order, and leaves the stage empty. One that fails has sent exactly the
files of the paths smaller than the one that was refused, and leaves the stage unchanged, so that a
further commit whose files are all taken succeeds and sends all of them. -/
theorem commit_faithful (place : τ) (calls : List (Call τ)) :
    let past := History.trace call (fresh place) (calls.map Call.logged)
    let s := History.final call (fresh place) (calls.map Call.logged)
    let files := s.staged.sorted
    (files.Pairwise fun f g => Text.lt f.1 g.1 = true) ∧
    (∀ path content, (path, content) ∈ files ↔ LastWrite past path content) ∧
    (∀ cancelled path content, (s.call (.write cancelled path content)).2.place = s.place) ∧
    (s.call .discard).2.place = s.place ∧
    ∀ (sink : Sink τ) (cancelled : Bool) (s' : Stage (τ × List (Text × Text))),
      (s.call (.commit sink.logging cancelled) = (.ok (), s') →
        s'.place.2 = s.place.2 ++ files ∧ s'.staged = {}) ∧
      ∀ fault, s.call (.commit sink.logging cancelled) = (.error fault, s') →
        (∃ path content cause, (path, content) ∈ files ∧
          sink.write cancelled path content s'.place.1 = .error cause ∧
          fault = .context ("commit " ++ path) cause ∧
          s'.place.2 = s.place.2 ++ files.filter fun f => Text.lt f.1 path) ∧
        s'.staged = s.staged ∧
        ∀ (again : Sink τ) (cancelled' : Bool) (place' : τ),
          again.takeAll cancelled' files s'.place.1 = .ok place' →
            s'.call (.commit again.logging cancelled') =
              (.ok (), ⟨(place', s'.place.2 ++ files), {}⟩) := by
  intro past s files
  have hbuffers : Buffers past s := Buffers.final (place, []) (calls.map Call.logged)
  refine ⟨Text.sortKeys_strict hbuffers.distinct, fun path content => ?_,
    fun cancelled path content => ?_, rfl,
    fun sink cancelled s' => ⟨fun hok => ?_, fun fault hfault => ?_⟩⟩
  · rw [hbuffers.distinct.mem_sorted_iff, hbuffers.get?_iff]
  · simp only [call]
    cases hwrite : s.write cancelled path content with
    | error e => rfl
    | ok s' => rw [write_eq_ok hwrite]
  · obtain ⟨htaken, hstaged⟩ := commit_eq_ok_iff.mp hok
    exact ⟨(Sink.logging_takeAll_eq_ok_iff.mp htaken).2, hstaged⟩
  · obtain ⟨hstaged, path, content, cause, hget, htaken, hrefused, rfl⟩ :=
      (commit_eq_error_iff hbuffers.distinct).mp hfault
    have hmem : (path, content) ∈ files := hbuffers.distinct.mem_sorted_iff.mpr hget
    have hsent := (Sink.logging_takeAll_eq_ok_iff.mp htaken).2
    refine ⟨⟨path, content, cause, hmem, Sink.logging_write_eq_error_iff.mp hrefused, rfl, hsent⟩,
      hstaged, fun again cancelled' place' hagain => ?_⟩
    refine commit_eq_ok_iff.mpr ⟨?_, rfl⟩
    rw [hstaged]
    exact Sink.logging_takeAll_eq_ok_iff.mpr ⟨hagain, rfl⟩

/-- Two files, of which the first is written twice. -/
def overwriting : List (Call FileMap) :=
  [.write false "a" "1", .write false "b" "2", .write false "a" "3"]

/-- What is left of the two files. -/
def overwritten : List (Text × Text) := [("a", "3"), ("b", "2")]

/-- A commit that is refused the second file has sent the first one as it was last written, and the
next commit sends both. -/
theorem commit_faithful_full_disk :
    let s := History.final call (fresh {}) (overwriting.map Call.logged)
    ∃ s' fault,
      s.call (.commit (Sink.memory.refusing "b").logging false) = (.error fault, s') ∧
      s'.place.2 = overwritten.take 1 ∧
      s'.call (.commit Sink.memory.logging false) =
        (.ok (), ⟨(⟨overwritten⟩, overwritten.take 1 ++ overwritten), {}⟩) := by
  intro s
  have hsorted : s.staged.sorted = overwritten :=
    List.mergeSort_of_pairwise (List.pairwise_pair.mpr rfl)
  have hcommit : s.call (.commit (Sink.memory.refusing "b").logging false) =
      (.error (.context ("commit " ++ "b") (.plain "disk full")),
        ⟨(⟨overwritten.take 1⟩, overwritten.take 1), s.staged⟩) := by
    simp only [call, commit, hsorted]
    rfl
  obtain ⟨-, -, -, -, hsends⟩ := commit_faithful ({} : FileMap) overwriting
  obtain ⟨-, hagain⟩ := (hsends _ _ _).2 _ hcommit
  have hnext := hagain.2 Sink.memory false ⟨overwritten⟩
  rw [hsorted] at hnext
  exact ⟨_, _, hcommit, rfl, hnext rfl⟩

end Stage

end Accord
