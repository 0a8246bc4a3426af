/-
# Handing files over

A stage hands its files to a place one by one in the order of their paths, and stops at the first
that is refused. The place keeps what it took: the files of smaller paths, and no other.

## Main definitions

* `FileMap.Distinct`: every path stands once among the files;
* `FileMap.before`: the files of smaller paths in order;
* `Sink.takeAll`: a place after it took files one after the other.

## Main results

* `Stage.handOver_eq_ok_iff`, `Stage.handOver_eq_error_iff`: when files are handed over, and where
  that stops;
* `Stage.commit_eq_error_iff`: what a stage and its place are after a refusal.
-/

import Accord.Output.Staging
import Accord.Proofs.Text.Entries
import Accord.Proofs.Text.Order

namespace Accord

/-- Entries of different keys are in strict order when they are sorted. -/
theorem Text.sortKeys_strict {α : Type} {entries : List (Text × α)}
    (h : (entries.map (·.1)).Nodup) :
    (sortKeys entries).Pairwise fun a b => lt a.1 b.1 = true :=
  mergeSort_strict h

/-! ### Files in order -/

namespace FileMap

variable {m : FileMap} {path content : Text}

/-- Every path stands once among files. -/
def Distinct (m : FileMap) : Prop := (m.entries.map (·.1)).Nodup

theorem Distinct.empty : Distinct {} := List.nodup_nil

theorem Distinct.insert (h : m.Distinct) (path content : Text) : (m.insert path content).Distinct :=
  Text.nodup_keys_upsert h path content

/-- The files of smaller paths in order. -/
def before (m : FileMap) (path : Text) : List (Text × Text) :=
  m.sorted.filter fun f => Text.lt f.1 path

/-- In front of a file in order stand those of smaller paths. -/
theorem Distinct.before_eq (h : m.Distinct) {front back : List (Text × Text)}
    (hsorted : m.sorted = front ++ (path, content) :: back) : m.before path = front := by
  have hstrict := Text.sortKeys_strict h
  change m.sorted.Pairwise _ at hstrict
  rw [hsorted, List.pairwise_append, List.pairwise_cons] at hstrict
  obtain ⟨-, ⟨hback, -⟩, hfront⟩ := hstrict
  have hself : Text.lt path path = false := by simp [Text.lt]
  rw [before, hsorted, List.filter_append, List.filter_cons_of_neg (by simp [hself]),
    List.filter_eq_self.mpr fun f hf => hfront f hf _ List.mem_cons_self,
    List.filter_eq_nil_iff.mpr fun f hf => by simp [Text.lt_asymm (hback f hf)], List.append_nil]

/-- A file stands in order between those of smaller paths and others. -/
theorem Distinct.sorted_eq_iff (h : m.Distinct) : m.get? path = some content ↔
    ∃ back, m.sorted = m.before path ++ (path, content) :: back := by
  constructor
  · intro hget
    have hmem := (Text.sortKeys_perm m.entries).mem_iff.mpr (Text.mem_of_lookup hget)
    obtain ⟨front, back, hsorted⟩ := List.append_of_mem hmem
    exact ⟨back, h.before_eq hsorted ▸ hsorted⟩
  · rintro ⟨back, hsorted⟩
    refine Text.lookup_of_mem h ((Text.sortKeys_perm m.entries).mem_iff.mp ?_)
    change _ ∈ m.sorted
    rw [hsorted]
    simp

end FileMap

/-- Files in memory take a file unless its path cannot be used or the work was cancelled. -/
theorem Sink.memory_write_eq_ok_iff {cancelled : Bool} {path content : Text} {m m' : FileMap} :
    Sink.memory.write cancelled path content m = .ok m' ↔
      Output.checkPath path = .ok () ∧ cancelled = false ∧ m' = m.insert path content := by
  simp only [Sink.memory, Sink.allow]
  cases Output.checkPath path with
  | error e =>
    constructor
    · rintro ⟨⟩
    · rintro ⟨⟨⟩, -⟩
  | ok u =>
    cases cancelled with
    | true =>
      constructor
      · rintro ⟨⟩
      · rintro ⟨-, ⟨⟩, -⟩
    | false =>
      constructor
      · rintro ⟨⟩
        exact ⟨rfl, rfl, rfl⟩
      · rintro ⟨-, -, rfl⟩
        rfl

/-! ### One file after the other -/

variable {τ : Type} {sink : Sink τ} {cancelled : Bool} {place place' : τ} {fault : Fault}
  {files : List (Text × Text)}

/-- A place after it took files one after the other. -/
def Sink.takeAll (sink : Sink τ) (cancelled : Bool) : List (Text × Text) → τ → Except Fault τ
  | [], place => .ok place
  | (path, content) :: rest, place =>
    sink.write cancelled path content place >>= takeAll sink cancelled rest

namespace Stage

/-- Files are handed over if the place takes all of them. -/
theorem handOver_eq_ok_iff : handOver sink cancelled files place = (.ok (), place') ↔
    sink.takeAll cancelled files place = .ok place' := by
  induction files generalizing place with
  | nil => simp [handOver, Sink.takeAll]
  | cons f rest ih =>
    obtain ⟨path, content⟩ := f
    rw [handOver, Sink.takeAll]
    cases sink.write cancelled path content place with
    | error e => simp [bind, Except.bind]
    | ok next => exact ih

/-- Handing files over stops at one that is refused, after those before it were taken. -/
theorem handOver_eq_error_iff : handOver sink cancelled files place = (.error fault, place') ↔
    ∃ front path content back cause, files = front ++ (path, content) :: back ∧
      sink.takeAll cancelled front place = .ok place' ∧
      sink.write cancelled path content place' = .error cause ∧
      fault = .context ("commit " ++ path) cause := by
  induction files generalizing place with
  | nil => simp [handOver]
  | cons f rest ih =>
    obtain ⟨path, content⟩ := f
    rw [handOver]
    cases hwrite : sink.write cancelled path content place with
    | error e =>
      -- The first file is refused, and nothing was taken before it.
      constructor
      · intro h
        cases h
        exact ⟨[], path, content, rest, e, rfl, rfl, hwrite, rfl⟩
      · rintro ⟨front, path', content', back, cause, hfiles, htaken, hrefused, rfl⟩
        rcases List.cons_eq_append_iff.mp hfiles with ⟨rfl, hcons⟩ | ⟨front, rfl, -⟩
        · cases hcons
          cases htaken
          rw [hwrite] at hrefused
          cases hrefused
          rfl
        · rw [Sink.takeAll, hwrite] at htaken
          cases htaken
    | ok next =>
      -- The first file is taken, and the refused one comes later.
      rw [ih]
      constructor
      · rintro ⟨front, path', content', back, cause, rfl, htaken, hrefused, rfl⟩
        refine ⟨(path, content) :: front, path', content', back, cause, rfl, ?_, hrefused, rfl⟩
        rw [Sink.takeAll, hwrite]
        exact htaken
      · rintro ⟨front, path', content', back, cause, hfiles, htaken, hrefused, rfl⟩
        rcases List.cons_eq_append_iff.mp hfiles with ⟨rfl, hcons⟩ | ⟨front, rfl, hrest⟩
        · cases hcons
          cases htaken
          rw [hwrite] at hrefused
          cases hrefused
        · rw [Sink.takeAll, hwrite] at htaken
          exact ⟨front, path', content', back, cause, hrest, htaken, hrefused, rfl⟩

/-- A commit succeeds if the place takes all files in order, and then the stage is empty. -/
theorem commit_eq_ok_iff {s s' : Stage τ} :
    s.commit sink cancelled = (.ok (), s') ↔
      sink.takeAll cancelled s.staged.sorted s.place = .ok s'.place ∧ s'.staged = {} := by
  rw [← handOver_eq_ok_iff]
  obtain ⟨kept, staged⟩ := s'
  unfold commit
  obtain ⟨outcome, taken⟩ := handOver sink cancelled s.staged.sorted s.place
  cases outcome with
  | error e => simp
  | ok u =>
    constructor
    · rintro ⟨⟩
      exact ⟨rfl, rfl⟩
    · rintro ⟨⟨⟩, rfl⟩
      rfl

/-- A commit fails at the path of a file that is refused. The place has taken the files of smaller
paths, and the stage still holds all files. -/
theorem commit_eq_error_iff {s s' : Stage τ} (h : s.staged.Distinct) :
    s.commit sink cancelled = (.error fault, s') ↔
      s'.staged = s.staged ∧ ∃ path content cause, s.staged.get? path = some content ∧
        sink.takeAll cancelled (s.staged.before path) s.place = .ok s'.place ∧
        sink.write cancelled path content s'.place = .error cause ∧
        fault = .context ("commit " ++ path) cause := by
  have hcommit : s.commit sink cancelled = (.error fault, s') ↔ s'.staged = s.staged ∧
      handOver sink cancelled s.staged.sorted s.place = (.error fault, s'.place) := by
    obtain ⟨kept, staged⟩ := s'
    unfold commit
    obtain ⟨outcome, taken⟩ := handOver sink cancelled s.staged.sorted s.place
    cases outcome with
    | error e =>
      constructor
      · rintro ⟨⟩
        exact ⟨rfl, rfl⟩
      · rintro ⟨rfl, ⟨⟩⟩
        rfl
    | ok u => simp
  rw [hcommit, handOver_eq_error_iff]
  refine and_congr_right fun _ => ?_
  constructor
  · rintro ⟨front, path, content, back, cause, hsorted, htaken, hrefused, rfl⟩
    obtain rfl := h.before_eq hsorted
    exact ⟨path, content, cause, h.sorted_eq_iff.mpr ⟨back, hsorted⟩, htaken, hrefused, rfl⟩
  · rintro ⟨path, content, cause, hget, htaken, hrefused, rfl⟩
    obtain ⟨back, hsorted⟩ := h.sorted_eq_iff.mp hget
    exact ⟨_, path, content, back, cause, hsorted, htaken, hrefused, rfl⟩

end Stage

end Accord
