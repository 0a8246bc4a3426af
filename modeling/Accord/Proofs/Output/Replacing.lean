/-
# Replacing a file as a whole

A directory writes a new content to a temporary file and then lets it take the place of the
target. Until then the tree differs from what it was in the temporary file only, which was not
there before and which a write that fails takes away again. So there are two outcomes, whatever
the file system does in between: the tree is as it was, or the target alone has been set.

## Main results

* `FileTree.erase_insert`, `FileTree.rename_insert`: a new file removed again, and moved;
* `Directory.fillAndMove_cases`, `Directory.replace_cases`: the two outcomes;
* `Directory.write_cases`: the same for a whole write;
* `Directory.exists_freeTemporary`: under the usual circumstances a temporary file is free;
* `Directory.replace_usual`: under them, only the tree decides which outcome it is.
-/

import Accord.Output.Directory
import Accord.Proofs.Outcome
import Accord.Proofs.Text.Decimal
import Accord.Proofs.Text.Entries
import Accord.Proofs.Text.Pieces
import Mathlib.Data.Fintype.Pigeonhole

namespace Accord

/-! ### Files set, removed and moved -/

namespace FileTree

variable {t : FileTree} {path : Text}

theorem get?_insert (t : FileTree) (path other : Text) (f : StoredFile) :
    (t.insert path f).get? other = if other = path then some f else t.get? other :=
  Text.lookup_upsert path other f t.entries

theorem insert_insert (t : FileTree) (path : Text) (f g : StoredFile) :
    (t.insert path f).insert path g = t.insert path g :=
  congrArg FileTree.mk (Text.upsert_upsert path f g t.entries)

theorem not_mem_keys_of_get? (h : t.get? path = none) : path ∉ t.entries.map (·.1) := by
  intro hmem
  obtain ⟨entry, hentry, rfl⟩ := List.mem_map.mp hmem
  exact absurd (List.lookup_eq_none_iff.mp h entry hentry) (by simp)

theorem get?_of_missing (h : t.stored path = .missing) : t.get? path = none := by
  unfold stored at h
  split at h
  · cases h
  case h_2 hnone => exact hnone

/-- A file that was not there is set and removed without a trace. -/
theorem erase_insert (h : t.get? path = none) (f : StoredFile) :
    (t.insert path f).erase path = t := by
  have hkeys := not_mem_keys_of_get? h
  have hkept : t.entries.filter (fun entry => entry.1 ≠ path) = t.entries := by
    refine List.filter_eq_self.mpr fun entry hentry => ?_
    have hne : entry.1 ≠ path := by
      rintro rfl
      exact hkeys (List.mem_map_of_mem hentry)
    simpa using hne
  unfold insert erase
  rw [Text.upsert_of_not_mem hkeys]
  simp only [List.filter_append, hkept]
  simp

/-- A file that was not there is set and moved as if it had been set at the target. -/
theorem rename_insert (h : t.get? path = none) (f : StoredFile) (target : Text) :
    (t.insert path f).rename path target = t.insert target f := by
  unfold rename
  rw [get?_insert, if_pos rfl]
  simp only [erase_insert h]

end FileTree

/-! ### The outcomes of a write -/

namespace Directory

variable {d : Directory} {c : Circumstances} {rel path target : Text} {t : FileTree}
  {cancelled : Bool}

theorem get?_of_freeTemporary (h : freeTemporary? c target t = some path) : t.get? path = none := by
  have hfree := List.find?_some h
  exact FileTree.get?_of_missing (by simpa using hfree)

/-- Until the temporary file has taken the place of the target, it is all that is new. -/
theorem fillAndMove_cases (d : Directory) (c : Circumstances) (rel path target content : Text)
    (t : FileTree) :
    (∃ e f, d.fillAndMove c rel path target content t = (.error e, t.insert path f)) ∨
      d.fillAndMove c rel path target content t =
        (.ok (), (t.insert path (d.newFile content)).rename path target) := by
  unfold fillAndMove
  simp only [FileTree.insert_insert]
  -- The content, the end of it, the permissions, the cancellation, the move: each may be the last.
  split
  · exact .inl ⟨_, _, rfl⟩
  split
  · exact .inl ⟨_, _, rfl⟩
  split
  · exact .inl ⟨_, _, rfl⟩
  split
  · exact .inl ⟨_, _, rfl⟩
  split
  · exact .inl ⟨_, _, rfl⟩
  · exact .inr rfl

/-- A file is replaced as a whole, or nothing has happened. -/
theorem replace_cases (d : Directory) (c : Circumstances) (rel target content : Text)
    (t : FileTree) :
    (∃ e, d.replace c rel target content t = (.error e, t)) ∨
      d.replace c rel target content t = (.ok (), t.insert target (d.newFile content)) := by
  unfold replace
  split
  · exact .inl ⟨_, rfl⟩
  split
  · exact .inl ⟨_, rfl⟩
  split
  · exact .inl ⟨_, rfl⟩
  case h_2 path hpath =>
    -- Whatever is left of the temporary file is removed, since it was not there before.
    have hnew := get?_of_freeTemporary hpath
    rcases fillAndMove_cases d c rel path target content t with ⟨e, f, h⟩ | h
    · rw [h]
      exact .inl ⟨e, by simp only [FileTree.erase_insert hnew]⟩
    · rw [h]
      exact .inr (by simp only [FileTree.rename_insert hnew])

theorem checkPath_of_allow (h : Sink.allow cancelled rel = .ok ()) :
    Output.checkPath rel = .ok () := by
  unfold Sink.allow at h
  split at h
  · cases h
  case h_2 hpath => exact hpath

/-- What was checked before a write. -/
theorem accept_eq_ok (h : d.accept c cancelled rel t = .ok target) :
    Output.checkPath rel = .ok () ∧ d.resolve rel = .ok target ∧
      (d.replaceAny = false → rel.endsWith ".go" = true → guard c rel target t = .ok ()) := by
  unfold accept at h
  obtain ⟨_, hallow, h⟩ := Outcome.bind_eq_ok.mp h
  obtain ⟨resolved, hresolve, h⟩ := Outcome.bind_eq_ok.mp h
  dsimp only at h
  split at h
  case isTrue =>
    obtain ⟨_, hguard, h⟩ := Outcome.bind_eq_ok.mp h
    cases h
    exact ⟨checkPath_of_allow hallow, hresolve, fun _ _ => hguard⟩
  case isFalse hskip =>
    cases h
    refine ⟨checkPath_of_allow hallow, hresolve, fun hany hgo => ?_⟩
    exact absurd (by rw [hany, hgo]; rfl) hskip

/-- A write sets the target that its path leads to, or nothing has happened. -/
theorem write_cases (d : Directory) (c : Circumstances) (cancelled : Bool) (rel content : Text)
    (t : FileTree) :
    (∃ e, d.write c cancelled rel content t = (.error e, t)) ∨
      ∃ target, d.accept c cancelled rel t = .ok target ∧
        d.write c cancelled rel content t = (.ok (), t.insert target (d.newFile content)) := by
  unfold write
  cases haccept : d.accept c cancelled rel t with
  | error e => exact .inl ⟨e, rfl⟩
  | ok target =>
    rcases replace_cases d c rel target content t with ⟨e, h⟩ | h
    · exact .inl ⟨e, h⟩
    · exact .inr ⟨target, rfl, h⟩

/-! ### Usual circumstances -/

/-- Where something is found, a file has the path or is below it. -/
theorem exists_prefix_of_stored (h : t.stored path ≠ .missing) :
    ∃ entry ∈ t.entries, path <+: entry.1 := by
  unfold FileTree.stored at h
  split at h
  case h_1 f hf => exact ⟨(path, f), Text.mem_of_lookup hf, List.prefix_refl path⟩
  case h_2 =>
    by_cases hdirectory : t.isDirectory path = true
    · obtain ⟨entry, hentry, hbelow⟩ := List.any_eq_true.mp hdirectory
      refine ⟨entry, hentry, ?_⟩
      have hwithin : path <+: FileTree.within path := by
        unfold FileTree.within
        split
        · exact List.prefix_refl path
        · exact List.prefix_append path _
      exact hwithin.trans (Text.startsWith_iff.mp hbelow)
    · rw [if_neg hdirectory] at h
      exact absurd rfl h

/-- Temporary files with different numbers are not where one path begins. -/
theorem eq_of_begins_temporary {m n : Nat} (hm : temporary target m <+: path)
    (hn : temporary target n <+: path) : m = n := by
  have hdot (k : Nat) : Text.byte '.' ∉ Text.ofNat k := by
    intro hmem
    exact absurd (Text.isDigitByte_of_mem_ofNat hmem) (by decide)
  have hspell (k : Nat) (rest : Text) : temporary target k ++ rest =
      folder target ++ ".conjure-" ++ (Text.ofNat k ++ Text.byte '.' :: ("tmp" ++ rest)) := by
    unfold temporary
    rw [List.append_assoc, List.append_assoc]
    rfl
  obtain ⟨restm, hm⟩ := hm
  obtain ⟨restn, hn⟩ := hn
  rw [hspell] at hm hn
  have htail := List.append_cancel_left (hm.trans hn.symm)
  -- The number is what comes before the dot.
  have hcut := congrArg (Text.cut? (Text.byte '.')) htail
  rw [Text.cut?_append (hdot m), Text.cut?_append (hdot n)] at hcut
  exact Text.ofNat_injective (Prod.mk.inj (Option.some.inj hcut)).1

/-- Under the usual circumstances one of the temporary files is free: there are more numbers than
files that could be in the way. -/
theorem exists_freeTemporary (target : Text) (t : FileTree) :
    ∃ path, freeTemporary? (.usual t) target t = some path := by
  by_contra hnone
  have htaken (n : Fin (t.entries.length + 1)) :
      ∃ i : Fin t.entries.length, temporary target n <+: (t.entries.get i).1 := by
    have hfind : freeTemporary? (.usual t) target t = none := by
      simpa [Option.eq_none_iff_forall_ne_some] using hnone
    have hstored := List.find?_eq_none.mp hfind (temporary target n)
      (List.mem_map_of_mem (List.mem_range.mpr n.isLt))
    obtain ⟨entry, hentry, hbegins⟩ := exists_prefix_of_stored (by simpa using hstored)
    obtain ⟨i, rfl⟩ := List.get_of_mem hentry
    exact ⟨i, hbegins⟩
  -- Two numbers would be taken by one file, which begins with only one of them.
  choose file hfile using htaken
  obtain ⟨m, n, hne, heq⟩ := Fintype.exists_ne_map_eq_of_card_lt file (by simp)
  have hn := hfile n
  rw [← heq] at hn
  exact hne (Fin.ext (eq_of_begins_temporary (hfile m) hn))

/-- Under the usual circumstances, a file is replaced if its directories can be made and nothing
stands in its place that is not a file. -/
theorem replace_usual (d : Directory) (rel target content : Text) (t : FileTree) :
    d.replace (.usual t) rel target content t =
      if t.isBlocked target || !(Text.split Path.slash (folder target)).all canHold then
        (.error (Operation.makeDirectories.fault rel), t)
      else if d.canReplace target t then (.ok (), t.insert target (d.newFile content))
      else (.error (Operation.rename.fault rel), t) := by
  obtain ⟨path, hpath⟩ := exists_freeTemporary target t
  have hnew := get?_of_freeTemporary hpath
  have hfails (o : Operation) : (Circumstances.usual t).fails o = false := rfl
  have hgoes : (Circumstances.usual t).interrupted = false := rfl
  unfold replace fillAndMove
  rw [hpath]
  simp only [hfails, hgoes, Bool.false_or, Bool.false_eq_true, if_false, FileTree.insert_insert]
  split
  · rfl
  · cases hreplace : d.canReplace target t with
    | true => simp [FileTree.rename_insert hnew]
    | false => simp [FileTree.erase_insert hnew]

end Directory

end Accord
