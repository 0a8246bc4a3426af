/-
# Hand-written files that are kept

Source code without a line that says that it was generated is not replaced by a directory that has
not been told to, with one exception. The directory looks at what is there only if the path ends in
`.go`. The target of a path ends as the path does, except that `.` leads to the directory itself:
a file that stands in its place is not looked at. And the line counts wherever it stands, though
the tools know generated code by a comment that stands before all code: a file that only quotes the
line is replaced.

## Main definitions

* `HasHeader`: a line of a text says that it was generated;
* `CarriesHeader`: such a line is a comment before all code;
* `WriteCall`: a write to a directory that keeps what was not generated, under any circumstances;
* `WriteCall.Clear`: nothing stands in the way of a call;
* `WriteCall.Outcome`: what a call may do to the tree.

## Main results

* `isGenerated_iff`: the line is looked for;
* `WriteCall.outcome_run`: every call has an outcome of this kind;
* `WriteCall.get?_run`, `WriteCall.get?_final`: a call keeps a file without the line, and so do many;
* `WriteCall.handWritten_kept`: what is kept by the calls of a history, and what is not;
* `WriteCall.handWritten_replaced`: two hand-written files that are replaced.
-/

import Accord.Proofs.History
import Accord.Proofs.Output.Replacing
import Accord.Proofs.Output.Targets

namespace Accord

/-! ### The header -/

/-- A text has a line that says that it was generated. -/
def HasHeader (content : Text) : Prop :=
  ∃ before tool after : Text,
    content = before ++ ("// Code generated " ++ tool ++ " DO NOT EDIT.") ++ after ∧
      Text.byte '\n' ∉ tool ∧
      (before = [] ∨ ∃ front, before = front ++ [Text.byte '\n']) ∧
      (after = [] ∨ ∃ back, after = Text.byte '\n' :: back)

/-- Nothing but white space and comments. -/
inductive Comments : Text → Prop
  | nil : Comments []
  | blank {b : UInt8} {rest : Text} (hb : b ∈ Text.ofString " \t\r\n") (h : Comments rest) :
    Comments (b :: rest)
  | line {comment rest : Text} (hbreak : Text.byte '\n' ∉ comment) (h : Comments rest) :
    Comments ("//" ++ comment ++ Text.byte '\n' :: rest)
  | block {comment rest : Text} (hclosing : ¬ Text.ofString "*/" <:+: comment) (h : Comments rest) :
    Comments ("/*" ++ comment ++ "*/" ++ rest)

/-- A text has a line that says that it was generated, and no code before it. -/
def CarriesHeader (content : Text) : Prop :=
  ∃ before tool after : Text,
    content = before ++ ("// Code generated " ++ tool ++ " DO NOT EDIT.") ++ after ∧
      Text.byte '\n' ∉ tool ∧ Comments before ∧
      (before = [] ∨ ∃ front, before = front ++ [Text.byte '\n']) ∧
      (after = [] ∨ ∃ back, after = Text.byte '\n' :: back)

/-- A text that begins with code carries no header. -/
theorem not_carriesHeader {content : Text} {b : UInt8} (hhead : content.head? = some b)
    (hb : b ∉ Text.ofString "/ \t\r\n") : ¬ CarriesHeader content := by
  rintro ⟨before, tool, after, rfl, -, hcomments, -⟩
  -- The first byte is white space or that of a comment, the header itself if nothing is before it.
  cases hcomments with
  | nil => exact hb (by rw [← Option.some.inj hhead]; decide)
  | blank hblank => exact hb (by rw [← Option.some.inj hhead]; exact .tail _ hblank)
  | line => exact hb (by rw [← Option.some.inj hhead]; decide)
  | block => exact hb (by rw [← Option.some.inj hhead]; decide)

theorem isHeader_iff {line : Text} : isHeader line = true ↔
    ∃ tool : Text, line = "// Code generated " ++ tool ++ " DO NOT EDIT." := by
  unfold isHeader
  constructor
  · intro h
    split at h
    case h_1 rest hrest =>
      obtain ⟨tool, rfl⟩ := Text.endsWith_iff.mp h
      exact ⟨tool, by rw [Text.dropStart?_eq_some_iff.mp hrest, List.append_assoc]⟩
    case h_2 => cases h
  · rintro ⟨tool, rfl⟩
    rw [List.append_assoc, Text.dropStart?_append]
    exact Text.endsWith_iff.mpr (List.suffix_append tool _)

/-- The comment has no line break but for what stands in the place of the tool. -/
theorem newline_not_mem_iff {tool : Text} :
    Text.byte '\n' ∉ ("// Code generated " ++ tool ++ " DO NOT EDIT." : Text) ↔
      Text.byte '\n' ∉ tool := by
  have hstart : Text.byte '\n' ∉ ("// Code generated " : Text) := by decide
  have hend : Text.byte '\n' ∉ (" DO NOT EDIT." : Text) := by decide
  simp [hstart, hend]

/-- Source code says that it was generated exactly if it has such a line. -/
theorem isGenerated_iff {content : Text} : isGenerated content = true ↔ HasHeader content := by
  unfold isGenerated
  rw [List.any_eq_true]
  constructor
  · rintro ⟨line, hline, hheader⟩
    obtain ⟨tool, rfl⟩ := isHeader_iff.mp hheader
    obtain ⟨hbreak, before, after, hcontent, hbefore, hafter⟩ := Text.mem_split_iff.mp hline
    exact ⟨before, tool, after, hcontent, newline_not_mem_iff.mp hbreak, hbefore, hafter⟩
  · rintro ⟨before, tool, after, hcontent, hbreak, hbefore, hafter⟩
    refine ⟨_, Text.mem_split_iff.mpr ?_, isHeader_iff.mpr ⟨tool, rfl⟩⟩
    exact ⟨newline_not_mem_iff.mpr hbreak, before, after, hcontent, hbefore, hafter⟩

/-! ### One call -/

/-- A write to a directory that does not replace what was not generated. -/
structure WriteCall where
  root : Text
  mode : Nat
  circumstances : Circumstances
  cancelled : Bool
  path : Text
  content : Text

namespace WriteCall

/-- The directory that a call is made to. -/
def directory (c : WriteCall) : Directory := ⟨c.root, c.mode, false⟩

/-- What the caller is told, and the tree afterwards. -/
def run (t : FileTree) (c : WriteCall) : Except Fault Unit × FileTree :=
  c.directory.write c.circumstances c.cancelled c.path c.content t

/-- Nothing stands in the way of a call: the file system does what it is asked to, the checks are
passed, the directories can be made, and the target can be replaced. -/
structure Clear (c : WriteCall) (t : FileTree) (target : Text) : Prop where
  usual : c.circumstances = .usual t
  accepted : c.directory.accept c.circumstances c.cancelled c.path t = .ok target
  unblocked : t.isBlocked target = false
  nameable : (Text.split Path.slash (Directory.folder target)).all Directory.canHold = true
  replaceable : c.directory.canReplace target t = true

/-- What a call may do to a tree: nothing if it fails, and else it sets the content of its own
path and of no other. It fails only if something stands in its way. -/
inductive Outcome (c : WriteCall) (before : FileTree) : Except Fault Unit × FileTree → Prop
  | failed (e : Fault) (hcause : ∀ target, ¬ c.Clear before target) :
      Outcome c before (.error e, before)
  | done {after : FileTree} {target : Text} (htarget : c.directory.resolve c.path = .ok target)
      (hown : (after.get? target).map (·.content) = some c.content)
      (hothers : ∀ p, p ≠ target → after.get? p = before.get? p) :
      Outcome c before (.ok (), after)

/-- A call that nothing stands in the way of sets its target. -/
theorem Clear.run_eq {c : WriteCall} {t : FileTree} {target : Text} (h : c.Clear t target) :
    c.run t = (.ok (), t.insert target (c.directory.newFile c.content)) := by
  unfold run Directory.write
  rw [h.accepted, h.usual]
  dsimp only
  rw [Directory.replace_usual, if_neg (by simp [h.unblocked, h.nameable]), if_pos h.replaceable]

theorem outcome_run (t : FileTree) (c : WriteCall) : c.Outcome t (c.run t) := by
  rcases Directory.write_cases c.directory c.circumstances c.cancelled c.path c.content t with
    ⟨e, h⟩ | ⟨target, haccept, h⟩
  · have hcause : ∀ target, ¬ c.Clear t target := by
      intro target hclear
      have hdone := hclear.run_eq
      rw [run, h] at hdone
      cases hdone
    rw [run, h]
    exact .failed e hcause
  · rw [run, h]
    refine .done (Directory.accept_eq_ok haccept).2.1 ?_ fun p hp => ?_
    · rw [FileTree.get?_insert, if_pos rfl]
      rfl
    · rw [FileTree.get?_insert, if_neg hp]

variable {t : FileTree} {p : Text} {f : StoredFile}

/-- What the guard lets pass is not there or was generated. -/
theorem isGenerated_of_guard {c : Circumstances} {rel : Text}
    (h : Directory.guard c rel p t = .ok ()) (hf : t.get? p = some f) :
    isGenerated f.content = true := by
  have hstored : t.stored p = .file f.content := by rw [FileTree.stored, hf]
  unfold Directory.guard at h
  rw [hstored] at h
  split at h
  · cases h
  · dsimp only at h
    split at h
    case isTrue hgenerated => exact hgenerated
    case isFalse => cases h

/-- A call keeps a file without the line, unless its path leads to the directory and the file is in
the place of that. -/
theorem get?_run (hf : t.get? p = some f) (hgo : p.endsWith ".go" = true)
    (hheader : ¬ HasHeader f.content) {c : WriteCall} (hroot : c.path = "." → c.root ≠ p) :
    (c.run t).2.get? p = some f := by
  rcases Directory.write_cases c.directory c.circumstances c.cancelled c.path c.content t with
    ⟨e, h⟩ | ⟨target, haccept, h⟩
  · rw [run, h]
    exact hf
  · rw [run, h, FileTree.get?_insert, if_neg, hf]
    -- If the file were the target, the guard would have looked at it.
    rintro rfl
    obtain ⟨hpath, hresolve, hguard⟩ := Directory.accept_eq_ok haccept
    have hdot : c.path ≠ "." := by
      intro hdot
      rw [hdot] at hresolve
      exact hroot hdot (Directory.resolve_dot hresolve).symm
    have hrel := Directory.endsWith_of_resolve (by decide) hpath hresolve hdot hgo
    exact hheader (isGenerated_iff.mp (isGenerated_of_guard (hguard rfl hrel) hf))

/-! ### Any number of calls -/

/-- Any number of calls keep a file without the line, unless one of them leads to a directory and
the file is in the place of that. -/
theorem get?_final {calls : List WriteCall} (hf : t.get? p = some f)
    (hgo : p.endsWith ".go" = true) (hheader : ¬ HasHeader f.content)
    (hroot : ∀ c ∈ calls, c.path = "." → c.root ≠ p) :
    (History.final run t calls).get? p = some f := by
  induction calls generalizing t with
  | nil => exact hf
  | cons c calls ih =>
    have hstep := get?_run hf hgo hheader (hroot c (.head _))
    exact ih hstep fun c' hc' => hroot c' (.tail _ hc')

/-- Whatever is written to directories, and whatever the file system does meanwhile, a file whose
name ends in `.go` and of which no line says that it was generated is as it was, if no call of the
path `.` is made to a directory in its place. Every call that fails leaves the tree as it found it,
and every other one sets the content of its own path only. A call that nothing stands in the way of
replaces what it leads to. -/
theorem handWritten_kept (t : FileTree) (calls : List WriteCall) :
    (∀ p f, t.get? p = some f → p.endsWith ".go" = true → ¬ HasHeader f.content →
      (∀ c ∈ calls, c.path = "." → c.root ≠ p) →
      (History.final run t calls).get? p = some f) ∧
    ∀ past c rest, calls = past ++ c :: rest →
      c.Outcome (History.final run t past) (c.run (History.final run t past)) ∧
      ∀ target, c.Clear (History.final run t past) target →
        (c.run (History.final run t past)).2.get? target =
          some (c.directory.newFile c.content) := by
  constructor
  · intro p f hf hgo hheader hroot
    exact get?_final hf hgo hheader hroot
  · intro past c rest _
    refine ⟨outcome_run _ c, fun target hclear => ?_⟩
    rw [hclear.run_eq, FileTree.get?_insert, if_pos rfl]

/-! ### Files that are replaced -/

/-- A file that was written by hand. -/
def byHand : StoredFile := ⟨"package books\n", 0o644⟩

/-- A file that was written by hand and quotes the line that generated code begins with. -/
def quoting : StoredFile :=
  ⟨"package books\n\nconst banner = \x60\n// Code generated by shelf. DO NOT EDIT.\n\x60\n", 0o644⟩

/-- A tree with one file. -/
def holding (f : StoredFile) : FileTree := ⟨[("/out/books.go", f)]⟩

/-- A call under the usual circumstances. -/
def usually (t : FileTree) (root path : Text) : WriteCall := ⟨root, 0, .usual t, false, path, "new"⟩

/-- A hand-written file is kept by a call that leads to it and by one that leads to its
directory. -/
theorem handWritten_kept_books :
    let calls := [usually (holding byHand) "/out" "books.go", usually (holding byHand) "/out" "."]
    (holding byHand).get? "/out/books.go" = some byHand ∧
      Text.endsWith "/out/books.go" ".go" = true ∧ ¬ HasHeader byHand.content ∧
      (History.final run (holding byHand) calls).get? "/out/books.go" = some byHand := by
  intro calls
  have hheader : ¬ HasHeader byHand.content := mt isGenerated_iff.mpr (by decide +kernel)
  have hroot : ∀ c ∈ calls, c.path = "." → c.root ≠ "/out/books.go" := by
    simp only [calls, List.forall_mem_cons, List.not_mem_nil, false_implies, implies_true, and_true]
    exact ⟨fun _ => by decide, fun _ => by decide⟩
  exact ⟨rfl, by decide, hheader,
    (handWritten_kept (holding byHand) calls).1 _ _ rfl (by decide) hheader hroot⟩

/-- Two hand-written files that are replaced: one that stands in the place of the directory, by a
call of the path `.`, and one that carries no header and quotes the line. -/
theorem handWritten_replaced :
    (¬ HasHeader byHand.content ∧
      ((usually (holding byHand) "/out/books.go" ".").run (holding byHand)).2.get?
        "/out/books.go" = some ⟨"new", 0o644⟩) ∧
    ¬ CarriesHeader quoting.content ∧
      ((usually (holding quoting) "/out" "books.go").run (holding quoting)).2.get?
        "/out/books.go" = some ⟨"new", 0o644⟩ :=
  ⟨⟨mt isGenerated_iff.mpr (by decide +kernel), by decide +kernel⟩,
    not_carriesHeader (show quoting.content.head? = some (Text.byte 'p') by decide +kernel)
      (by decide), by decide +kernel⟩

end WriteCall

end Accord
