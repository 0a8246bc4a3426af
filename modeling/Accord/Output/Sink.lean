/-
# Sinks

A sink is a place that takes files. Where a file ends up is the sink's business: all it
is told is a relative path and a content. Paths are spelled in one way only, so that two
spellings never stand for one file and no spelling leads out of the sink.

## Main definitions

* `Output.PathError`: why a path is refused;
* `Output.checkPath`: the rules of output paths;
* `Sink`: what a place does with a file;
* `Sink.allow`: the checks that every sink starts with.
-/

import Accord.Fault
import Accord.Path.Clean
import Accord.Text.Quoted

namespace Accord

namespace Output

/-- Why a path cannot name an output file. -/
inductive PathError where
  | empty
  | absolute
  | traversal
  | notClean (clean path : Text)
  deriving DecidableEq, Repr

/-- The text of the reason. -/
def PathError.message : PathError → Text
  | empty => "path is empty"
  | absolute => "absolute paths not allowed"
  | traversal => "path traversal not allowed"
  | notClean clean path =>
    "path is not clean (expected " ++ clean.quote ++ ", got " ++ path.quote ++ ")"

/-- Whether a path starts with a letter and a colon. -/
def hasDriveLetter : Text → Bool
  | letter :: colon :: _ => Text.isLetterByte letter && colon = Text.byte ':'
  | _ => false

/-- Accepts the paths that can name an output file: relative, clean, and without `..`. -/
def checkPath (p : Text) : Except PathError Unit :=
  if p.isEmpty then .error .empty
  else if p.head? = some Path.slash || hasDriveLetter p then .error .absolute
  else if (Text.split Path.slash p).contains ".." then .error .traversal
  else if Path.clean p ≠ p then .error (.notClean (Path.clean p) p)
  else .ok ()

end Output

/-- What a place does with a file: given whether the work was cancelled, a path and a
content, the place afterwards, or why it did not take the file. -/
structure Sink (τ : Type) where
  write : (cancelled : Bool) → (path content : Text) → τ → Except Fault τ

namespace Sink

/-- The checks that every sink starts with: the path, then whether the work was cancelled. -/
def allow (cancelled : Bool) (path : Text) : Except Fault Unit :=
  match Output.checkPath path with
  | .error e => .error (.context ("invalid path " ++ path.quote) (.plain e.message))
  | .ok () => if cancelled then .error .canceled else .ok ()

/-- A sink that refuses the files of one path, as a full disk does. -/
def refusing {τ : Type} (s : Sink τ) (refused : Text) : Sink τ where
  write cancelled path content place :=
    if path = refused then .error (.plain "disk full") else s.write cancelled path content place

end Sink

end Accord
