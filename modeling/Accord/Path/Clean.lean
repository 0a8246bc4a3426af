/-
# Slash-separated paths

The shortest spelling of a path, and the operations that keep paths in it.

## Main definitions

* `Path.clean`: the shortest spelling of a path;
* `Path.join`: several paths one below the other;
* `Path.base`, `Path.dir`: the last element of a path, and what precedes it;
* `Path.extension`: the ending of a file name from its last dot on.
-/

import Accord.Text.Basic

namespace Accord.Path

/-- The byte between the elements of a path. -/
def slash : UInt8 := Text.byte '/'

/-- Adds an element to the elements of a path, the last one first. An element `..` takes back
the one before it; where there is none it stays, unless the path starts at the root. -/
def step (rooted : Bool) (sofar : List Text) (element : Text) : List Text :=
  if element.isEmpty || element = "." then sofar
  else if element = ".." then
    match sofar with
    | [] => if rooted then [] else [element]
    | last :: rest => if last = ".." then element :: sofar else rest
  else element :: sofar

/-- The shortest spelling of a path: no empty elements, no `.`, and `..` only at the start of a
path that does not start at the root. -/
def clean (t : Text) : Text :=
  let rooted := t.head? = some slash
  let elements := ((Text.split slash t).foldl (step rooted) []).reverse
  let body := Text.join "/" elements
  if rooted then slash :: body else if body.isEmpty then "." else body

/-- Several paths one below the other; empty ones are left out. -/
def join (ts : List Text) : Text :=
  let ts := ts.filter (!·.isEmpty)
  if ts.isEmpty then [] else clean (Text.join "/" ts)

/-- The last element of a path. -/
def base (t : Text) : Text :=
  if t.isEmpty then "."
  else
    let t := Text.dropRightWhile (· = slash) t
    if t.isEmpty then "/" else ((Text.cutLast? slash t).map (·.2)).getD t

/-- The path of the directory that a path is in. -/
def dir (t : Text) : Text :=
  match Text.cutLast? slash t with
  | none => "."
  | some (before, _) => clean (before ++ [slash])

/-- The ending of the last element of a path from its last dot on. -/
def extension (t : Text) : Text :=
  let name := ((Text.cutLast? slash t).map (·.2)).getD t
  match Text.cutLast? (Text.byte '.') name with
  | none => []
  | some (_, ending) => "." ++ ending

end Accord.Path
