/-
# TOML documents

The statements of a document make up one table. A name is given once, except that a table
that was only passed through on the way to another may still get its own header.

## Main definitions

* `Toml.Document`: the root table, with the keys in the order of the text and their lines;
* `Toml.Document.add`: the document with one more statement;
* `Toml.read`: the document of a text.
-/

import Accord.Toml.Syntax

namespace Accord.Toml

/-- The entries of a table. -/
abbrev Entries := List (Text × Toml)

/-- A document as far as it is read. -/
structure Document where
  root : Entries := []
  /-- All keys that the text spells out, in its order. -/
  keys : List Key := []
  /-- The lines of the keys with a value or header, and whether the value is a list. -/
  places : List (Key × Nat × Bool) := []
  /-- The tables that were only passed through. -/
  passed : List Key := []
  /-- The table that the next keys are in. -/
  current : Key := []
  deriving Inhabited

/-- A step that may find a contradiction. -/
abbrev Build := StateT Document Option

/-- Changes the table at a key. In a list of tables that is the last one. -/
def alter (f : Entries → Option Entries) : Key → Entries → Option Entries
  | [], entries => f entries
  | k :: rest, entries =>
    match entries.lookup k with
    | some (.table t) => (alter f rest t).map fun t => Text.upsert k (.table t) entries
    | some (.tables ts) =>
      match ts.getLast? with
      | some t => (alter f rest t).map fun t =>
          Text.upsert k (.tables (ts.dropLast ++ [t])) entries
      | none => none
    | _ => none

/-- The table at a key. -/
def tableAt : Key → Entries → Option Entries
  | [], entries => some entries
  | k :: rest, entries =>
    match entries.lookup k with
    | some (.table t) => tableAt rest t
    | some (.tables ts) => ts.getLast?.bind (tableAt rest)
    | _ => none

namespace Document

/-- The line of a key. -/
def line? (d : Document) (k : Key) : Option Nat := (d.places.lookup k).map (·.1)

/-- Records where a key stands. -/
def place (k : Key) (line : Nat) (isList : Bool) : Build Unit :=
  modify fun d => { d with places := (k, line, isList) :: d.places }

/-- Records that a table was only passed through. -/
def pass (k : Key) : Build Unit :=
  modify fun d => { d with passed := if d.passed.contains k then d.passed else k :: d.passed }

/-- Takes that back. -/
def unpass (k : Key) : Build Unit :=
  modify fun d => { d with passed := d.passed.filter (· != k) }

/-- Changes the table at a key. -/
def change (k : Key) (f : Entries → Option Entries) : Build Unit := do
  let d ← get
  let root ← monadLift (alter f k d.root)
  set { d with root }

/-- The table at a key. -/
def within (k : Key) : Build Entries := do monadLift (tableAt k (← get).root)

/-- Gives a name in a table its value. A name has a value already if it is a list whose
elements were read before it, or a table that was only passed through; the latter is kept. -/
def give (table : Key) (name : Text) (value : Toml) : Build Unit := do
  let full := table ++ [name]
  if ((← within table).lookup name).isSome then
    let d ← get
    if ((d.places.lookup full).map (·.2)).getD false then
      unpass full
      change table fun es => some (Text.upsert name value es)
    else if d.passed.contains full then unpass full
    else failure
  else change table fun es => some (Text.upsert name value es)

/-- Makes the tables on the way to a key that are not there yet. -/
def passThrough : (done rest : Key) → Build Unit
  | _, [] => return
  | done, k :: rest => do
    if ((← within done).lookup k).isNone then
      pass (done ++ [k])
      change done fun es => some (Text.upsert k (.table []) es)
    discard (within (done ++ [k]))
    passThrough (done ++ [k]) rest

/-- Starts the table of a key, or the next of its list of tables. -/
def enter (k : Key) (inList : Bool) : Build Unit := do
  let table := k.dropLast
  let name := k.getLast?.getD []
  passThrough [] table
  if inList then
    match (← within table).lookup name with
    | none => change table fun es => some (Text.upsert name (.tables [[]]) es)
    | some (.tables ts) =>
      change table fun es => some (Text.upsert name (.tables (ts ++ [[]])) es)
    | some _ => failure
  else give table name (.table [])

/-- Starts the tables of the names of a key but the last, each below the one before it. -/
def enterAll : (done rest : Key) → Build Unit
  | _, [] => return
  | done, k :: rest => do
    pass (done ++ [k])
    enter (done ++ [k]) false
    enterAll (done ++ [k]) rest

mutual

/-- The value of a key. The entries of a table in braces are given one by one. -/
def evaluate (full : Key) (inList : Bool) (line : Nat) : Raw → Build Toml
  | .text t => return .text t
  | .integer n => return .integer n
  | .decimal t => return .decimal t
  | .flag b => return .flag b
  | .time t => return .time t
  | .list items => do
    place full line true
    return .list (← evaluateAll full line items)
  | .table es => do
    pass full
    enter full inList
    assignAll full es
    return .table (← within full)

/-- The values of the items of a list. -/
def evaluateAll (full : Key) (line : Nat) : List Raw → Build (List Toml)
  | [] => return []
  | r :: rest => do
    let v ← evaluate full true line r
    return v :: (← evaluateAll full line rest)

/-- Gives values to the keys of a table. -/
def assignAll (table : Key) : List (Key × Nat × Raw) → Build Unit
  | [] => return
  | (k, line, r) :: rest => do
    let inner := table ++ k.dropLast
    let full := table ++ k
    enterAll table k.dropLast
    modify fun d => { d with keys := d.keys ++ [full] }
    let v ← evaluate full false line r
    give inner (k.getLast?.getD []) v
    place full line (match v with | .list _ => true | _ => false)
    assignAll table rest

end

/-- Reads one more statement. -/
def add : Statement → Build Unit
  | .header k line => do
    enter k false
    place k line false
    modify fun d => { d with keys := d.keys ++ [k], current := k }
  | .listHeader k line => do
    enter k true
    place k line false
    modify fun d => { d with keys := d.keys ++ [k], current := k }
  | .assign k value line => do assignAll (← get).current [(k, line, value)]

end Document

/-- The document of a text. -/
def read (t : Text) : Option Document := do
  let statements ← statements? t
  let ((), d) ← (statements.forM Document.add).run {}
  return d

end Accord.Toml
