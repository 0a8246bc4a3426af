/-
# The error for a missing book

## Main definitions

* `BookNotFound`: which book was asked for, and how often;
* `BookNotFound.error`: the error that callers get;
* `BookNotFound.marshal`, `BookNotFound.receive`: the error as it writes and reads itself;
* `errors`: the declared errors of the catalog.
-/

import Accord.Catalog.Book
import Accord.Service.Envelope

namespace Accord.Catalog

/-- A book that does not exist was asked for. -/
structure BookNotFound where
  bookId : BookId
  attempt : Int
  title : Option Text := none
  deriving DecidableEq, Repr, Inhabited

namespace BookNotFound

/-- The name of the error. -/
def name : Text := "Catalog:BookNotFound"

/-- The members of the error's JSON. -/
def members (e : BookNotFound) : List (Text × Text) :=
  let fixed : List (Text × Text) :=
    [("bookId", Json.quote e.bookId), ("attempt", Text.ofInt e.attempt)]
  let title : List (Text × Text) := match e.title with
    | some t => [("title", Json.quote t)]
    | none => []
  fixed ++ title

/-- The error that callers get. -/
def error (e : BookNotFound) : ServiceError :=
  .declared ⟨"NOT_FOUND", name, ["attempt", "bookId"], e.members⟩

/-- Writes the error member by member. -/
def writer (e : BookNotFound) : ObjectWriter :=
  let w := ObjectWriter.field {} "bookId" (Wire.json (.string e.bookId))
  let w := w.field "attempt" (Wire.json (.integer 32 e.attempt))
  match e.title with
  | some t => w.field "title" (Wire.json (.present (.string t)))
  | none => w

/-- The text that the error writes for itself. -/
def marshal (e : BookNotFound) : Except Fault Text := e.writer.text

/-- The error of the members of an object. -/
def ofReader (r : ObjectReader) : Except Fault BookNotFound := do
  let bookId ← r.required "bookId" BookId.ofJson
  let attempt ← r.required "attempt" Book.readInteger
  let title ← r.optional "title" Book.readText
  return { bookId, attempt, title }

/-- The error in a JSON value. -/
def ofJson (j : Json) : Except Fault BookNotFound := do ofReader (← ObjectReader.ofJson j)

/-- Reads a text into an error that is held. -/
def receive : Text → ExceptT Fault (StateM BookNotFound) Unit := ObjectReader.receive ofReader

/-- The error that a text holds. -/
def ofText (t : Text) : Except Fault BookNotFound :=
  match Json.read t with
  | .ok j => ofJson j
  | .error _ => .error Fault.json

end BookNotFound

/-- The declared errors of the catalog. -/
def errors : ErrorRegistry :=
  ⟨[(BookNotFound.name, fun t => (BookNotFound.ofText t).map BookNotFound.error)]⟩

end Accord.Catalog
