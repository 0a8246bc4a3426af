/-
# Books

A book of the catalog. Its rating may be absent, and tags and metadata may be empty;
what is absent or empty is left out of its JSON.

## Main definitions

* `Book`: a book, with `Book.build` for what may be left out of it;
* `Book.json`, `Book.ofJson`, `Book.ofText`: a book as JSON;
* `Book.marshal`, `Book.receive`: a book as it writes and reads itself;
* `GenreIndex`: a map from genres to books.
-/

import Accord.Catalog.Genre
import Accord.Wire.Object

namespace Accord.Catalog

/-- Identifies a book. -/
abbrev BookId := Text

namespace BookId

/-- The identifier in a JSON value. -/
def ofJson : Json → Except Fault BookId
  | .string _ id => .ok id
  | .null => .ok []
  | _ => .error Fault.json

end BookId

/-- A book of the catalog. -/
structure Book where
  id : BookId
  title : Text
  pageCount : Int
  genre : Genre
  rating : Option Double := none
  tags : List Text := []
  metadata : List (Text × Text) := []
  deriving Inhabited

namespace Book

/-! ### Building -/

/-- What a builder sets once a book has all that is required. -/
inductive Setting where
  | rating (d : Double)
  | tags (tags : List Text)
  | moreTags (tags : List Text)
  | metadata (entries : List (Text × Text))

/-- The book with something set: what was set before is replaced, except that tags can be added. -/
def build (b : Book) : Setting → Book
  | .rating d => { b with rating := some d }
  | .tags tags => { b with tags }
  | .moreTags tags => { b with tags := b.tags ++ tags }
  | .metadata entries => { b with metadata := entries }

/-! ### Reading values -/

/-- A string. -/
def readText : Json → Except Fault Text
  | .string _ t => .ok t
  | .null => .ok []
  | _ => .error Fault.json

/-- An integer of 32 bits. -/
def readInteger : Json → Except Fault Int
  | .null => .ok 0
  | j => j.int32?.mapError fun _ => Fault.json

/-- A double. -/
def readDouble (j : Json) : Except Fault Double :=
  (Double.ofJson j.source).mapError Double.WireError.fault

/-- A list of strings. -/
def readTexts : Json → Except Fault (List Text)
  | .null => .ok []
  | .array _ items => items.mapM readText
  | _ => .error Fault.json

/-- A map of strings. Of two entries with one key the last counts. -/
def readEntries : Json → Except Fault (List (Text × Text))
  | .null => .ok []
  | .object _ members => do
    let entries ← members.mapM fun (k, j) => do return (k, ← readText j)
    return entries.foldl (fun sofar (k, v) => Text.upsert k v sofar) []
  | _ => .error Fault.json

/-! ### JSON -/

/-- The members of a book's JSON. -/
def members (b : Book) : List (Text × Text) :=
  let fixed : List (Text × Text) :=
    [("id", Json.quote b.id), ("title", Json.quote b.title),
     ("pageCount", Text.ofInt b.pageCount), ("genre", b.genre.json)]
  let rating : List (Text × Text) := match b.rating with
    | some d => [("rating", d.wire)]
    | none => []
  let tags : List (Text × Text) :=
    if b.tags.isEmpty then [] else [("tags", Json.arrayOf (b.tags.map Json.quote))]
  let metadata : List (Text × Text) :=
    if b.metadata.isEmpty then []
    else [("metadata", Json.objectOf (Text.sortKeys (b.metadata.map fun (k, v) =>
      (k, Json.quote v))))]
  fixed ++ rating ++ tags ++ metadata

/-- The JSON of a book. -/
def json (b : Book) : Text := Json.objectOf b.members

/-- Writes a book member by member. -/
def writer (b : Book) : ObjectWriter :=
  let w := ObjectWriter.field {} "id" (Wire.json (.string b.id))
  let w := w.field "title" (Wire.json (.string b.title))
  let w := w.field "pageCount" (Wire.json (.integer 32 b.pageCount))
  let w := w.field "genre" (.ok b.genre.json)
  let w := match b.rating with
    | some d => w.field "rating" (Wire.json (.present (.double d)))
    | none => w
  let w := if b.tags.isEmpty then w
    else w.field "tags" (Wire.json (.list .string (b.tags.map .string)))
  if b.metadata.isEmpty then w
  else w.field "metadata" (Wire.json (.map .string .string
    (b.metadata.map fun (k, v) => (.string k, .string v))))

/-- The text that a book writes for itself. -/
def marshal (b : Book) : Except Fault Text := b.writer.text

/-- The book of the members of an object. -/
def ofReader (r : ObjectReader) : Except Fault Book := do
  let id ← r.required "id" BookId.ofJson
  let title ← r.required "title" readText
  let pageCount ← r.required "pageCount" readInteger
  let genre ← r.required "genre" Genre.ofJson
  let rating ← r.optional "rating" readDouble
  let tags ← r.optional "tags" readTexts
  let metadata ← r.optional "metadata" readEntries
  return { id, title, pageCount, genre, rating, tags := tags.getD [],
           metadata := metadata.getD [] }

/-- The book in a JSON value. -/
def ofJson (j : Json) : Except Fault Book := do ofReader (← ObjectReader.ofJson j)

/-- Reads a text into a book that is held. -/
def receive : Text → ExceptT Fault (StateM Book) Unit := ObjectReader.receive ofReader

/-- The book that a text holds. -/
def ofText (t : Text) : Except Fault Book :=
  match Json.read t with
  | .ok j => ofJson j
  | .error _ => .error Fault.json

/-- The JSON of a list of books, which may be absent. -/
def listJson : Option (List Book) → Text
  | none => "null"
  | some books => Json.arrayOf (books.map json)

/-- The list of books that a text holds. -/
def listOfText (t : Text) : Except Fault (Option (List Book)) :=
  match Json.read t with
  | .ok .null => .ok none
  | .ok (.array _ items) => (items.mapM ofJson).map some
  | _ => .error Fault.json

end Book

/-- Books by their genre, if there is such a map. -/
abbrev GenreIndex := Option (List (Genre × BookId))

namespace GenreIndex

/-- Puts an entry into a map; of two entries with one key the last counts. -/
def put (key : Genre) (id : BookId) : List (Genre × BookId) → List (Genre × BookId)
  | [] => [(key, id)]
  | (k, v) :: rest => if k = key then (k, id) :: rest else (k, v) :: put key id rest

/-- The map that a text holds. -/
def ofText (t : Text) : Except Fault GenreIndex :=
  match Json.read t with
  | .ok .null => .ok none
  | .ok (.object _ members) => do
    let entries ← members.mapM fun (k, j) => do return (Genre.mk (Text.scrub k), ← BookId.ofJson j)
    return some (entries.foldl (fun sofar (k, v) => put k v sofar) [])
  | _ => .error Fault.json

/-- The JSON of a map. -/
def json : GenreIndex → Text
  | none => "null"
  | some entries =>
    Json.objectOf (Text.sortKeys (entries.map fun (k, v) => (k.name, Json.quote v)))

end GenreIndex

end Accord.Catalog
