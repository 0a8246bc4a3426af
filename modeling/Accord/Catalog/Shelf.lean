/-
# A catalog in memory

An implementation of the catalog that remembers books, and how often a missing book
was asked for.

## Main definitions

* `Shelf`: what is remembered;
* `Shelf.service`: the implementation.
-/

import Accord.Catalog.Service

namespace Accord.Catalog

/-- The books by their identifiers, and the number of times that a missing book was asked for. -/
structure Shelf where
  books : List (BookId × Book) := []
  attempts : List (BookId × Nat) := []
  deriving Inhabited

namespace Shelf

/-- A book, or the error that tells how often it was asked for in vain. -/
def getBook (token : BearerToken) (id : BookId) : Serve Shelf Book := do
  let shelf ← Serve.state
  match shelf.books.lookup id with
  | some b => return b
  | none =>
    let attempt := (shelf.attempts.lookup id).getD 0 + 1
    Serve.update fun s => { s with attempts := Text.upsert id attempt s.attempts }
    let title : Option Text := if token.value = "titled" then some ("T:" ++ id) else none
    Serve.fail (.service (BookNotFound.error ⟨id, attempt, title⟩))

/-- The books with a text in their titles, in the order of their identifiers. -/
def found (shelf : Shelf) (query : Text) : List Book :=
  ((Text.sortKeys shelf.books).map (·.2)).filter fun b => Text.hasInfix query b.title

/-- A search: nothing is found, or a list that a limit may have cut short. -/
def searchBooks (query : Text) (limit : Option Int) (requestId : Text) :
    Serve Shelf (Option (List Book)) := do
  if requestId = "timeout" then Serve.fail (.context "search" .deadline)
  else
    let books := (← Serve.state).found query
    let all : Option (List Book) := if books.isEmpty then none else some books
    match limit with
    | none => return all
    | some n =>
      if n < 0 then Serve.fail (.plain ("negative limit " ++ Text.ofInt n))
      else return all.map (·.take n.toNat)

/-- Puts a book under its own identifier. -/
def putBook (id : BookId) (book : Book) : Serve Shelf Unit :=
  if book.id = id then Serve.update fun s => { s with books := Text.upsert id book s.books }
  else Serve.fail (.mark .invalidArgument ("id mismatch: " ++ id ++ " and " ++ book.id))

/-- A cover, reversed. -/
def uploadCover (id : BookId) (image : Text) : Serve Shelf Text :=
  if id = "panic" then throw (.panic "cover exploded")
  else if image.isEmpty then
    Serve.fail (.service (.generic
      (GenericError.withParam ⟨"CUSTOM_CLIENT", "Catalog:EmptyCover", []⟩ "bookId" (.string id))))
  else return image.reverse

/-- The implementation. -/
def service : Service Shelf where
  getBook := getBook
  searchBooks _ := searchBooks
  putBook _ := putBook
  uploadCover := uploadCover

end Shelf

end Accord.Catalog
