/-
# The catalog service

The endpoints of the catalog: what an implementation offers, the routes that serve
it, and the calls of a client.

## Main definitions

* `Service`: an implementation;
* `Service.routes`: its routes;
* `Service.registerOn`: registers them;
* `Client`: the calls.
-/

import Accord.Catalog.BookNotFound
import Accord.Service.Mux

namespace Accord.Catalog

/-- An implementation of the catalog, which remembers a `σ`. -/
structure Service (σ : Type) where
  getBook : BearerToken → BookId → Serve σ Book
  searchBooks : BearerToken → (query : Text) → (limit : Option Int) → (requestId : Text) →
    Serve σ (Option (List Book))
  putBook : BearerToken → BookId → Book → Serve σ Unit
  uploadCover : BookId → (image : Text) → Serve σ Text

/-- The name of the service. -/
def serviceName : Text := "CatalogService"

/-- The path of one book. -/
def bookPath : Text := "/catalog/books/\x7bbookId\x7d"

/-- The path of all books. -/
def booksPath : Text := "/catalog/books"

/-- The path of the cover of a book. -/
def coverPath : Text := "/catalog/books/\x7bbookId\x7d/cover"

/-- The cookie that carries the credential of a search. -/
def sessionCookie : Text := "SESSION"

/-- The header that identifies a search. -/
def requestIdHeader : Text := "X-Request-Id"

/-- A text as it came. -/
def asIs (t : Text) : Except Fault Text := .ok t

/-! ### The server -/

namespace Service

variable {σ : Type} (s : Service σ)

/-- The query and the limit of a search. -/
def searchForm (q : Query) : Form (Text × Option Int) := do
  let query ← Form.required q "q" Converter.text
  let limit ← Form.field q "limit" (Converter.integer 32).optional
  return (query, limit)

/-- Serves a book. -/
def serveGetBook : Handler σ := fun _ request => do
  let token ← Serve.ofExcept request.bearerToken
  let bookId ← Serve.ofExcept (request.pathParam "bookId" asIs)
  let book ← s.getBook token bookId
  return some ⟨"catalog.Book", .ok book.json, none⟩

/-- Serves a search. -/
def serveSearchBooks : Handler σ := fun _ request => do
  let token ← Serve.ofExcept (request.cookieToken sessionCookie)
  let (query, limit) ← Serve.ofExcept (request.form searchForm)
  let requestId ← Serve.ofExcept (request.requiredHeader requestIdHeader asIs)
  let books ← s.searchBooks token query limit requestId
  return some ⟨"[]catalog.Book", .ok (Book.listJson books), none⟩

/-- Takes a book. -/
def servePutBook : Handler σ := fun _ request => do
  let token ← Serve.ofExcept request.bearerToken
  let bookId ← Serve.ofExcept (request.pathParam "bookId" asIs)
  let book ← Serve.ofExcept (request.requiredBody Book.ofText)
  s.putBook token bookId book
  return none

/-- Takes a cover and serves what became of it. -/
def serveUploadCover : Handler σ := fun _ request => do
  let bookId ← Serve.ofExcept (request.pathParam "bookId" asIs)
  let image ← s.uploadCover bookId request.body
  return some (.ofBytes image)

/-- The routes of the service in order. -/
def routes : List (Route σ) :=
  [⟨⟨serviceName, "getBook", "GET", bookPath⟩, some s.serveGetBook, .json⟩,
   ⟨⟨serviceName, "searchBooks", "GET", booksPath⟩, some s.serveSearchBooks, .json⟩,
   ⟨⟨serviceName, "putBook", "PUT", bookPath⟩, some s.servePutBook, .json⟩,
   ⟨⟨serviceName, "uploadCover", "POST", coverPath⟩, some s.serveUploadCover, .binary⟩]

/-- Registers the routes one after the other until one is refused; those before it stay. -/
def registerOn {τ : Type} (register : τ → Route σ → Except Fault τ) (table : τ) :
    Except Fault Unit × τ :=
  s.routes.foldl (fun (done, table) route =>
    match done with
    | .error f => (.error f, table)
    | .ok () =>
      match register table route with
      | .ok table => (.ok (), table)
      | .error f => (.error f, table)) (.ok (), table)

end Service

/-! ### The client -/

namespace Client

variable {σ : Type} (m : Mux σ) (id : Uuid)

/-- The request for a book. -/
def getBookRequest (token : BearerToken) (bookId : BookId) : Except Fault Request := do
  let r ← Request.make "GET" bookPath
  (r.setBearerToken token).setPathParam "bookId" (.string bookId)

/-- The request for a search. -/
def searchBooksRequest (token : BearerToken) (query : Text) (limit : Option Int)
    (requestId : Text) : Except Fault Request := do
  let r ← Request.make "GET" booksPath
  let r ← (r.setCookieToken sessionCookie token).addQuery "q" (.string query)
  let r ← match limit with
    | some n => r.addQuery "limit" (.integer 32 n)
    | none => pure r
  r.setHeader requestIdHeader (.string requestId)

/-- The request that sends a book. -/
def putBookRequest (token : BearerToken) (bookId : BookId) (book : Book) :
    Except Fault Request := do
  let r ← Request.make "PUT" bookPath
  let r ← (r.setBearerToken token).setPathParam "bookId" (.string bookId)
  return r.setJsonBody (some ⟨"catalog.Book", .ok book.json, none⟩)

/-- The request that sends a cover. -/
def uploadCoverRequest (bookId : BookId) (image : Text) : Except Fault Request := do
  let r ← Request.make "POST" coverPath
  let r ← r.setPathParam "bookId" (.string bookId)
  return (r.setBinaryBody image).expectBinary

/-- Asks for a book. -/
def getBook (token : BearerToken) (bookId : BookId) : Exchange σ Book := do
  let r ← getBookRequest token bookId
  m.call id r (.json "catalog.Book" default Book.ofText)

/-- Asks for the books of a search. -/
def searchBooks (token : BearerToken) (query : Text) (limit : Option Int)
    (requestId : Text) : Exchange σ (Option (List Book)) := do
  let r ← searchBooksRequest token query limit requestId
  m.call id r (.json "[]catalog.Book" none Book.listOfText)

/-- Sends a book. -/
def putBook (token : BearerToken) (bookId : BookId) (book : Book) : Exchange σ Unit := do
  let r ← putBookRequest token bookId book
  m.call id r .nothing

/-- Sends a cover and asks what became of it. -/
def uploadCover (bookId : BookId) (image : Text) : Exchange σ Text := do
  let r ← uploadCoverRequest bookId image
  m.call id r .bytes

end Client

end Accord.Catalog
