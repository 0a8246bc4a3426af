/-
# Where the requests of the catalog go

The catalog registers four routes, two of which take the same method and nested paths. The request
for a book goes to its own endpoint, except for the book without an identifier: its path ends in a
slash that does not count, and what is left is the path of a search.

## Main definitions

* `Service.table`: the routes of the catalog in the table of a mux;
* `Keeps`: a request goes to its own endpoint or is not served at all.

## Main results

* `Service.registerOn_eq`: registering the catalog on an empty mux succeeds;
* `find?_bookAddress`, `find?_put_bookAddress`, `find?_coverAddress`, `find?_booksAddress`: the
  route of each request;
* `keeps_iff`: which requests go to their own endpoint or nowhere.
-/

import Accord.Catalog.Shelf
import Accord.Proofs.Path.RoundTrip
import Accord.Proofs.Service.Calls
import Accord.Proofs.Service.Envelope

namespace Accord.Catalog

open Template

variable {σ : Type} {s : Service σ} {m : Mux σ} {path : Text} {bookId : BookId}

/-! ### Templates -/

/-- The parameter that identifies a book. -/
def bookIdParameter : Parameter := ⟨"bookId", none⟩

/-- The template of all books. -/
def booksTemplate : Template := [.fixed "catalog", .fixed "books"]

/-- The template of one book. -/
def bookTemplate : Template := booksTemplate ++ [.parameter bookIdParameter]

/-- The template of the cover of a book. -/
def coverTemplate : Template := bookTemplate ++ [.fixed "cover"]

theorem parse_booksPath : parse booksPath = .ok booksTemplate := rfl

theorem parse_coverPath : parse coverPath = .ok coverTemplate := rfl

/-- The values that identify a book in a path. -/
def bookIdValues (bookId : BookId) : Values := [("bookId", bookId)]

/-- The address of all books. -/
def booksAddress : Text := "/catalog/books"

/-- The address of one book. -/
def bookAddress (bookId : BookId) : Text :=
  pathOf (bookIdValues bookId) booksTemplate
    (part (bookIdValues bookId) true (.parameter bookIdParameter))

/-- The address of the cover of a book. -/
def coverAddress (bookId : BookId) : Text :=
  pathOf (bookIdValues bookId) bookTemplate (part (bookIdValues bookId) true (.fixed "cover"))

theorem binds_bookIdValues {t : Template} (h : t.names = [bookIdParameter.name])
    (bookId : BookId) : Binds (bookIdValues bookId) t := by
  intro name hname
  rw [h, List.mem_singleton] at hname
  subst hname
  rfl

theorem expand_booksTemplate : expand booksTemplate [] = .ok booksAddress := by decide +kernel

theorem expand_bookTemplate (bookId : BookId) :
    expand bookTemplate (bookIdValues bookId) = .ok (bookAddress bookId) :=
  expand_append (binds_bookIdValues (by decide) bookId)

theorem expand_coverTemplate (bookId : BookId) :
    expand coverTemplate (bookIdValues bookId) = .ok (coverAddress bookId) :=
  expand_append (binds_bookIdValues (by decide) bookId)

/-- The address of a book gives its identifier back, if it has one. -/
theorem matchPath?_bookAddress (bookId : BookId) :
    bookTemplate.matchPath? (bookAddress bookId) =
      if bookId = [] then none else some (bookIdValues bookId) := by
  have hfront : ∀ s ∈ booksTemplate, s.IsSolid := isSolid_of_parse parse_booksPath
  have hmatch : bookTemplate.matchPath? (bookAddress bookId) = _ :=
    matchPathWith?_expand_parameter hfront
  have harriving : arriving (bookIdValues bookId) bookIdParameter = bookId := rfl
  -- A parameter without a pattern takes every text but the empty one.
  have htakes : takesWith fullMatch bookIdParameter bookId = !bookId.isEmpty := rfl
  have hall : booksTemplate.all (admits fullMatch (bookIdValues bookId)) = true := rfl
  rw [harriving, htakes, hall] at hmatch
  refine hmatch.trans ?_
  cases bookId <;> rfl

/-- The address of a cover gives the identifier of its book back, if it has one. -/
theorem matchPath?_coverAddress (bookId : BookId) :
    coverTemplate.matchPath? (coverAddress bookId) =
      if bookId = [] then none else some (bookIdValues bookId) := by
  have hmatch : coverTemplate.matchPath? (coverAddress bookId) = _ :=
    matchPathWith?_expand_fixed (isSolid_of_parse parse_coverPath)
  have hall : bookTemplate.all (admits fullMatch (bookIdValues bookId)) = !bookId.isEmpty := by
    cases bookId <;> rfl
  rw [hall] at hmatch
  refine hmatch.trans ?_
  cases bookId <;> rfl

/-- The address of a book has one part more than the address of all books. -/
theorem matchPath?_books_bookAddress (h : bookId ≠ []) :
    booksTemplate.matchPath? (bookAddress bookId) = none := by
  have hfront : ∀ s ∈ booksTemplate, s.IsSolid := isSolid_of_parse parse_booksPath
  have hne : part (bookIdValues bookId) true (.parameter bookIdParameter) ≠ [] := fun he =>
    h (Percent.escapeSegment_eq_nil_iff.mp he)
  have hsplit := Text.split_ne_nil slash
    (trimmed (part (bookIdValues bookId) true (.parameter bookIdParameter)))
  rw [matchPath?, matchPathWith?, bookAddress, pathOf, partsOf?_join (slash_not_mem_part hfront), if_neg hne,
    Option.bind_eq_bind, Option.bind_some, fit?_eq_none _ rfl]
  · rfl
  · simpa [booksTemplate] using hsplit

/-! ### The table -/

namespace Service

/-- The route for a book. -/
def getBookRoute (s : Service σ) : Registered σ where
  route := ⟨⟨serviceName, "getBook", "GET", bookPath⟩, some s.serveGetBook, .json⟩
  handler := s.serveGetBook
  template := bookTemplate

/-- The route for a search. -/
def searchBooksRoute (s : Service σ) : Registered σ where
  route := ⟨⟨serviceName, "searchBooks", "GET", booksPath⟩, some s.serveSearchBooks, .json⟩
  handler := s.serveSearchBooks
  template := booksTemplate

/-- The route that takes a book. -/
def putBookRoute (s : Service σ) : Registered σ where
  route := ⟨⟨serviceName, "putBook", "PUT", bookPath⟩, some s.servePutBook, .json⟩
  handler := s.servePutBook
  template := bookTemplate

/-- The route that takes a cover. -/
def uploadCoverRoute (s : Service σ) : Registered σ where
  route := ⟨⟨serviceName, "uploadCover", "POST", coverPath⟩, some s.serveUploadCover, .binary⟩
  handler := s.serveUploadCover
  template := coverTemplate

/-- The routes of the catalog in the table of a mux. -/
def table (s : Service σ) : List (Registered σ) :=
  [s.getBookRoute, s.searchBooksRoute, s.putBookRoute, s.uploadCoverRoute]

/-- Registering the catalog on an empty mux succeeds. -/
theorem registerOn_eq (s : Service σ) (hm : m.routes = []) :
    s.registerOn Mux.register m = (.ok (), { m with routes := s.table }) := by
  obtain ⟨routes, interceptors, logs, registry⟩ := m
  obtain rfl : routes = [] := hm
  rfl

end Service

/-! ### Routes by method -/

theorem find?_get_of_books (hm : m.routes = s.table)
    (h : booksTemplate.matchPath? path = none) :
    m.find? "GET" path = (bookTemplate.matchPath? path).map (s.getBookRoute, ·) := by
  simp only [Mux.find?, hm, Service.table, List.foldl_cons, List.foldl_nil, Mux.consider,
    Service.searchBooksRoute, h]
  cases hbook : bookTemplate.matchPath? path <;>
    simp only [Service.getBookRoute, hbook] <;> rfl

theorem find?_get_of_book (hm : m.routes = s.table)
    (h : bookTemplate.matchPath? path = none) :
    m.find? "GET" path = (booksTemplate.matchPath? path).map (s.searchBooksRoute, ·) := by
  simp only [Mux.find?, hm, Service.table, List.foldl_cons, List.foldl_nil, Mux.consider,
    Service.getBookRoute, h]
  cases hbooks : booksTemplate.matchPath? path <;>
    simp only [Service.searchBooksRoute, hbooks] <;> rfl

theorem find?_put (hm : m.routes = s.table) (path : Text) :
    m.find? "PUT" path = (bookTemplate.matchPath? path).map (s.putBookRoute, ·) := by
  simp only [Mux.find?, hm, Service.table, List.foldl_cons, List.foldl_nil, Mux.consider]
  cases hbook : bookTemplate.matchPath? path <;>
    simp only [Service.putBookRoute, hbook] <;> rfl

theorem find?_post (hm : m.routes = s.table) (path : Text) :
    m.find? "POST" path = (coverTemplate.matchPath? path).map (s.uploadCoverRoute, ·) := by
  simp only [Mux.find?, hm, Service.table, List.foldl_cons, List.foldl_nil, Mux.consider]
  cases hcover : coverTemplate.matchPath? path <;>
    simp only [Service.uploadCoverRoute, hcover] <;> rfl

/-! ### The route of each request -/

/-- The request for a book goes to its own route. -/
theorem find?_bookAddress (hm : m.routes = s.table) (h : bookId ≠ []) :
    m.find? "GET" (bookAddress bookId) = some (s.getBookRoute, bookIdValues bookId) := by
  rw [find?_get_of_books hm (matchPath?_books_bookAddress h), matchPath?_bookAddress, if_neg h]
  rfl

/-- The request for the book without an identifier goes to the route for a search. -/
theorem find?_bookAddress_nil (hm : m.routes = s.table) :
    m.find? "GET" (bookAddress []) = some (s.searchBooksRoute, []) := by
  -- The slash at the end of the address does not count.
  have hbooks : booksTemplate.matchPath? (bookAddress []) = some [] := by decide +kernel
  rw [find?_get_of_book hm (matchPath?_bookAddress []), hbooks]
  rfl

/-- The request for a search goes to its own route. -/
theorem find?_booksAddress (hm : m.routes = s.table) :
    m.find? "GET" booksAddress = some (s.searchBooksRoute, []) := by
  have hbook : bookTemplate.matchPath? booksAddress = none := by decide +kernel
  have hbooks : booksTemplate.matchPath? booksAddress = some [] := by decide +kernel
  rw [find?_get_of_book hm hbook, hbooks]
  rfl

/-- The request that sends a book goes to its own route. -/
theorem find?_put_bookAddress (hm : m.routes = s.table) (h : bookId ≠ []) :
    m.find? "PUT" (bookAddress bookId) = some (s.putBookRoute, bookIdValues bookId) := by
  rw [find?_put hm, matchPath?_bookAddress, if_neg h]
  rfl

/-- The request that sends a cover goes to its own route. -/
theorem find?_coverAddress (hm : m.routes = s.table) (h : bookId ≠ []) :
    m.find? "POST" (coverAddress bookId) = some (s.uploadCoverRoute, bookIdValues bookId) := by
  rw [find?_post hm, matchPath?_coverAddress, if_neg h]
  rfl

/-! ### Requests -/

/-- The headers of a request with a token. -/
def tokenHeader (token : BearerToken) : Header :=
  [("Authorization", ["Bearer " ++ token.value])]

/-- A request about a book. -/
def bookRequest (method : Text) (token : BearerToken) (bookId : BookId)
    (body : Option Payload) : Request where
  method := method
  template := bookTemplate
  pathParams := bookIdValues bookId
  header := tokenHeader token
  body := body

/-- The request that sends a cover. -/
def coverRequest (bookId : BookId) (image : Text) : Request where
  method := "POST"
  template := coverTemplate
  pathParams := bookIdValues bookId
  body := some (.ofBytes image)
  bodyCodec := .binary
  responseCodec := .binary

theorem getBookRequest_eq (token : BearerToken) (bookId : BookId) :
    Client.getBookRequest token bookId = .ok (bookRequest "GET" token bookId none) := rfl

theorem putBookRequest_eq (token : BearerToken) (bookId : BookId) (book : Book) :
    Client.putBookRequest token bookId book =
      .ok (bookRequest "PUT" token bookId (some ⟨"catalog.Book", .ok book.json, none⟩)) := rfl

theorem uploadCoverRequest_eq (bookId : BookId) (image : Text) :
    Client.uploadCoverRequest bookId image = .ok (coverRequest bookId image) := rfl

theorem path_bookRequest (method : Text) (token : BearerToken) (bookId : BookId)
    (body : Option Payload) :
    (bookRequest method token bookId body).path = .ok (bookAddress bookId) := by
  rw [Request.path, bookRequest, expand_bookTemplate]
  rfl

theorem path_coverRequest (bookId : BookId) (image : Text) :
    (coverRequest bookId image).path = .ok (coverAddress bookId) := by
  rw [Request.path, coverRequest, expand_coverTemplate]
  rfl

/-! ### Requests that stay with their endpoint -/

/-- A request goes to its own endpoint or is not served at all: it is dispatched to the handler of
the endpoint of a name, or the caller is told that nothing is served at its address. -/
inductive Keeps (s : Service σ) (m : Mux σ) (id : Uuid) (name : Text)
    (request : Except Fault Request) : Prop
  | served {r : Request} {path : Text} {found : Registered σ} {values : Values}
      (hrequest : request = .ok r) (hpath : r.path = .ok path)
      (hfind : m.find? r.method path = some (found, values)) (hroute : found.route ∈ s.routes)
      (hhandler : found.route.handler? = some found.handler)
      (hname : found.route.endpoint.name = name)
  | unserved {r : Request} {path : Text} (hrequest : request = .ok r)
      (hpath : r.path = .ok path) (hfind : m.find? r.method path = none)
      (hanswer : ∀ {α : Type} (receiver : Receiver α) (session : Session σ),
        m.call id r receiver session =
          (.error (.service (.generic
            (GenericError.notFound.withParam "path" (.string path)))), session))

/-- The endpoint that a request is dispatched to is the only one it can stay with. -/
theorem Keeps.name_eq {id : Uuid} {name : Text} {r : Request} {found : Registered σ}
    {values : Values} (h : Keeps s m id name (.ok r)) (hpath : r.path = .ok path)
    (hfind : m.find? r.method path = some (found, values)) :
    found.route.endpoint.name = name := by
  cases h with
  | served hrequest hpath' hfind' _ _ hname =>
    obtain rfl := Except.ok.inj hrequest
    obtain rfl := Except.ok.inj (hpath.symm.trans hpath')
    obtain ⟨rfl, rfl⟩ := Prod.mk.inj (Option.some.inj (hfind.symm.trans hfind'))
    exact hname
  | unserved hrequest hpath' hfind' _ =>
    obtain rfl := Except.ok.inj hrequest
    obtain rfl := Except.ok.inj (hpath.symm.trans hpath')
    rw [hfind] at hfind'
    cases hfind'

/-- A request to an address where nothing is served. -/
theorem keeps_of_none {id : Uuid} {name : Text} {r : Request} (hpath : r.path = .ok path)
    (hfind : m.find? r.method path = none) (hutf8 : path.isUtf8 = true)
    (hcompact : Json.compact (GenericError.paramJson "path" path) =
      GenericError.paramJson "path" path)
    (hregistry : m.registry.decoders.lookup GenericError.notFound.name = none) :
    Keeps s m id name (.ok r) := by
  refine .unserved rfl hpath hfind fun receiver session => ?_
  rw [Mux.call_of_none hpath hfind,
    Mux.receivedFault_withParam rfl (by decide +kernel) (by decide +kernel) (by decide +kernel)
      hutf8 hcompact hregistry]

/-- The request for a book stays with its endpoint exactly if the book has an identifier. -/
theorem keeps_getBook_iff (hm : m.routes = s.table) (id : Uuid) (token : BearerToken) :
    Keeps s m id "getBook" (Client.getBookRequest token bookId) ↔ bookId ≠ [] := by
  constructor
  · rintro hkeeps rfl
    have hname : ("searchBooks" : Text) = "getBook" :=
      hkeeps.name_eq (path_bookRequest "GET" token [] none) (find?_bookAddress_nil hm)
    exact absurd hname (by decide)
  · intro h
    exact .served (getBookRequest_eq token bookId) (path_bookRequest _ token bookId none)
      (find?_bookAddress hm h) (by simp [Service.routes, Service.getBookRoute]) rfl rfl

theorem keeps_putBook (hm : m.routes = s.table)
    (hregistry : m.registry.decoders.lookup GenericError.notFound.name = none) (id : Uuid)
    (token : BearerToken) (bookId : BookId) (book : Book) :
    Keeps s m id "putBook" (Client.putBookRequest token bookId book) := by
  by_cases h : bookId = []
  · subst h
    have hnone : m.find? "PUT" (bookAddress []) = none := by
      rw [find?_put hm, matchPath?_bookAddress]
      rfl
    exact keeps_of_none (path_bookRequest "PUT" token [] _) hnone (by decide +kernel)
      (by decide +kernel) hregistry
  · exact .served (putBookRequest_eq token bookId book) (path_bookRequest _ token bookId _)
      (find?_put_bookAddress hm h) (by simp [Service.routes, Service.putBookRoute]) rfl rfl

theorem keeps_uploadCover (hm : m.routes = s.table)
    (hregistry : m.registry.decoders.lookup GenericError.notFound.name = none) (id : Uuid)
    (bookId : BookId) (image : Text) :
    Keeps s m id "uploadCover" (Client.uploadCoverRequest bookId image) := by
  by_cases h : bookId = []
  · subst h
    have hnone : m.find? "POST" (coverAddress []) = none := by
      rw [find?_post hm, matchPath?_coverAddress]
      rfl
    exact keeps_of_none (path_coverRequest [] image) hnone (by decide +kernel)
      (by decide +kernel) hregistry
  · exact .served (uploadCoverRequest_eq bookId image) (path_coverRequest bookId image)
      (find?_coverAddress hm h) (by simp [Service.routes, Service.uploadCoverRoute]) rfl rfl

/-- **Requests stay with their endpoint, but for one book.** With the catalog registered on an
empty mux, the requests that send a book or a cover go to their own endpoints or are answered that
nothing is there. So does the request for a book exactly if the book has an identifier. -/
theorem keeps_iff (s : Service σ) {m : Mux σ} (hm : m.routes = [])
    (hregistry : m.registry.decoders.lookup GenericError.notFound.name = none) (id : Uuid)
    (token : BearerToken) (bookId : BookId) (book : Book) (image : Text) :
    ∃ served, s.registerOn Mux.register m = (.ok (), served) ∧
      (Keeps s served id "getBook" (Client.getBookRequest token bookId) ↔ bookId ≠ []) ∧
      Keeps s served id "putBook" (Client.putBookRequest token bookId book) ∧
      Keeps s served id "uploadCover" (Client.uploadCoverRequest bookId image) := by
  have htable : ({ m with routes := s.table } : Mux σ).routes = s.table := rfl
  exact ⟨_, s.registerOn_eq hm, keeps_getBook_iff htable id token,
    keeps_putBook htable hregistry id token bookId book,
    keeps_uploadCover htable hregistry id bookId image⟩

/-- A book whose identifier looks like the path of a cover. -/
theorem keeps_iff_slashed_cover :
    ({} : Mux Shelf).routes = [] ∧
      ({} : Mux Shelf).registry.decoders.lookup GenericError.notFound.name = none ∧
    ∃ served, Shelf.service.registerOn Mux.register {} = (.ok (), served) ∧
      (Keeps Shelf.service served .zero "getBook" (Client.getBookRequest ⟨"abc"⟩ "../x/cover") ↔
        ("../x/cover" : Text) ≠ []) ∧
      Keeps Shelf.service served .zero "putBook"
        (Client.putBookRequest ⟨"abc"⟩ "../x/cover" default) ∧
      Keeps Shelf.service served .zero "uploadCover"
        (Client.uploadCoverRequest "../x/cover" []) :=
  ⟨rfl, rfl, keeps_iff Shelf.service rfl rfl .zero ⟨"abc"⟩ "../x/cover" default []⟩

/-- The request for the book without an identifier is dispatched to the handler of a search. -/
theorem getBook_without_id_searches :
    ∃ r path found values, Client.getBookRequest ⟨"abc"⟩ [] = .ok r ∧ r.path = .ok path ∧
      (Shelf.service.registerOn Mux.register {}).2.find? r.method path = some (found, values) ∧
      found.route.endpoint.name = "searchBooks" ∧
      ¬ Keeps Shelf.service (Shelf.service.registerOn Mux.register {}).2 .zero "getBook"
        (Client.getBookRequest ⟨"abc"⟩ []) := by
  have htable : (Shelf.service.registerOn Mux.register {}).2.routes = Shelf.service.table := rfl
  refine ⟨_, _, _, _, getBookRequest_eq ⟨"abc"⟩ [], path_bookRequest _ ⟨"abc"⟩ [] none,
    find?_bookAddress_nil htable, rfl, fun hkeeps => ?_⟩
  exact (keeps_getBook_iff htable .zero ⟨"abc"⟩).mp hkeeps rfl

end Accord.Catalog
