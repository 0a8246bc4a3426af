/-
# The client and the server of the catalog

The calls of a client and the handlers of the server are written apart from each
other. Over a mux they are transparent: a call runs the method of its name once, with
the arguments of the client, and the client gets what the method gives. Between the
two lie the address and the choice of a route, headers, a cookie and a form, and
bodies as JSON and as bytes.

## Main definitions

* `Runs`: a call runs a method once and is answered with its outcome.

## Main results

* `runs_getBook`, `runs_searchBooks`, `runs_putBook`, `runs_uploadCover`: the calls;
* `client_transparent`: the client of a catalog that is registered on an empty mux.
-/

import Accord.Proofs.Catalog.Books
import Accord.Proofs.Catalog.Routes
import Accord.Proofs.Service.Arguments

namespace Accord.Catalog

variable {σ α β : Type} {s : Service σ} {m : Mux σ} {id : Uuid} {token : BearerToken}
  {bookId : BookId}

/-! ### Calls that run a method -/

/-- A call runs a method once and is answered with its outcome. What the method gives arrives as
the same value, if it can be sent at all, and its failure as a fault. The caller finds the state
that the one run has left. -/
structure Runs (Sendable : α → Prop) (Same : α → β → Prop) (method : Serve σ α)
    (call : Exchange σ β) : Prop where
  ok : ∀ {session after a}, method session = (.ok a, after) →
    ∃ result, call session = (result, after) ∧ (Sendable a → ∃ b, result = .ok b ∧ Same a b)
  error : ∀ {session after halt}, method session = (.error halt, after) →
    ∃ f noted, call session = (.error f, noted) ∧ noted.state = after.state

theorem state_noted (e : LogEntry) (session : Session σ) :
    (m.noted e session).state = session.state := by
  unfold Mux.noted Mux.report
  split <;> rfl

/-- A dispatched call runs a method if its handler does nothing but run it and wrap the result. -/
theorem runs_of_handler {r : Request} {path : Text} {found : Registered σ}
    {values : Template.Values} {seen : Incoming} (hpath : r.path = .ok path)
    (hfind : m.find? r.method path = some (found, values))
    (hseen : Mux.incoming r values = .ok seen) (hno : m.interceptors = [])
    {receiver : Receiver β} {method : Serve σ α} (wrap : α → Option Payload)
    (hhandler : found.handler (some found.route.endpoint) seen =
      method >>= fun a => pure (wrap a))
    {Sendable : α → Prop} {Same : α → β → Prop}
    (harrives : ∀ a, Sendable a →
      ∃ b, Mux.receive found r.responseCodec receiver (wrap a) = .ok b ∧ Same a b) :
    Runs Sendable Same method (m.call id r receiver) := by
  have hcall : ∀ session, m.call id r receiver session =
      m.answer id found.route.endpoint
        (fun a => Mux.receive found r.responseCodec receiver (wrap a)) (method session) := by
    intro session
    rw [Mux.call_of_find? hpath hfind hseen hno, hhandler, Mux.answer_bind_pure]
  constructor
  · intro session after a hmethod
    refine ⟨Mux.receive found r.responseCodec receiver (wrap a), ?_, harrives a⟩
    rw [hcall, hmethod]
    rfl
  · intro session after halt hmethod
    rw [hcall, hmethod]
    cases halt with
    | fault f => exact ⟨_, _, rfl, state_noted _ after⟩
    -- A breakdown is logged twice: when it is recovered from and as the failure of the call.
    | panic message => exact ⟨_, _, rfl, (state_noted _ _).trans (state_noted _ after)⟩

/-! ### Handlers -/

section

variable (endpoint : Option Endpoint) {seen : Incoming}

/-- A handler that has its arguments runs the method for a book. -/
theorem serveGetBook_eq (htoken : seen.bearerToken = .ok token)
    (hid : seen.pathParam "bookId" asIs = .ok bookId) :
    s.serveGetBook endpoint seen =
      s.getBook token bookId >>= fun book =>
        pure (some ⟨"catalog.Book", .ok book.json, none⟩) := by
  unfold Service.serveGetBook
  rw [htoken, Serve.ofExcept_ok_bind, hid, Serve.ofExcept_ok_bind]

/-- A handler that has its arguments runs the search. -/
theorem serveSearchBooks_eq {query requestId : Text} {limit : Option Int}
    (htoken : seen.cookieToken sessionCookie = .ok token)
    (hform : seen.form Service.searchForm = .ok (query, limit))
    (hrequestId : seen.requiredHeader requestIdHeader asIs = .ok requestId) :
    s.serveSearchBooks endpoint seen =
      s.searchBooks token query limit requestId >>= fun books =>
        pure (some ⟨"[]catalog.Book", .ok (Book.listJson books), none⟩) := by
  unfold Service.serveSearchBooks
  rw [htoken, Serve.ofExcept_ok_bind, hform, Serve.ofExcept_ok_bind]
  dsimp only
  rw [hrequestId, Serve.ofExcept_ok_bind]

/-- A handler that has its arguments runs the method that takes a book. -/
theorem servePutBook_eq {book : Book} (htoken : seen.bearerToken = .ok token)
    (hid : seen.pathParam "bookId" asIs = .ok bookId)
    (hbook : seen.requiredBody Book.ofText = .ok book) :
    s.servePutBook endpoint seen = s.putBook token bookId book >>= fun _ => pure none := by
  unfold Service.servePutBook
  rw [htoken, Serve.ofExcept_ok_bind, hid, Serve.ofExcept_ok_bind, hbook, Serve.ofExcept_ok_bind]

/-- A handler that has its arguments runs the method that takes a cover. -/
theorem serveUploadCover_eq (hid : seen.pathParam "bookId" asIs = .ok bookId) :
    s.serveUploadCover endpoint seen =
      s.uploadCover bookId seen.body >>= fun image => pure (some (.ofBytes image)) := by
  unfold Service.serveUploadCover
  rw [hid, Serve.ofExcept_ok_bind]

end

/-! ### Calls about a book -/

/-- What a handler sees of a request about a book. -/
def bookIncoming (method : Text) (token : BearerToken) (bookId : BookId) (body : Text) :
    Incoming where
  method := method
  pathParams := bookIdValues bookId
  header := tokenHeader token
  body := body

theorem bearerToken_bookIncoming (htoken : token.valid = true) (method : Text) (bookId : BookId)
    (body : Text) : (bookIncoming method token bookId body).bearerToken = .ok token :=
  Incoming.bearerToken_eq htoken rfl

theorem pathParam_bookIncoming (method : Text) (token : BearerToken) (bookId : BookId)
    (body : Text) :
    (bookIncoming method token bookId body).pathParam "bookId" asIs = .ok bookId := rfl

theorem incoming_getBook (token : BearerToken) (bookId : BookId) :
    Mux.incoming (bookRequest "GET" token bookId none) (bookIdValues bookId) =
      .ok (bookIncoming "GET" token bookId []) := rfl

theorem incoming_putBook (token : BearerToken) (bookId : BookId) (book : Book) :
    Mux.incoming (bookRequest "PUT" token bookId (some ⟨"catalog.Book", .ok book.json, none⟩))
        (bookIdValues bookId) =
      .ok (bookIncoming "PUT" token bookId (book.json ++ "\n")) := rfl

theorem runs_getBook (hm : m.routes = s.table) (hno : m.interceptors = [])
    (htoken : token.valid = true) (hid : bookId ≠ []) :
    Runs Book.WellFormed Book.Same (s.getBook token bookId)
      (Client.getBook m id token bookId) := by
  have hcall : Client.getBook m id token bookId =
      m.call id (bookRequest "GET" token bookId none)
        (.json "catalog.Book" default Book.ofText) := rfl
  have hhandler := serveGetBook_eq (s := s) (some s.getBookRoute.route.endpoint)
    (bearerToken_bookIncoming htoken "GET" bookId []) (pathParam_bookIncoming "GET" token bookId [])
  rw [hcall]
  refine runs_of_handler (path_bookRequest "GET" token bookId none) (find?_bookAddress hm hid)
    (incoming_getBook token bookId) hno _ hhandler fun book hbook => ?_
  have hread : Book.ofText (book.json ++ []) = .ok book.canonical := Book.ofText_json hbook rfl
  rw [List.append_nil] at hread
  refine ⟨book.canonical, ?_, book.same_canonical⟩
  show (Book.ofText book.json).mapError _ = _
  rw [hread, Outcome.mapError_ok]

theorem runs_putBook (hm : m.routes = s.table) (hno : m.interceptors = [])
    (htoken : token.valid = true) (hid : bookId ≠ []) {book : Book} (hbook : book.WellFormed) :
    Runs (fun _ => True) Eq (s.putBook token bookId book.canonical)
      (Client.putBook m id token bookId book) := by
  have hcall : Client.putBook m id token bookId book =
      m.call id (bookRequest "PUT" token bookId (some ⟨"catalog.Book", .ok book.json, none⟩))
        .nothing := rfl
  -- The body is streamed, with a line break at its end, that the reader passes over.
  have hbody : (bookIncoming "PUT" token bookId (book.json ++ "\n")).requiredBody Book.ofText =
      .ok book.canonical :=
    Incoming.requiredBody_eq (book.trim_json_append_ne_nil _) (Book.ofText_json hbook (by decide))
  have hhandler := servePutBook_eq (s := s) (some s.putBookRoute.route.endpoint)
    (bearerToken_bookIncoming htoken "PUT" bookId _) (pathParam_bookIncoming "PUT" token bookId _)
    hbody
  rw [hcall]
  exact runs_of_handler (path_bookRequest "PUT" token bookId _) (find?_put_bookAddress hm hid)
    (incoming_putBook token bookId book) hno _ hhandler fun a _ => ⟨(), rfl, rfl⟩

/-! ### Searches -/

/-- The part of the query of a search that limits it. -/
def limitQuery : Option Int → Query
  | some n => [("limit", [Text.ofInt n])]
  | none => []

/-- The query of a search. -/
def searchQuery (query : Text) (limit : Option Int) : Query := ("q", [query]) :: limitQuery limit

/-- The headers of a search. -/
def searchHeader (token : BearerToken) (requestId : Text) : Header :=
  [("Cookie", [Cookie.text ⟨sessionCookie, token.value⟩]), ("X-Request-Id", [requestId])]

/-- The request for a search. -/
def searchRequest (token : BearerToken) (query : Text) (limit : Option Int) (requestId : Text) :
    Request where
  method := "GET"
  template := booksTemplate
  query := searchQuery query limit
  header := searchHeader token requestId

/-- What a handler sees of a search. -/
def searchIncoming (token : BearerToken) (query : Text) (limit : Option Int) (requestId : Text) :
    Incoming where
  query := searchQuery query limit
  header := searchHeader token requestId

theorem searchBooksRequest_eq (token : BearerToken) (query : Text) (limit : Option Int)
    (requestId : Text) :
    Client.searchBooksRequest token query limit requestId =
      .ok (searchRequest token query limit requestId) := by
  cases limit <;> rfl

theorem cookieToken_searchIncoming (htoken : token.valid = true) (query : Text)
    (limit : Option Int) (requestId : Text) :
    (searchIncoming token query limit requestId).cookieToken sessionCookie = .ok token :=
  Incoming.cookieToken_eq htoken (by decide) rfl

/-- Each key of a search names its own field only. -/
theorem filter_searchQuery (query : Text) (limit : Option Int) :
    ((searchQuery query limit).filter fun entry => Text.sameLetters entry.1 "q") =
        [(("q" : Text), [query])] ∧
      ((searchQuery query limit).filter fun entry => Text.sameLetters entry.1 "limit") =
        limitQuery limit := by
  -- Keys are compared without regard to case, by a table of folded letters.
  have hq : Text.sameLetters "q" "q" = true := by decide +kernel
  have hlimit : Text.sameLetters "limit" "limit" = true := by decide +kernel
  have hmixed : Text.sameLetters "q" "limit" = false := by decide +kernel
  have hswapped : Text.sameLetters "limit" "q" = false := by decide +kernel
  cases limit <;> simp [searchQuery, limitQuery, hq, hlimit, hmixed, hswapped]

theorem required_q {query : Text} (hquery : query ≠ []) (limit : Option Int) :
    Form.required (searchQuery query limit) "q" Converter.text = pure query := by
  have hfirst : Form.brings "q" Converter.text ("q", [query]) = true := by
    simp [Form.brings, Converter.text, Converter.scalar, hquery]
  refine Form.required_eq (Form.field_eq (filter_searchQuery query limit).1
    (Converter.convert_scalar hquery rfl)) ?_
  simp [searchQuery, hfirst]

theorem field_limit (query : Text) {limit : Option Int}
    (hlimit : ∀ n ∈ limit, -2147483648 ≤ n ∧ n < 2147483648) :
    Form.field (searchQuery query limit) "limit" (Converter.integer 32).optional = pure limit := by
  have hkey := (filter_searchQuery query limit).2
  cases limit with
  | none => exact Form.field_eq_initial hkey
  | some n =>
    have hread : Integer.read (31 + 1) (Text.ofInt n) = .ok n :=
      Integer.read_ofInt (hlimit n rfl).1 (hlimit n rfl).2
    have hconvert : (Converter.integer 32).convert 0 [Text.ofInt n] = .ok n :=
      Converter.convert_scalar (Text.ofInt_ne_nil n) (congrArg Except.toOption hread)
    refine Form.field_eq hkey ?_
    show ((Converter.integer 32).convert 0 [Text.ofInt n]).map some = .ok (some n)
    rw [hconvert]
    rfl

/-- A search has the query and the limit of the client. -/
theorem form_searchIncoming {query : Text} {limit : Option Int} (hquery : query ≠ [])
    (hlimit : ∀ n ∈ limit, -2147483648 ≤ n ∧ n < 2147483648) (requestId : Text) :
    (searchIncoming token query limit requestId).form Service.searchForm = .ok (query, limit) := by
  have hform : Service.searchForm (searchQuery query limit) = pure (query, limit) := by
    rw [Service.searchForm, required_q hquery, pure_bind, field_limit query hlimit, pure_bind]
  show ((Service.searchForm (searchQuery query limit)).run).mapError _ = _
  rw [hform]
  rfl

theorem runs_searchBooks (hm : m.routes = s.table) (hno : m.interceptors = [])
    (htoken : token.valid = true) {query : Text} {limit : Option Int} (hquery : query ≠ [])
    (hlimit : ∀ n ∈ limit, -2147483648 ≤ n ∧ n < 2147483648) (requestId : Text) :
    Runs (fun books => ∀ list ∈ books, ∀ b ∈ list, Book.WellFormed b) Book.SameList
      (s.searchBooks token query limit requestId)
      (Client.searchBooks m id token query limit requestId) := by
  have hcall : Client.searchBooks m id token query limit requestId =
      m.call id (searchRequest token query limit requestId)
        (.json "[]catalog.Book" none Book.listOfText) := by
    rw [Client.searchBooks, searchBooksRequest_eq, Exchange.liftM_ok_bind]
  have hpath : (searchRequest token query limit requestId).path = .ok booksAddress := by
    rw [Request.path, searchRequest, expand_booksTemplate, Outcome.mapError_ok]
  have hseen : Mux.incoming (searchRequest token query limit requestId) [] =
      .ok (searchIncoming token query limit requestId) := rfl
  have hrequestId : (searchIncoming token query limit requestId).requiredHeader requestIdHeader
      asIs = .ok requestId := rfl
  have hhandler := serveSearchBooks_eq (s := s) (some s.searchBooksRoute.route.endpoint)
    (cookieToken_searchIncoming htoken query limit requestId)
    (form_searchIncoming hquery hlimit requestId) hrequestId
  rw [hcall]
  refine runs_of_handler hpath (find?_booksAddress hm) hseen hno _ hhandler fun books hbooks => ?_
  refine ⟨Book.canonicalList books, ?_, Book.sameList_canonicalList books⟩
  show (Book.listOfText (Book.listJson books)).mapError _ = _
  rw [Book.listOfText_listJson hbooks, Outcome.mapError_ok]

/-! ### Calls about a cover -/

/-- What a handler sees of a request that sends a cover. -/
def coverIncoming (bookId : BookId) (image : Text) : Incoming where
  method := "POST"
  pathParams := bookIdValues bookId
  body := image

theorem runs_uploadCover (hm : m.routes = s.table) (hno : m.interceptors = [])
    (hid : bookId ≠ []) (image : Text) :
    Runs (fun _ => True) Eq (s.uploadCover bookId image)
      (Client.uploadCover m id bookId image) := by
  have hcall : Client.uploadCover m id bookId image =
      m.call id (coverRequest bookId image) .bytes := rfl
  have hseen : Mux.incoming (coverRequest bookId image) (bookIdValues bookId) =
      .ok (coverIncoming bookId image) := rfl
  have hbookId : (coverIncoming bookId image).pathParam "bookId" asIs = .ok bookId := rfl
  have hhandler := serveUploadCover_eq (s := s) (some s.uploadCoverRoute.route.endpoint) hbookId
  rw [hcall]
  exact runs_of_handler (path_coverRequest bookId image) (find?_coverAddress hm hid) hseen hno _
    hhandler fun result _ => ⟨result, rfl, rfl⟩

/-! ### The client -/

/-- **The client and the server are transparent to each other.** With the catalog registered on an
empty mux without interceptors, each call of the client runs the method of its name once, with the
arguments of the client, and gives what the method gives. -/
theorem client_transparent (s : Service σ) {m : Mux σ} (hroutes : m.routes = [])
    (hinterceptors : m.interceptors = []) (id : Uuid) {token : BearerToken}
    (htoken : token.valid = true) {bookId : BookId} (hbookId : bookId ≠ []) {query : Text}
    (hquery : query ≠ []) {limit : Option Int}
    (hlimit : ∀ n ∈ limit, -2147483648 ≤ n ∧ n < 2147483648) (requestId image : Text)
    {book : Book} (hbook : book.WellFormed) :
    ∃ served, s.registerOn Mux.register m = (.ok (), served) ∧
      Runs Book.WellFormed Book.Same (s.getBook token bookId)
        (Client.getBook served id token bookId) ∧
      Runs (fun books => ∀ list ∈ books, ∀ b ∈ list, Book.WellFormed b) Book.SameList
        (s.searchBooks token query limit requestId)
        (Client.searchBooks served id token query limit requestId) ∧
      (∃ sent, book.Same sent ∧
        Runs (fun _ => True) Eq (s.putBook token bookId sent)
          (Client.putBook served id token bookId book)) ∧
      Runs (fun _ => True) Eq (s.uploadCover bookId image)
        (Client.uploadCover served id bookId image) := by
  have htable : ({ m with routes := s.table } : Mux σ).routes = s.table := rfl
  exact ⟨_, s.registerOn_eq hroutes, runs_getBook htable hinterceptors htoken hbookId,
    runs_searchBooks htable hinterceptors htoken hquery hlimit requestId,
    ⟨book.canonical, book.same_canonical,
      runs_putBook htable hinterceptors htoken hbookId hbook⟩,
    runs_uploadCover htable hinterceptors hbookId image⟩

/-- A book with a rating that is not a number and metadata out of order. -/
def unratedBook : Book where
  id := "b-1"
  title := "D\u00fcne \"I\""
  pageCount := -412
  genre := ⟨"SPACE_OPERA"⟩
  rating := some Double.nan
  tags := ["classic", []]
  metadata := [("z", "1"), ([], "\n")]

/-- A book that needs escapes, under an identifier that looks like a path. -/
theorem client_transparent_escapes :
    ({} : Mux Shelf).routes = [] ∧ ({} : Mux Shelf).interceptors = [] ∧
      (⟨"a+/b=="⟩ : BearerToken).valid = true ∧ ("../x/cover" : BookId) ≠ [] ∧
      ("q=1&limit=2" : Text) ≠ [] ∧
      (∀ n ∈ some (-2147483648 : Int), -2147483648 ≤ n ∧ n < 2147483648) ∧
      unratedBook.WellFormed ∧
    ∃ served, Shelf.service.registerOn Mux.register {} = (.ok (), served) ∧
      Runs Book.WellFormed Book.Same (Shelf.service.getBook ⟨"a+/b=="⟩ "../x/cover")
        (Client.getBook served .zero ⟨"a+/b=="⟩ "../x/cover") ∧
      Runs (fun books => ∀ list ∈ books, ∀ b ∈ list, Book.WellFormed b) Book.SameList
        (Shelf.service.searchBooks ⟨"a+/b=="⟩ "q=1&limit=2" (some (-2147483648)) [])
        (Client.searchBooks served .zero ⟨"a+/b=="⟩ "q=1&limit=2" (some (-2147483648)) []) ∧
      (∃ sent, unratedBook.Same sent ∧
        Runs (fun _ => True) Eq (Shelf.service.putBook ⟨"a+/b=="⟩ "../x/cover" sent)
          (Client.putBook served .zero ⟨"a+/b=="⟩ "../x/cover" unratedBook)) ∧
      Runs (fun _ => True) Eq (Shelf.service.uploadCover "../x/cover" [0, 255])
        (Client.uploadCover served .zero "../x/cover" [0, 255]) := by
  have htoken : (⟨"a+/b=="⟩ : BearerToken).valid = true := by decide
  have hbookId : ("../x/cover" : BookId) ≠ [] := by decide
  have hquery : ("q=1&limit=2" : Text) ≠ [] := by decide
  have hlimit : ∀ n ∈ some (-2147483648 : Int), -2147483648 ≤ n ∧ n < 2147483648 := by
    rintro n ⟨⟩
    decide
  have hbook : unratedBook.WellFormed :=
    ⟨by decide +kernel, by decide +kernel, by decide +kernel, by decide +kernel, by decide +kernel,
      by decide, by decide, by decide⟩
  exact ⟨rfl, rfl, htoken, hbookId, hquery, hlimit, hbook,
    client_transparent Shelf.service rfl rfl .zero htoken hbookId hquery hlimit [] [0, 255] hbook⟩

end Accord.Catalog
