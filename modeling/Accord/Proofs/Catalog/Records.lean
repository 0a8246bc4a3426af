/-
# Records that write and read themselves

A book, and the error for a missing one, write the members of an object in the order in which their
fields are declared and leave out what is absent or empty. Read from that text they are what they
were, and where a text cannot be read the value that was held stays in place.

## Main definitions

* `Record.Survives`: a value is written, with the members it should have, and read back;
* `Record.KeepsOnFailure`: reading that fails changes nothing.

## Main results

* `Record.survives_book`, `Record.survives_bookNotFound`: each record on its own;
* `Record.catalog_records_survive`: the records of the catalog.
-/

import Accord.Catalog.BookNotFound
import Accord.Proofs.Catalog.Books
import Accord.Proofs.Text.Characters

namespace Accord

/-! ### What a record keeps -/

namespace Record

variable {α : Type}

/-- A value writes an object with the members it should have, and is read back from it, whatever
was held before. -/
def Survives (marshal : α → Except Fault Text) (receive : Text → ExceptT Fault (StateM α) Unit)
    (keys : α → List Text) (Equal : α → α → Prop) (a : α) : Prop :=
  ∃ out members, marshal a = .ok out ∧ Json.read out = .ok (.object out members) ∧
    members.map (·.1) = keys a ∧
    ∀ held, ∃ got, receive out held = (.ok (), got) ∧ Equal a got

/-- Where reading fails, what was held stays in place. -/
def KeepsOnFailure (receive : Text → ExceptT Fault (StateM α) Unit) : Prop :=
  ∀ t held e, (receive t held).1 = .error e → (receive t held).2 = held

/-- A value whose members are read back one by one survives. -/
theorem survives_of_readsMembers {marshal : α → Except Fault Text}
    {read : ObjectReader → Except Fault α} {keys : α → List Text} {Equal : α → α → Prop} {a made : α}
    {ms : List (Text × Text)} {ns : List (Text × Json)} (hmarshal : marshal a = .ok (Json.objectOf ms))
    (hmembers : List.Forall₂ Json.ReadsMember ms ns) (hkeys : ns.map (·.1) = keys a)
    (hread : read (ObjectReader.ofMembers ns) = .ok made) (hequal : Equal a made) :
    Survives marshal (ObjectReader.receive read) keys Equal a := by
  have hreads := Json.reads_objectOf hmembers
  refine ⟨Json.objectOf ms, ns, hmarshal, Json.read_of_reads hreads, hkeys, ?_⟩
  intro held
  refine ⟨made, ObjectReader.receive_of_ok ?_, hequal⟩
  rw [ObjectReader.ofText_objectOf hreads, Outcome.ok_bind, hread]

theorem keepsOnFailure_receive (read : ObjectReader → Except Fault α) :
    KeepsOnFailure (ObjectReader.receive read) := by
  intro t held e hfail
  cases h : ObjectReader.ofText t >>= read with
  | ok made =>
    rw [ObjectReader.receive_of_ok h] at hfail
    cases hfail
  | error e' => rw [ObjectReader.receive_of_error h]

end Record

/-! ### Members that are written one by one -/

namespace Wire

theorem jsons_map_string (ts : List Text) : jsons (ts.map .string) = .ok (ts.map Json.quote) := by
  induction ts with
  | nil => rfl
  | cons t ts ih =>
    rw [List.map_cons, jsons, ih]
    rfl

theorem members_map_string (entries : List (Text × Text)) :
    members (entries.map fun (k, v) => (.string k, .string v)) =
      .ok (entries.map fun (k, v) => (k, Json.quote v)) := by
  induction entries with
  | nil => rfl
  | cons entry entries ih =>
    rw [List.map_cons, members, ih]
    rfl

end Wire

theorem Double.equal_canonical (d : Double) : d.equal d.canonical = true := by
  by_cases h : d.isNaN = true
  · rw [canonical, if_pos h, equal, if_pos h]
    decide +kernel
  · rw [canonical, if_neg h, equal, if_neg h]
    simp [h]

/-! ### Books -/

namespace Catalog.Book

/-- The declared fields in order. -/
def declared : List Text := ["id", "title", "pageCount", "genre", "rating", "tags", "metadata"]

/-- Whether a field is absent or empty, and may be. -/
def leavesOut (b : Book) (field : Text) : Bool :=
  field = "rating" && b.rating.isNone || field = "tags" && b.tags.isEmpty ||
    field = "metadata" && b.metadata.isEmpty

/-- The fields that are written. -/
def keys (b : Book) : List Text := declared.filter fun field => !b.leavesOut field

/-- Books that are equal as values: what may be absent is absent in both, metadata has no order,
and ratings are compared as doubles. -/
structure Equal (a b : Book) : Prop where
  same : Same a b
  rating : Option.Rel (fun x y => Double.equal x y = true) a.rating b.rating

theorem marshal_eq (b : Book) : b.marshal = .ok b.json := by
  have htags : Wire.json (.list .string (b.tags.map .string)) =
      .ok (Json.arrayOf (b.tags.map Json.quote)) := by
    rw [Wire.json, Wire.jsons_map_string]
    rfl
  have hmetadata : Wire.json (.map .string .string
      (b.metadata.map fun (k, v) => (.string k, .string v))) =
      .ok (Json.objectOf (Text.sortKeys (b.metadata.map fun (k, v) => (k, Json.quote v)))) := by
    rw [Wire.json, Wire.members_map_string]
    rfl
  have hwriter : b.writer = ⟨b.members, none⟩ := by
    rw [writer, htags, hmetadata, members]
    cases b.rating <;> cases b.tags.isEmpty <;> cases b.metadata.isEmpty <;> rfl
  rw [marshal, hwriter]
  rfl

theorem keys_eq (b : Book) :
    b.keys = MemberValues.names b.rating.isSome (!b.tags.isEmpty) (!b.metadata.isEmpty) := by
  have table : ∀ unrated untagged bare : Bool,
      (declared.filter fun (field : Text) => !(field = "rating" && unrated || field = "tags" && untagged ||
        field = "metadata" && bare)) = MemberValues.names (!unrated) (!untagged) (!bare) := by
    decide
  rw [← Option.not_isNone]
  exact table b.rating.isNone b.tags.isEmpty b.metadata.isEmpty

/-- The members of a book are read under the names of the fields that are written. -/
theorem map_fst_values (b : Book) {rating : Option Json} (h : RatingReads b.rating rating) :
    (b.values rating).members.map (·.1) = b.keys := by
  have hrating : rating.isSome = b.rating.isSome := by
    revert h
    cases b.rating <;> cases rating <;> intro h
    · rfl
    · exact h.elim
    · exact h.elim
    · rfl
  rw [MemberValues.map_fst_members, keys_eq, ← hrating]
  simp only [values]
  cases b.tags.isEmpty <;> cases b.metadata.isEmpty <;> rfl

theorem equal_canonical (b : Book) : Equal b b.canonical where
  same := b.same_canonical
  rating := by
    rw [canonical]
    cases b.rating with
    | none => exact .none
    | some d => exact .some d.equal_canonical

end Catalog.Book

/-! ### Missing books -/

namespace Catalog.BookNotFound

/-- The strings of the error are UTF-8, and the number of attempts has 32 bits. -/
structure WellFormed (e : BookNotFound) : Prop where
  bookId : e.bookId.isUtf8 = true
  title : ∀ t ∈ e.title, t.isUtf8 = true
  attempt_ge : -2147483648 ≤ e.attempt
  attempt_lt : e.attempt < 2147483648

/-- The declared fields in order. -/
def declared : List Text := ["bookId", "attempt", "title"]

/-- The fields that are written: a title only if there is one. -/
def keys (e : BookNotFound) : List Text :=
  declared.filter fun field => !(field = "title" && e.title.isNone)

theorem marshal_eq (e : BookNotFound) : e.marshal = .ok (Json.objectOf e.members) := by
  have hwriter : e.writer = ⟨e.members, none⟩ := by
    rw [writer, members]
    cases e.title <;> rfl
  rw [marshal, hwriter]
  rfl

/-- The values that the members of the error are read as. -/
def values (e : BookNotFound) : List (Text × Json) :=
  let fixed : List (Text × Json) :=
    [("bookId", .string (Json.quote e.bookId) e.bookId), ("attempt", .number (Text.ofInt e.attempt))]
  fixed ++ Book.MemberValues.present "title" (e.title.map fun t => .string (Json.quote t) t)

theorem map_fst_values (e : BookNotFound) : e.values.map (·.1) = e.keys := by
  obtain ⟨bookId, attempt, title⟩ := e
  cases title <;> rfl

theorem readsMembers {e : BookNotFound} (h : e.WellFormed) :
    List.Forall₂ Json.ReadsMember e.members e.values := by
  refine List.rel_append ?_ ?_
  · exact .cons (Json.readsMember (by decide +kernel) (Json.reads_quote_of_isUtf8 h.bookId)) <|
      .cons (Json.readsMember (by decide +kernel) (Json.reads_ofInt e.attempt)) .nil
  · have htitle := h.title
    revert htitle
    cases e.title with
    | none => exact fun _ => .nil
    | some t =>
      intro htitle
      exact .cons (Json.readsMember (by decide +kernel)
        (Json.reads_quote_of_isUtf8 (htitle t rfl))) .nil

/-- The error is made of the values of its members. -/
theorem ofReader_values {e : BookNotFound} (h : e.WellFormed) :
    ofReader (ObjectReader.ofMembers e.values) = .ok e := by
  have hnodup : (e.values.map (·.1)).Nodup := by
    rw [map_fst_values]
    exact List.Nodup.filter _ (by decide)
  have hattempt : Book.readInteger (.number (Text.ofInt e.attempt)) = .ok e.attempt := by
    show (Json.int32? (.number (Text.ofInt e.attempt))).mapError _ = _
    rw [Json.int32?_ofInt h.attempt_ge h.attempt_lt, Outcome.mapError_ok]
  have hid : e.values.lookup ("bookId" : Text) =
      some (.string (Json.quote e.bookId) e.bookId) := rfl
  have hattempts : e.values.lookup ("attempt" : Text) =
      some (.number (Text.ofInt e.attempt)) := rfl
  have htitle : ObjectReader.optional ⟨e.values⟩ "title" Book.readText = .ok e.title := by
    cases ht : e.title with
    | none =>
      refine ObjectReader.optional_of_none ?_ _
      rw [values, ht]
      rfl
    | some t =>
      refine ObjectReader.optional_of_lookup (j := .string (Json.quote t) t) ?_ rfl rfl
      rw [values, ht]
      rfl
  rw [ObjectReader.ofMembers_eq hnodup, ofReader,
    ObjectReader.required_of_lookup (r := ⟨e.values⟩) hid rfl
      (show BookId.ofJson _ = .ok e.bookId from rfl),
    Outcome.ok_bind, ObjectReader.required_of_lookup (r := ⟨e.values⟩) hattempts rfl hattempt,
    Outcome.ok_bind, htitle, Outcome.ok_bind]
  rfl

end Catalog.BookNotFound

/-! ### The records of the catalog -/

namespace Record

open Catalog

theorem survives_book {b : Book} (h : b.WellFormed) :
    Survives Book.marshal Book.receive Book.keys Book.Equal b := by
  obtain ⟨rating, hrating⟩ := Book.exists_ratingReads b.rating
  exact survives_of_readsMembers b.marshal_eq (Book.readsMembers h hrating)
    (b.map_fst_values hrating) (Book.ofJson_values h hrating []) b.equal_canonical

theorem survives_bookNotFound {e : BookNotFound} (h : e.WellFormed) :
    Survives BookNotFound.marshal BookNotFound.receive BookNotFound.keys Eq e :=
  survives_of_readsMembers e.marshal_eq (BookNotFound.readsMembers h) e.map_fst_values
    (BookNotFound.ofReader_values h) rfl

/-- Books and the errors for missing ones are written as the object of the fields they have and
read back as equal values; reading that fails leaves the value that was held. -/
theorem catalog_records_survive :
    (∀ b : Book, b.WellFormed → Survives Book.marshal Book.receive Book.keys Book.Equal b) ∧
    (∀ e : BookNotFound, e.WellFormed →
      Survives BookNotFound.marshal BookNotFound.receive BookNotFound.keys Eq e) ∧
    KeepsOnFailure Book.receive ∧ KeepsOnFailure BookNotFound.receive :=
  ⟨fun _ => survives_book, fun _ => survives_bookNotFound, keepsOnFailure_receive _,
    keepsOnFailure_receive _⟩

/-- A book with something to escape, a rating that is no number and metadata out of order. -/
def annotated : Book :=
  ⟨"<1>", "\"é\"\n", -2147483648, ⟨"SATIRE"⟩, some Double.nan, ["", "&"], [("z", "1"), ("a", "")]⟩

/-- A missing book that was asked for by an empty identifier. -/
def unnamed : BookNotFound := ⟨[], 2147483647, some "\\"⟩

/-- A text that has no more of a book than its identifier. -/
def identified : Text := Json.objectOf [("id", Json.quote "new")]

theorem receive_identified (held : Book) :
    (Book.receive identified held).1 = .error (.missingField "title") := by
  have hmembers : List.Forall₂ Json.ReadsMember [("id", Json.quote "new")]
      [("id", .string (Json.quote "new") "new")] :=
    .cons (Json.readsMember (by decide +kernel)
      (Json.reads_quote_of_isUtf8 (t := "new") (by decide +kernel))) .nil
  have hfail : ObjectReader.ofText identified >>= Book.ofReader =
      .error (.missingField "title") := by
    rw [identified, ObjectReader.ofText_objectOf (Json.reads_objectOf hmembers)]
    rfl
  rw [Book.receive, ObjectReader.receive_of_error hfail]

theorem catalog_records_survive_annotated :
    annotated.WellFormed ∧ Survives Book.marshal Book.receive Book.keys Book.Equal annotated ∧
    unnamed.WellFormed ∧
    Survives BookNotFound.marshal BookNotFound.receive BookNotFound.keys Eq unnamed ∧
    (Book.receive identified annotated).1 = .error (.missingField "title") ∧
    (Book.receive identified annotated).2 = annotated := by
  have hbook : annotated.WellFormed := by
    constructor <;> decide +kernel
  have herror : unnamed.WellFormed := by
    constructor <;> decide +kernel
  exact ⟨hbook, catalog_records_survive.1 _ hbook, herror, catalog_records_survive.2.1 _ herror,
    receive_identified annotated, catalog_records_survive.2.2.1 _ _ _ (receive_identified annotated)⟩

end Record

end Accord
