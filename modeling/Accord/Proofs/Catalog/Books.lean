/-
# Books in JSON

A book whose strings are UTF-8 is read back from its JSON as the same book: its
members are written under different names, what is absent or empty is left out, and
its metadata comes back sorted by key.

## Main definitions

* `Book.WellFormed`: the books that can be sent;
* `Book.canonical`: a book as it arrives;
* `Book.Same`: books that differ in nothing that counts.

## Main results

* `Book.exists_reads_json`: a book in JSON and back;
* `Book.ofText_json`, `Book.listOfText_listJson`: books and lists of books in bodies.
-/

import Accord.Catalog.Book
import Accord.Proofs.Json.Numbers
import Accord.Proofs.Wire.Reader

namespace Accord.Catalog.Book

open Json

/-! ### Books that can be sent -/

/-- The strings of a book are UTF-8, its page count has 32 bits, and its metadata is a map. -/
structure WellFormed (b : Book) : Prop where
  id : b.id.isUtf8 = true
  title : b.title.isUtf8 = true
  genre : b.genre.name.isUtf8 = true
  tags : ∀ t ∈ b.tags, t.isUtf8 = true
  metadata : ∀ entry ∈ b.metadata, entry.1.isUtf8 = true ∧ entry.2.isUtf8 = true
  pageCount_ge : -2147483648 ≤ b.pageCount
  pageCount_lt : b.pageCount < 2147483648
  keys : (b.metadata.map (·.1)).Nodup

/-- A book as it arrives. -/
def canonical (b : Book) : Book :=
  { b with rating := b.rating.map Double.canonical, metadata := Text.sortKeys b.metadata }

/-- Books with the same contents. Metadata has no order, and what is not a number is the same
whatever its bits. -/
structure Same (a b : Book) : Prop where
  id : a.id = b.id
  title : a.title = b.title
  pageCount : a.pageCount = b.pageCount
  genre : a.genre = b.genre
  rating : a.rating.map Double.canonical = b.rating.map Double.canonical
  tags : a.tags = b.tags
  metadata : a.metadata.Perm b.metadata

theorem same_canonical (b : Book) : Same b b.canonical where
  id := rfl
  title := rfl
  pageCount := rfl
  genre := rfl
  rating := by
    rw [canonical, Option.map_map]
    congr 1
    funext d
    exact d.canonical_canonical.symm
  tags := rfl
  metadata := (Text.sortKeys_perm b.metadata).symm

/-! ### The values of the members -/

theorem readDouble_of_reads {d : Double} {j : Json} (h : Reads d.wire j) :
    readDouble j = .ok d.canonical := by
  rw [readDouble, h.source, d.ofJson_wire]
  rfl

/-- The JSON values of tags. -/
def tagValues (tags : List Text) : Json :=
  .array (arrayOf (tags.map quote)) (tags.map fun t => .string (quote t) t)

theorem reads_tags {tags : List Text} (h : ∀ t ∈ tags, t.isUtf8 = true) :
    Reads (arrayOf (tags.map quote)) (tagValues tags) := by
  refine reads_arrayOf ?_
  rw [List.forall₂_map_left_iff, List.forall₂_map_right_iff, List.forall₂_same]
  exact fun t ht => reads_quote_of_isUtf8 (h t ht)

theorem readTexts_tagValues (tags : List Text) : readTexts (tagValues tags) = .ok tags := by
  refine Outcome.mapM_eq_ok ?_
  rw [List.forall₂_map_left_iff, List.forall₂_same]
  exact fun t _ => rfl

/-- The JSON values of metadata. -/
def metadataValues (metadata : List (Text × Text)) : Json :=
  .object (objectOf (metadata.map fun entry => (entry.1, quote entry.2)))
    (metadata.map fun entry => (entry.1, .string (quote entry.2) entry.2))

theorem reads_metadata {metadata : List (Text × Text)}
    (h : ∀ entry ∈ metadata, entry.1.isUtf8 = true ∧ entry.2.isUtf8 = true) :
    Reads (objectOf (metadata.map fun entry => (entry.1, quote entry.2)))
      (metadataValues metadata) := by
  refine reads_objectOf ?_
  rw [List.forall₂_map_left_iff, List.forall₂_map_right_iff, List.forall₂_same]
  exact fun entry hentry =>
    readsMember (h entry hentry).1 (reads_quote_of_isUtf8 (h entry hentry).2)

theorem readEntries_metadataValues {metadata : List (Text × Text)}
    (h : (metadata.map (·.1)).Nodup) : readEntries (metadataValues metadata) = .ok metadata := by
  have hentries : (metadata.map fun entry =>
      (entry.1, Json.string (quote entry.2) entry.2)).mapM
        (fun member => do return (member.1, ← readText member.2)) = .ok metadata := by
    refine Outcome.mapM_eq_ok ?_
    rw [List.forall₂_map_left_iff, List.forall₂_same]
    exact fun entry _ => rfl
  have hstep : readEntries (metadataValues metadata) =
      (metadata.map fun entry => (entry.1, Json.string (quote entry.2) entry.2)).mapM
        (fun member => do return (member.1, ← readText member.2)) >>= fun entries =>
          .ok (entries.foldl (fun sofar entry => Text.upsert entry.1 entry.2 sofar) []) := rfl
  rw [hstep, hentries, Outcome.ok_bind, Text.foldl_upsert [] h]
  rfl

/-! ### A book -/

/-- The values of the members of a book's JSON. -/
structure MemberValues where
  id : Json
  title : Json
  pageCount : Json
  genre : Json
  rating : Option Json
  tags : Option Json
  metadata : Option Json

namespace MemberValues

variable (v : MemberValues)

/-- A member that may be left out. -/
def present {α : Type} (name : Text) : Option α → List (Text × α)
  | some a => [(name, a)]
  | none => []

/-- The members in order. -/
def members : List (Text × Json) :=
  let fixed : List (Text × Json) :=
    [("id", v.id), ("title", v.title), ("pageCount", v.pageCount), ("genre", v.genre)]
  fixed ++ present "rating" v.rating ++ present "tags" v.tags ++ present "metadata" v.metadata

/-- The names of the members, by which of the last three are there. -/
def names (rating tags metadata : Bool) : List Text :=
  let fixed : List Text := ["id", "title", "pageCount", "genre"]
  let name (there : Bool) (name : Text) : List Text := if there then [name] else []
  fixed ++ name rating "rating" ++ name tags "tags" ++ name metadata "metadata"

theorem nodup_names : ∀ rating tags metadata, (names rating tags metadata).Nodup := by decide

theorem map_fst_members :
    v.members.map (·.1) = names v.rating.isSome v.tags.isSome v.metadata.isSome := by
  obtain ⟨id, title, pageCount, genre, rating, tags, metadata⟩ := v
  cases rating <;> cases tags <;> cases metadata <;> rfl

/-- Each member is found under its name. -/
theorem lookup_members :
    v.members.lookup ("id" : Text) = some v.id ∧
    v.members.lookup ("title" : Text) = some v.title ∧
    v.members.lookup ("pageCount" : Text) = some v.pageCount ∧
    v.members.lookup ("genre" : Text) = some v.genre ∧
    v.members.lookup ("rating" : Text) = v.rating ∧
    v.members.lookup ("tags" : Text) = v.tags ∧
    v.members.lookup ("metadata" : Text) = v.metadata := by
  obtain ⟨id, title, pageCount, genre, rating, tags, metadata⟩ := v
  cases rating <;> cases tags <;> cases metadata <;>
    exact ⟨rfl, rfl, rfl, rfl, rfl, rfl, rfl⟩

end MemberValues

/-- The value of a rating, if there is one. -/
def RatingReads : Option Double → Option Json → Prop
  | some d, some j => Reads d.wire j ∧ j.isNull = false
  | none, none => True
  | _, _ => False

theorem exists_ratingReads (rating : Option Double) : ∃ value, RatingReads rating value := by
  cases rating with
  | none => exact ⟨none, trivial⟩
  | some d =>
    obtain ⟨j, hj⟩ := d.exists_reads_wire
    exact ⟨some j, hj⟩

/-- The values that a book's JSON is read as. -/
def values (b : Book) (rating : Option Json) : MemberValues where
  id := .string (quote b.id) b.id
  title := .string (quote b.title) b.title
  pageCount := .number (Text.ofInt b.pageCount)
  genre := .string (quote b.genre.name) b.genre.name
  rating := rating
  tags := if b.tags.isEmpty then none else some (tagValues b.tags)
  metadata :=
    if b.metadata.isEmpty then none else some (metadataValues (Text.sortKeys b.metadata))

variable {b : Book} {rating : Option Json}

/-- Each member of a book is read as its value. -/
theorem readsMembers (h : b.WellFormed) (hrating : RatingReads b.rating rating) :
    List.Forall₂ ReadsMember b.members (b.values rating).members := by
  have single : ∀ {name text : Text} {j : Json}, name.isUtf8 = true → Reads text j →
      List.Forall₂ ReadsMember [(name, text)] [(name, j)] := fun hname hj =>
    .cons (readsMember hname hj) .nil
  -- The members that are always there, the rating, the tags and the metadata.
  refine List.rel_append (List.rel_append (List.rel_append ?_ ?_) ?_) ?_
  · exact .cons (readsMember (by decide +kernel) (reads_quote_of_isUtf8 h.id)) <|
      .cons (readsMember (by decide +kernel) (reads_quote_of_isUtf8 h.title)) <|
      .cons (readsMember (by decide +kernel) (reads_ofInt b.pageCount)) <|
      .cons (readsMember (by decide +kernel) (reads_quote_of_isUtf8 h.genre)) .nil
  · show List.Forall₂ ReadsMember _ (MemberValues.present "rating" rating)
    revert hrating
    cases b.rating <;> cases rating <;> intro hrating
    · exact .nil
    · exact hrating.elim
    · exact hrating.elim
    · exact single (by decide +kernel) hrating.1
  · show List.Forall₂ ReadsMember _ (MemberValues.present "tags" (b.values rating).tags)
    unfold values
    dsimp only
    split
    · exact .nil
    · exact single (by decide +kernel) (reads_tags h.tags)
  · show List.Forall₂ ReadsMember _ (MemberValues.present "metadata" (b.values rating).metadata)
    unfold values
    dsimp only
    split
    · exact .nil
    · refine single (by decide +kernel) ?_
      -- Values are quoted before the entries are sorted, which changes nothing for the keys.
      have hsorted := Text.map_sortKeys quote b.metadata
      have hutf8 : ∀ entry ∈ Text.sortKeys b.metadata,
          entry.1.isUtf8 = true ∧ entry.2.isUtf8 = true := fun entry hentry =>
        h.metadata entry ((Text.sortKeys_perm b.metadata).mem_iff.mp hentry)
      have hreads := reads_metadata hutf8
      rw [hsorted] at hreads
      exact hreads

/-- What is left out for an empty list comes back as an empty list. -/
theorem getD_leaveOut {α : Type} {items kept : List α} (h : items = [] → kept = []) :
    (if items.isEmpty then none else some kept).getD [] = kept := by
  cases items with
  | nil => exact (h rfl).symm
  | cons item items => rfl

theorem optional_rating {r : ObjectReader} (hrating : RatingReads b.rating rating)
    (h : r.members.lookup ("rating" : Text) = rating) :
    r.optional "rating" readDouble = .ok (b.rating.map Double.canonical) := by
  revert hrating
  cases b.rating <;> cases rating <;> intro hrating
  · exact ObjectReader.optional_of_none h readDouble
  · exact hrating.elim
  · exact hrating.elim
  · exact ObjectReader.optional_of_lookup h hrating.2 (readDouble_of_reads hrating.1)

/-- A member that is left out for an empty list is read accordingly. -/
theorem optional_leaveOut {α β : Type} {r : ObjectReader} {key : Text} {items : List β} {j : Json}
    (h : r.members.lookup key = if items.isEmpty then none else some j) (hnull : j.isNull = false)
    {read : Json → Except Fault α} {a : α} (hread : read j = .ok a) :
    r.optional key read = .ok (if items.isEmpty then none else some a) := by
  cases items with
  | nil => exact ObjectReader.optional_of_none h read
  | cons item items => exact ObjectReader.optional_of_lookup h hnull hread

theorem optional_tags {r : ObjectReader}
    (h : r.members.lookup ("tags" : Text) = (b.values rating).tags) :
    r.optional "tags" readTexts = .ok (if b.tags.isEmpty then none else some b.tags) :=
  optional_leaveOut h rfl (readTexts_tagValues b.tags)

theorem optional_metadata {r : ObjectReader} (hkeys : (b.metadata.map (·.1)).Nodup)
    (h : r.members.lookup ("metadata" : Text) = (b.values rating).metadata) :
    r.optional "metadata" readEntries =
      .ok (if b.metadata.isEmpty then none else some (Text.sortKeys b.metadata)) :=
  optional_leaveOut h rfl (readEntries_metadataValues (Text.nodup_keys_sortKeys hkeys))

/-- A book is made of the values of its members. -/
theorem ofJson_values (h : b.WellFormed) (hrating : RatingReads b.rating rating) (source : Text) :
    ofJson (.object source (b.values rating).members) = .ok b.canonical := by
  have hnodup : ((b.values rating).members.map (·.1)).Nodup := by
    rw [MemberValues.map_fst_members]
    exact MemberValues.nodup_names _ _ _
  obtain ⟨hid, htitle, hpages, hgenre, hrated, htags, hmetadata⟩ :=
    (b.values rating).lookup_members
  generalize (b.values rating).members = members at *
  have hreader : ObjectReader.ofJson (.object source members) = .ok ⟨members⟩ :=
    congrArg Except.ok (ObjectReader.ofMembers_eq hnodup)
  have hpageCount : readInteger (b.values rating).pageCount = .ok b.pageCount := by
    show (int32? (.number (Text.ofInt b.pageCount))).mapError _ = _
    rw [int32?_ofInt h.pageCount_ge h.pageCount_lt, Outcome.mapError_ok]
  -- The reader takes the members in the order of the fields.
  unfold ofJson
  rw [hreader, Outcome.ok_bind, ofReader,
    ObjectReader.required_of_lookup hid rfl (show BookId.ofJson _ = .ok b.id from rfl),
    Outcome.ok_bind,
    ObjectReader.required_of_lookup htitle rfl (show readText _ = .ok b.title from rfl),
    Outcome.ok_bind, ObjectReader.required_of_lookup hpages rfl hpageCount, Outcome.ok_bind,
    ObjectReader.required_of_lookup hgenre rfl (show Genre.ofJson _ = .ok b.genre from rfl),
    Outcome.ok_bind, optional_rating hrating hrated, Outcome.ok_bind,
    optional_tags htags, Outcome.ok_bind, optional_metadata h.keys hmetadata, Outcome.ok_bind]
  have hsorted : b.metadata = [] → Text.sortKeys b.metadata = [] := by
    intro hempty
    rw [hempty]
    exact List.mergeSort_nil
  refine congrArg Except.ok ?_
  rw [canonical, getD_leaveOut fun hempty => hempty, getD_leaveOut hsorted]

/-- A book in JSON is read back. -/
theorem exists_reads_json (h : b.WellFormed) :
    ∃ j, Reads b.json j ∧ ofJson j = .ok b.canonical := by
  obtain ⟨rating, hrating⟩ := exists_ratingReads b.rating
  exact ⟨_, reads_objectOf (readsMembers h hrating), ofJson_values h hrating _⟩

/-! ### Bodies -/

/-- A book in a body, with white space after it, is read back. -/
theorem ofText_json (h : b.WellFormed) {blank : Text} (hblank : blank.all isSpace = true) :
    ofText (b.json ++ blank) = .ok b.canonical := by
  obtain ⟨j, hreads, hbook⟩ := exists_reads_json h
  rw [ofText, read_append hreads hblank]
  exact hbook

/-- The JSON of a book is not blank. -/
theorem trim_json_append_ne_nil (b : Book) (blank : Text) : (b.json ++ blank).trim ≠ [] := by
  rw [json, objectOf_eq]
  exact Text.trim_ne_nil (by decide) _

/-- The books of a list, as they arrive. -/
def canonicalList : Option (List Book) → Option (List Book) := Option.map (List.map canonical)

/-- Lists with the same books in the same order, or no lists. -/
def SameList : Option (List Book) → Option (List Book) → Prop
  | some as, some bs => List.Forall₂ Same as bs
  | none, none => True
  | _, _ => False

theorem sameList_canonicalList (books : Option (List Book)) :
    SameList books (canonicalList books) := by
  cases books with
  | none => trivial
  | some books =>
    refine List.forall₂_map_right_iff.mpr (List.forall₂_same.mpr ?_)
    exact fun b _ => b.same_canonical

theorem exists_reads_books {books : List Book} (h : ∀ b ∈ books, b.WellFormed) :
    ∃ js, List.Forall₂ Reads (books.map json) js ∧
      List.Forall₂ (fun j b => ofJson j = .ok b) js (books.map canonical) := by
  induction books with
  | nil => exact ⟨[], .nil, .nil⟩
  | cons b books ih =>
    obtain ⟨hb, hbooks⟩ := List.forall_mem_cons.mp h
    obtain ⟨j, hreads, hbook⟩ := exists_reads_json hb
    obtain ⟨js, hlist, hresults⟩ := ih hbooks
    exact ⟨j :: js, .cons hreads hlist, .cons hbook hresults⟩

/-- A list of books in a body is read back. -/
theorem listOfText_listJson {books : Option (List Book)}
    (h : ∀ list ∈ books, ∀ b ∈ list, b.WellFormed) :
    listOfText (listJson books) = .ok (canonicalList books) := by
  cases books with
  | none => rw [listOfText, listJson, read_of_reads reads_null]; rfl
  | some books =>
    obtain ⟨js, hreads, hresults⟩ := exists_reads_books (h books rfl)
    rw [listOfText, listJson, read_of_reads (reads_arrayOf hreads)]
    dsimp only
    rw [Outcome.mapM_eq_ok hresults]
    rfl

end Accord.Catalog.Book
