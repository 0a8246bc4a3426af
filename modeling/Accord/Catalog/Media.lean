/-
# Media

A union: a book, the address of something, or a variant that this version does not
know, which is kept as it came. A medium may also be nothing yet; then it has
neither JSON nor anything to visit.

## Main definitions

* `Media`: the variants;
* `Media.type`: the name of the variant on the wire;
* `Media.accept`: asks one of three functions;
* `Media.json`, `Media.ofJson`, `Media.ofOwnJson`: a medium as JSON.
-/

import Accord.Catalog.Book

namespace Accord.Catalog

/-- A medium. -/
inductive Media where
  /-- No variant is set. -/
  | unset
  | book (b : Book)
  | url (address : Text)
  /-- A variant that this version does not know, with its JSON if there is any. -/
  | other (type raw : Text)
  deriving Inhabited

namespace Media

/-- The name of the variant on the wire. -/
def type : Media → Text
  | unset => []
  | book _ => "book"
  | url _ => "url"
  | other type _ => type

/-- The fault of a medium that is nothing yet. -/
def noVariant : Fault := .emptyUnion "Media"

/-- Asks the function for the variant. -/
def accept {α : Type} (onBook : Book → Except Fault α) (onUrl : Text → Except Fault α)
    (onOther : Text → Except Fault α) : Media → Except Fault α
  | unset => .error noVariant
  | book b => onBook b
  | url address => onUrl address
  | other type _ => onOther type

/-- The JSON of a medium. -/
def json (m : Media) : Except Fault Text :=
  let w := ObjectWriter.field {} "type" (.ok (Json.quote m.type))
  match m with
  | unset => .error (.unwritable noVariant)
  | book b => (w.field "book" (b.marshal.mapError .unwritable)).text
  | url address => (w.field "url" (.ok (Json.quote address))).text
  | other type raw => (w.raw type raw).text

/-- The medium of a variant, read from the members of an object. -/
def ofVariant (r : ObjectReader) (type : Text) : Except Fault Media :=
  if type = "book" then (r.required "book" Book.ofJson).map book
  else if type = "url" then (r.required "url" Book.readText).map url
  else if type.isEmpty then .ok unset
  else .ok (other type ((r.raw? type).getD []))

/-- The medium of the members of an object. -/
def ofReader (r : ObjectReader) : Except Fault Media := do
  ofVariant r (← r.required "type" Book.readText)

/-- The medium in a JSON value. -/
def ofJson (j : Json) : Except Fault Media := do ofReader (← ObjectReader.ofJson j)

/-- The medium that a text holds. -/
def ofText (t : Text) : Except Fault Media :=
  match Json.read t with
  | .ok j => ofJson j
  | .error _ => .error Fault.json

end Media

end Accord.Catalog
