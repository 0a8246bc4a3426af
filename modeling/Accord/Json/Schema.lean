/-
# Shapes of JSON values

Before the members of an object are read, the whole value is held against a shape:
which members hold texts, integers, lists or objects. Members that the shape does
not name may hold anything, and `null` fits everywhere.

## Main definitions

* `Schema`: the shape of a value;
* `Schema.fits`: whether a value has a shape.
-/

import Accord.Json.Basic

namespace Accord

/-- The shape of a JSON value. -/
inductive Schema where
  /-- Any value, which is kept unread. -/
  | any
  | text
  | int
  | list (item : Schema)
  | record (fields : List (Text × Schema))
  /-- An object of untyped values. -/
  | entries

namespace Schema

mutual

/-- Whether a value has a shape. -/
def fits : Schema → Json → Bool
  | _, .null => true
  | any, _ => true
  | text, j => j.text?.isOk
  | int, j => j.int64?.isOk
  | list item, .array _ items => items.all fun j => item.fits j
  | record fields, .object _ members =>
    members.all fun (name, j) => fitsMember fields name j
  | entries, .object _ members => (Json.toEntries members).isOk
  | _, _ => false

/-- Whether the value of a member has the shape that its name calls for. -/
def fitsMember : List (Text × Schema) → Text → Json → Bool
  | [], _, _ => true
  | (field, s) :: rest, name, j =>
    if Text.sameFold name field then s.fits j else fitsMember rest name j

end

end Schema

end Accord
