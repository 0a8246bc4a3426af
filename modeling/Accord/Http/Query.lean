/-
# Queries

A query maps keys to lists of values. It is sent with its keys in order, and keys
and values escaped.

## Main definitions

* `Query`: keys with their values;
* `Query.add`, `Query.values`: building and looking up;
* `Query.text`: a query as it is sent.
-/

import Accord.Text.Percent

namespace Accord

/-- The keys of a query with their values. -/
abbrev Query := List (Text × List Text)

namespace Query

variable (q : Query)

/-- The values of a key in order. -/
def values (key : Text) : List Text := (q.lookup key).getD []

/-- One more value of a key. -/
def add (key value : Text) : Query := Text.upsert key (values q key ++ [value]) q

/-- A query as it is sent. -/
def text : Text :=
  Text.join "&" ((Text.sortKeys q).flatMap fun (k, vs) =>
    vs.map fun v => Percent.escapeQuery k ++ "=" ++ Percent.escapeQuery v)

end Query

end Accord
