/-
# YAML values

A YAML document is a tree of scalars, lists and maps. What a scalar means is up to its
reader; all that is kept with its text is whether it was written without quotes.

## Main definitions

* `Yaml`: a value;
* `Yaml.isNull`: whether a value is left out;
* `Yaml.text?`, `Yaml.flag?`, `Yaml.table?`: a value where a text, a truth value or a table
  is wanted.
-/

import Accord.Text.Basic

namespace Accord

/-- A YAML value. -/
inductive Yaml where
  | scalar (bare : Bool) (text : Text)
  | list (items : List Yaml)
  | map (entries : List (Yaml × Yaml))
  deriving Repr, Inhabited

namespace Yaml

/-- The value that stands for nothing. -/
def null : Yaml := .scalar true []

/-- Whether a value is left out: a scalar without quotes that is empty, a tilde or a spelling
of null. -/
def isNull : Yaml → Bool
  | .scalar true t => (["", "~", "null", "Null", "NULL"] : List Text).contains t
  | _ => false

/-- A scalar as a text, whatever else it may look like. -/
def text? : Yaml → Option Text
  | .scalar _ t => some t
  | _ => none

/-- A scalar as a truth value. The words of everyday language count with and without quotes,
the others only without. -/
def flag? : Yaml → Option Bool
  | .scalar bare t =>
    if bare && (["true", "True", "TRUE"] : List Text).contains t then some true
    else if bare && (["false", "False", "FALSE"] : List Text).contains t then some false
    else if (["y", "Y", "yes", "on"] : List Text).contains t then some true
    else if (["n", "N", "no", "off"] : List Text).contains t then some false
    else none
  | _ => none

/-- Whether a list of keys holds a scalar twice. -/
def hasRepeated : List Yaml → Bool
  | [] => false
  | k :: rest =>
    (match k with
      | .scalar _ t => rest.any fun | .scalar _ t' => t = t' | _ => false
      | _ => false) || hasRepeated rest

/-- The entries of a map whose keys differ. -/
def entries? : Yaml → Option (List (Yaml × Yaml))
  | .map entries => if hasRepeated (entries.map (·.1)) then none else some entries
  | _ => none

/-- A map as a table of texts. A value that is left out is the empty text, and an entry without
a key does not count. -/
def table? (y : Yaml) : Option (List (Text × Text)) := do
  let entries ← y.entries?
  let rows ← entries.mapM fun (k, v) => do
    let key ← k.text?
    let value ← if v.isNull then some [] else v.text?
    return (k.isNull, key, value)
  return (rows.filter (!·.1)).map (·.2)

end Yaml

end Accord
