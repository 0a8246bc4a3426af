/-
# Members looked up by name

An object is read by the names of its members, without regard to the case of letters. Where the
names differ in more than that, each member is found under its own name and nothing else is; a
member that is left out is not found. Shapes are held against an object in the same way.

## Main definitions

* `Json.Keys`: names that differ in more than the case of letters;
* `Json.present`: the members of an object that are not left out;
* `Json.recordOf`: the text of such an object;
* `Json.Says`: what is found where a text is asked for;
* `Json.Laid`: the members of an object with their texts, values and shapes.

## Main results

* `Json.all_present`: what is found under a name;
* `Json.text_of_all`, `Json.nested?_of_all`, `Json.last?_of_all`: the same as a text, an object or
  a value;
* `Json.Laid.reads`: the text of an object is read as its members;
* `Json.Laid.fits`: the object has the shape of its members.
-/

import Accord.Json.Schema
import Accord.Proofs.Json.Values
import Mathlib.Data.Option.Defs

namespace Accord.Json

/-! ### Names -/

/-- Well-formed names that differ in more than the case of letters. -/
structure Keys (names : List Text) : Prop where
  apart : names.Pairwise fun a b => Text.sameFold a b = false
  utf8 : ∀ name ∈ names, name.isUtf8 = true

instance (names : List Text) : Decidable (Keys names) :=
  decidable_of_iff ((names.Pairwise fun a b => Text.sameFold a b = false) ∧
    ∀ name ∈ names, name.isUtf8 = true) ⟨fun h => ⟨h.1, h.2⟩, fun h => ⟨h.apart, h.utf8⟩⟩

theorem Keys.sublist {names more : List Text} (h : Keys more) (hsub : names.Sublist more) :
    Keys names :=
  ⟨h.apart.sublist hsub, fun name hname => h.utf8 name (hsub.subset hname)⟩

theorem Keys.tail {name : Text} {names : List Text} (h : Keys (name :: names)) : Keys names :=
  h.sublist (List.sublist_cons_self name names)

theorem sameFold_self (a : Text) : Text.sameFold a a = true := by
  simp [Text.sameFold]

theorem sameFold_comm (a b : Text) : Text.sameFold a b = Text.sameFold b a := by
  unfold Text.sameFold
  exact Bool.beq_comm

/-! ### Members that are there -/

section Present

variable {α β : Type}

/-- The members of an object that are not left out. -/
def present (ms : List (Text × Option α)) : List (Text × α) :=
  ms.filterMap fun m => m.2.map fun v => (m.1, v)

theorem present_cons_none (k : Text) (ms : List (Text × Option α)) :
    present ((k, none) :: ms) = present ms := rfl

theorem present_cons_some (k : Text) (v : α) (ms : List (Text × Option α)) :
    present ((k, some v) :: ms) = (k, v) :: present ms := rfl

theorem mem_present {k : Text} {v : α} {ms : List (Text × Option α)} :
    (k, v) ∈ present ms ↔ (k, some v) ∈ ms := by
  unfold present
  rw [List.mem_filterMap]
  constructor
  · rintro ⟨⟨k', v'⟩, hmem, hsome⟩
    obtain ⟨u, hu, heq⟩ := Option.map_eq_some_iff.mp hsome
    obtain ⟨rfl, rfl⟩ := Prod.mk.inj heq
    have hu : v' = some u := hu
    rwa [hu] at hmem
  · intro hmem
    exact ⟨(k, some v), hmem, rfl⟩

end Present

variable {k : Text} {v : Option Json} {ms : List (Text × Option Json)} {r : Record} {t : Text}
  {j : Json}

theorem all_present_cons (k name : Text) (v : Option Json) (ms : List (Text × Option Json)) :
    Record.all (present ((k, v) :: ms)) name =
      (if Text.sameFold k name then v.toList else []) ++ Record.all (present ms) name := by
  cases v with
  | none =>
    rw [present_cons_none]
    split <;> rfl
  | some j =>
    rw [present_cons_some]
    unfold Record.all
    rw [List.filterMap_cons]
    by_cases h : Text.sameFold k name = true
    · simp [h]
    · simp [h]

/-- Nothing is found under a name that no member has. -/
theorem all_present_eq_nil {name : Text} (h : ∀ m ∈ ms, Text.sameFold m.1 name = false) :
    Record.all (present ms) name = [] := by
  induction ms with
  | nil => rfl
  | cons m ms ih =>
    rw [all_present_cons, h m List.mem_cons_self, ih fun n hn => h n (List.mem_cons_of_mem m hn)]
    rfl

/-- A member is found under its own name, and nothing else is. -/
theorem all_present (hkeys : Keys (ms.map (·.1))) (hmem : (k, v) ∈ ms) :
    Record.all (present ms) k = v.toList := by
  induction ms with
  | nil => cases hmem
  | cons m ms ih =>
    obtain ⟨k', v'⟩ := m
    have hfirst := (List.pairwise_cons.mp hkeys.apart).1
    rw [all_present_cons]
    rcases List.mem_cons.mp hmem with heq | hmem
    · obtain ⟨rfl, rfl⟩ := Prod.mk.inj heq
      have hothers : ∀ m ∈ ms, Text.sameFold m.1 k = false := by
        intro m hm
        rw [sameFold_comm]
        exact hfirst m.1 (List.mem_map_of_mem hm)
      rw [sameFold_self, all_present_eq_nil hothers]
      exact List.append_nil _
    · have hne : Text.sameFold k' k = false := hfirst k (List.mem_map_of_mem hmem)
      rw [hne, ih hkeys.tail hmem]
      rfl

/-! ### What a member is read as -/

theorem record_object (source : Text) (members : Record) :
    (object source members).record = members := rfl

theorem source_object (source : Text) (members : Record) :
    (object source members).source = source := rfl

/-- What is found where a text is asked for: the text, or nothing or `null` for the empty one. -/
inductive Says : Option Json → Text → Prop
  | absent : Says none []
  | null : Says (some .null) []
  | string (source t : Text) : Says (some (.string source t)) t

theorem text_of_all (hall : Record.all r k = v.toList) (h : Says v t) : Record.text r k = t := by
  unfold Record.text
  rw [hall]
  cases h <;> rfl

theorem last?_of_all (hall : Record.all r k = v.toList) : Record.last? r k = v := by
  unfold Record.last?
  rw [hall]
  cases v <;> rfl

theorem nested?_of_all {source : Text} {members : Record}
    (hall : Record.all r k = (some (.object source members) : Option Json).toList) :
    Record.nested? r k = some members := by
  unfold Record.nested?
  rw [hall]
  rfl

theorem nested_of_all {source : Text} {members : Record}
    (hall : Record.all r k = (some (.object source members) : Option Json).toList) :
    Record.nested r k = members := by
  unfold Record.nested
  rw [hall]
  exact List.append_nil members

/-- A value is held against the shape that its name calls for. -/
theorem fitsMember_of_mem {fields : List (Text × Schema)} {s : Schema}
    (hkeys : Keys (fields.map (·.1))) (hmem : (k, s) ∈ fields) (j : Json) :
    Schema.fitsMember fields k j = s.fits j := by
  induction fields with
  | nil => cases hmem
  | cons f fields ih =>
    obtain ⟨k', s'⟩ := f
    have hfirst := (List.pairwise_cons.mp hkeys.apart).1
    rw [Schema.fitsMember]
    rcases List.mem_cons.mp hmem with heq | hmem
    · obtain ⟨rfl, rfl⟩ := Prod.mk.inj heq
      rw [if_pos (sameFold_self k)]
    · have hne : Text.sameFold k' k = false := hfirst k (List.mem_map_of_mem hmem)
      rw [sameFold_comm, hne]
      exact ih hkeys.tail hmem

/-- An object has a shape if each of its members has the shape that its name calls for. -/
theorem fits_record {fields : List (Text × Schema)} (hkeys : Keys (fields.map (·.1)))
    (h : ∀ k j, (k, some j) ∈ ms → ∃ s, (k, s) ∈ fields ∧ s.fits j = true) (source : Text) :
    (Schema.record fields).fits (.object source (present ms)) = true := by
  rw [Schema.fits, List.all_eq_true]
  rintro ⟨k, j⟩ hmem
  obtain ⟨s, hs, hfits⟩ := h k j (mem_present.mp hmem)
  rw [← hfits]
  exact fitsMember_of_mem hkeys hs j

/-! ### The text of an object -/

/-- The text of an object of which members may be left out. -/
def recordOf (ms : List (Text × Option Text)) : Text := objectOf (present ms)

/-- The members of an object: their shapes, their texts and the values that they are read as. -/
inductive Laid :
    List (Text × Schema) → List (Text × Option Text) → List (Text × Option Json) → Prop
  | nil : Laid [] [] []
  | cons {k : Text} {s : Schema} {text : Option Text} {v : Option Json}
      {fields : List (Text × Schema)} {texts : List (Text × Option Text)}
      {ms : List (Text × Option Json)} (hreads : Option.Rel Reads text v)
      (hfits : ∀ j ∈ v, s.fits j = true) (h : Laid fields texts ms) :
      Laid ((k, s) :: fields) ((k, text) :: texts) ((k, v) :: ms)

namespace Laid

variable {fields : List (Text × Schema)} {texts : List (Text × Option Text)}

/-- A member that is there. -/
theorem cons_some {s : Schema} {text : Text} (hreads : Reads text j) (hfits : s.fits j = true)
    (h : Laid fields texts ms) :
    Laid ((k, s) :: fields) ((k, some text) :: texts) ((k, some j) :: ms) := by
  refine .cons (.some hreads) (fun i hi => ?_) h
  cases hi
  exact hfits

/-- A member for a text. -/
theorem cons_text {text : Option Text} (hreads : Option.Rel Reads text v) (htext : Says v t)
    (h : Laid fields texts ms) :
    Laid ((k, .text) :: fields) ((k, text) :: texts) ((k, v) :: ms) := by
  refine .cons hreads (fun j hj => ?_) h
  cases htext with
  | absent => cases hj
  | null =>
    cases hj
    rfl
  | string source t =>
    cases hj
    rfl

theorem names_eq (h : Laid fields texts ms) : ms.map (·.1) = fields.map (·.1) := by
  induction h with
  | nil => rfl
  | cons _ _ _ ih => rw [List.map_cons, List.map_cons, ih]

/-- A member is found under its own name, and nothing else is. -/
theorem all_eq (h : Laid fields texts ms) (hkeys : Keys (fields.map (·.1))) (hmem : (k, v) ∈ ms) :
    Record.all (present ms) k = v.toList :=
  all_present (h.names_eq ▸ hkeys) hmem

/-- The text of an object is read as the members that are there. -/
theorem reads (h : Laid fields texts ms) (hkeys : Keys (fields.map (·.1))) :
    Reads (recordOf texts) (.object (recordOf texts) (present ms)) := by
  apply reads_objectOf
  induction h with
  | nil => exact .nil
  | @cons k s text v fields texts ms hreads _ _ ih =>
    have hrest := ih hkeys.tail
    cases hreads with
    | none => exact hrest
    | some hreads => exact .cons (readsMember (hkeys.utf8 k List.mem_cons_self) hreads) hrest

theorem exists_fits (h : Laid fields texts ms) (hmem : (k, some j) ∈ ms) :
    ∃ s, (k, s) ∈ fields ∧ s.fits j = true := by
  induction h with
  | nil => cases hmem
  | @cons k' s text v fields texts ms _ hfits _ ih =>
    rcases List.mem_cons.mp hmem with heq | hmem
    · obtain ⟨rfl, rfl⟩ := Prod.mk.inj heq
      exact ⟨s, List.mem_cons_self, hfits j rfl⟩
    · obtain ⟨s', hs', hfits'⟩ := ih hmem
      exact ⟨s', List.mem_cons_of_mem _ hs', hfits'⟩

/-- The object has every shape that has those of its members. -/
theorem fits_of_subset (h : Laid fields texts ms) {more : List (Text × Schema)}
    (hsub : fields ⊆ more) (hkeys : Keys (more.map (·.1))) (source : Text) :
    (Schema.record more).fits (.object source (present ms)) = true := by
  refine fits_record hkeys (fun k j hj => ?_) source
  obtain ⟨s, hs, hfits⟩ := h.exists_fits hj
  exact ⟨s, hsub hs, hfits⟩

theorem fits (h : Laid fields texts ms) (hkeys : Keys (fields.map (·.1))) (source : Text) :
    (Schema.record fields).fits (.object source (present ms)) = true :=
  h.fits_of_subset (List.Subset.refl fields) hkeys source

end Laid

end Accord.Json
