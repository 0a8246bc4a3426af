/-
# The encoding of types and definitions

How a type expression and a type definition are written as JSON: a union is an object with a
member `type` that names the variant and a member of that name with its content. What a
definition does not say can be left out, be `null`, or be an empty string.

## Main definitions

* `Json.literal`: the string literal of any bytes;
* `Blank`: how a member is written that has nothing to say;
* `TypeExpr.json`, `Definition.json`: the encoding;
* `Json.IsUnion`: an object that is a union of a kind;
* `TypeExpr.Named`, `Definition.Named`: what has to have a name has one.

## Main results

* `Json.reads_literal`: a literal is read as the bytes it was written for;
* `Json.exists_union`: a union is read as one;
* `Blank.exists_reads_text`: a text that may be left out.
-/

import Accord.Contract.Basic
import Accord.Proofs.Json.Grammar
import Accord.Proofs.Json.Records

namespace Accord

/-! ### String literals of bytes -/

namespace Json

/-- A byte inside a string literal: a quote and a backslash are escaped, control bytes are given by
number, and every other byte stands for itself. -/
def literalByte (b : UInt8) : Text :=
  if b = Text.byte '"' || b = Text.byte '\\' then [Text.byte '\\', b]
  else if b < 0x20 then "\\u" ++ Text.hex 4 b.toNat
  else [b]

/-- The string literal of any bytes. -/
def literal (t : Text) : Text := "\"" ++ t.flatMap literalByte ++ "\""

/-- The text of a union: the word for the variant, and the content under that word. -/
def unionOf (kind content : Text) : Text :=
  recordOf [("type", some (literal kind)), (kind, some content)]

end Json

/-- How a member is written that has nothing to say. -/
inductive Blank where
  | absent
  | null
  | empty
  deriving DecidableEq, Repr

namespace Blank

/-- A member for a text: the empty text is left out, `null` or an empty string. -/
def text (blank : Blank) (t : Text) : Option Text :=
  if t.isEmpty then
    match blank with
    | absent => none
    | null => some "null"
    | empty => some (Json.literal [])
  else some (Json.literal t)

/-- A member for a value that is not there. There is no empty value, so that it is left out or
`null`. -/
def value (blank : Blank) : Option Text :=
  match blank with
  | null => some "null"
  | _ => none

end Blank

/-! ### Types -/

/-- The encoding of a name. -/
def TypeName.json (n : TypeName) : Text :=
  Json.recordOf [("name", some (Json.literal n.name)), ("package", some (Json.literal n.package))]

namespace TypeExpr

/-- The encoding of a type expression. -/
def json (blank : Blank) : TypeExpr → Text
  | primitive p => Json.unionOf "primitive" (Json.literal p.keyword)
  | optional item => Json.unionOf "optional" (Json.recordOf [("itemType", some (item.json blank))])
  | list item => Json.unionOf "list" (Json.recordOf [("itemType", some (item.json blank))])
  | set item => Json.unionOf "set" (Json.recordOf [("itemType", some (item.json blank))])
  | map key value => Json.unionOf "map" (Json.recordOf
      [("keyType", some (key.json blank)), ("valueType", some (value.json blank))])
  | reference target => Json.unionOf "reference" target.json
  | external target => Json.unionOf "external" (Json.recordOf
      [("externalReference", some target.json), ("fallback", blank.value)])
  | externalOr target fallback => Json.unionOf "external" (Json.recordOf
      [("externalReference", some target.json), ("fallback", some (fallback.json blank))])

/-- What a type expression refers to has a name. -/
def Named : TypeExpr → Prop
  | primitive _ => True
  | optional item => item.Named
  | list item => item.Named
  | set item => item.Named
  | map key value => key.Named ∧ value.Named
  | reference target => target.name ≠ []
  | external target => target.name ≠ []
  | externalOr target fallback => target.name ≠ [] ∧ fallback.Named

end TypeExpr

/-! ### Definitions -/

/-- The encoding of a field. -/
def FieldDef.json (blank : Blank) (f : FieldDef) : Text :=
  Json.recordOf [("fieldName", some (Json.literal f.name)), ("type", some (f.type.json blank)),
    ("docs", blank.text f.docs), ("deprecated", blank.text f.deprecated),
    ("safety", blank.text f.safety.text)]

/-- A field has a name, and so has what its type refers to. -/
def FieldDef.Named (f : FieldDef) : Prop := f.name ≠ [] ∧ f.type.Named

/-- The encoding of a value of an enumeration. -/
def EnumValue.json (blank : Blank) (v : EnumValue) : Text :=
  Json.recordOf [("value", some (Json.literal v.value)), ("docs", blank.text v.docs),
    ("deprecated", blank.text v.deprecated)]

namespace Definition

/-- The encoding of a type definition. -/
def json (blank : Blank) (d : Definition) : Text :=
  Json.unionOf d.shape.kind (match d.shape with
    | .object fields => Json.recordOf [("typeName", some d.name.json),
        ("fields", some (Json.arrayOf (fields.map (FieldDef.json blank)))),
        ("docs", blank.text d.docs)]
    | .union variants => Json.recordOf [("typeName", some d.name.json),
        ("union", some (Json.arrayOf (variants.map (FieldDef.json blank)))),
        ("docs", blank.text d.docs)]
    | .enum values => Json.recordOf [("typeName", some d.name.json),
        ("values", some (Json.arrayOf (values.map (EnumValue.json blank)))),
        ("docs", blank.text d.docs)]
    | .aliasFor target safety => Json.recordOf [("typeName", some d.name.json),
        ("alias", some (target.json blank)), ("docs", blank.text d.docs),
        ("safety", blank.text safety.text)])

/-- The fields and the values of a definition have names, and so has what their types refer to. -/
def Named (d : Definition) : Prop :=
  match d.shape with
  | .object fields => ∀ f ∈ fields, f.Named
  | .union variants => ∀ f ∈ variants, f.Named
  | .enum values => ∀ v ∈ values, v.value ≠ []
  | .aliasFor target _ => target.Named

end Definition

/-! ### Reading the parts -/

namespace Json

theorem unitBytes_of_lt : ∀ b : UInt8, b < 0x20 →
    (Char.ofNat b.toNat).toNat = b.toNat ∧ unitBytes b.toNat = [b] :=
  Text.forall_byte (by decide +kernel)

/-- A byte is written inside a literal in one of the three ways. -/
theorem written_literalByte (b : UInt8) : Written (literalByte b) [b] := by
  unfold literalByte
  split
  case isTrue hmark =>
    have hshort : shortEscape? b = some b := by
      unfold shortEscape?
      rw [if_pos (by rw [hmark]; rfl)]
    exact .short hshort
  case isFalse hmark =>
    split
    case isTrue hcontrol =>
      obtain ⟨hnat, hunit⟩ := unitBytes_of_lt b hcontrol
      have hnumbered : isNumbered (Char.ofNat b.toNat) = true := by
        have hlt : b.toNat < 0x20 := hcontrol
        simp [isNumbered, hnat, hlt]
      obtain ⟨h₁, h₂, h₃, h₄, hhex, hvalue, hhigh, -⟩ := hex_of_isNumbered hnumbered
      rw [hnat] at hhex hvalue hhigh
      rw [hhex, ← hunit]
      exact .numbered hvalue hhigh
    case isFalse hcontrol =>
      have hzero : b ≠ 0 := by
        rintro rfl
        exact hcontrol (by decide)
      have hplain : isPlainByte b = true := by
        simp only [Bool.or_eq_true, decide_eq_true_eq, not_or] at hmark
        simp [isPlainByte, hmark.1, hmark.2, hzero]
      exact .plain fun c hc => by rwa [List.mem_singleton.mp hc]

/-- A literal is read as the bytes it was written for. -/
theorem reads_literal (t : Text) : Reads (literal t) (.string (literal t) t) := by
  obtain ⟨-, hinside⟩ := inside_of_stringBody (stringBody_flatMap written_literalByte t [])
  have hmeans := unescape_flatMap written_literalByte t
  rw [List.flatMap_singleton'] at hmeans
  exact Literal.reads ⟨t.flatMap literalByte, rfl, hinside, hmeans⟩

/-- A member is shorter than the object that it is in. -/
theorem length_lt_recordOf {k v : Text} {ms : List (Text × Option Text)}
    (h : (k, some v) ∈ ms) : v.length < (recordOf ms).length := by
  have hmember : memberText (k, v) ∈ (present ms).map memberText :=
    List.mem_map_of_mem (mem_present.mpr h)
  have hlisted : (memberText (k, v)).length ≤ (listed ((present ms).map memberText)).length :=
    Text.length_join_le (List.singleton_sublist.mpr hmember)
  have hvalue := length_lt_memberText k v
  rw [recordOf, objectOf_eq, List.length_cons, List.length_append]
  omega

/-! ### Unions -/

/-- An object has a shape, and is a union of a kind with a content. -/
structure IsUnion (s : Schema) (text : Text) (r : Record) (kind : Text) (j : Json) : Prop where
  fits : s.fits (.object text r) = true
  kind_eq : Record.text r "type" = kind
  all_eq : Record.all r kind = (some j).toList

/-- A union is read as one, if its content has the shape that its kind calls for. -/
theorem exists_union {contents : List (Text × Schema)} {kind content : Text} {s : Schema} {j : Json}
    (hkeys : Keys (("type" : Text) :: contents.map (·.1))) (hmem : (kind, s) ∈ contents)
    (h : Reads content j) (hfits : s.fits j = true) :
    ∃ r, Reads (unionOf kind content) (.object (unionOf kind content) r) ∧
      IsUnion (.record (("type", .text) :: contents)) (unionOf kind content) r kind j := by
  have hkind : kind ∈ contents.map (·.1) := List.mem_map_of_mem hmem
  have hpair : Keys [("type" : Text), kind] :=
    hkeys.sublist ((List.singleton_sublist.mpr hkind).cons_cons _)
  have hlaid : Laid [("type", .text), (kind, s)]
      [("type", some (literal kind)), (kind, some content)] _ :=
    .cons_some (reads_literal kind) rfl (.cons_some h hfits .nil)
  -- The shape has a member for every kind, of which the union writes one.
  have hsub : [(("type" : Text), Schema.text), (kind, s)] ⊆ ("type", .text) :: contents :=
    List.cons_subset_cons _ (by simpa using hmem)
  refine ⟨_, hlaid.reads hpair, hlaid.fits_of_subset hsub hkeys _, ?_, ?_⟩
  · exact text_of_all (hlaid.all_eq hpair (.head _)) (.string _ kind)
  · exact hlaid.all_eq hpair (.tail _ (.head _))

end Json

/-- A text that may be left out is read as what says it. -/
theorem Blank.exists_reads_text (blank : Blank) (t : Text) :
    ∃ v, Option.Rel Json.Reads (blank.text t) v ∧ Json.Says v t := by
  unfold Blank.text
  by_cases ht : t = []
  · subst ht
    rw [if_pos List.isEmpty_nil]
    cases blank with
    | absent => exact ⟨none, .none, .absent⟩
    | null => exact ⟨some .null, .some Json.reads_null, .null⟩
    | empty => exact ⟨_, .some (Json.reads_literal []), .string _ _⟩
  · rw [if_neg (by simpa using ht)]
    exact ⟨_, .some (Json.reads_literal t), .string _ _⟩

end Accord
