/-
# Fields that are left out

The code that encodes an object leaves a field out if it tests that the value is there; the code
that decodes it accepts a field that is left out if it reads it as an optional one. The first asks
how absence is told, the second whether the value has to be present. As these answers agree, what
one side may leave out is what the other side does without.

## Main definitions

* `FieldPlan.write`, `FieldPlan.read`: the statements that write and read a field;
* `FieldPlan.OmittedBy`: code may leave a field out;
* `FieldPlan.Agree`: encoding and decoding treat a field alike.

## Main results

* `Emit.omittedBy_writing_iff`, `Emit.read_mem_reading_iff`: when a field may be left out, and how
  it is read;
* `Resolver.omitted_iff_read_optional`: a field may be left out exactly if it is read as an
  optional one.
-/

import Accord.Proofs.Emit.Absence
import Accord.Proofs.Emit.Fields
import Accord.Proofs.Text.Utf8

namespace Accord

open Source

/-! ### Statements for one field -/

namespace FieldPlan

/-- The statement that hands the name and the value of a field to the writer. -/
def write (f : FieldPlan) : Stmt :=
  .expr ((Expr.ident "w").method "Field" [.string f.source.name, .select (.ident "o") f.field])

/-- The statement that has the reader put a field into its place, and passes a failure on. -/
def read (f : FieldPlan) (how : Text) : Stmt :=
  .checkErr ((Expr.ident "r").method how
    [.string f.source.name, .address (.select (.ident "v") f.field)]) []

/-- Code may leave a field out: the statement that writes it stands under a condition. -/
def OmittedBy (f : FieldPlan) (code : List Stmt) : Prop :=
  ∃ condition, Stmt.when condition [f.write] ∈ code

/-- Encoding and decoding treat a field alike: it may be left out exactly if it is read as an
optional one, and it is written in any case exactly if it is read as a required one. -/
structure Agree (f : FieldPlan) (writing reading : List Stmt) : Prop where
  omitted_iff : f.OmittedBy writing ↔ f.read "Optional" ∈ reading
  written_iff : f.write ∈ writing ↔ f.read "Required" ∈ reading
  /-- One of the two is the case, and not both. -/
  omitted_or_written : f.OmittedBy writing ↔ f.write ∉ writing

variable {f g : FieldPlan} {how how' : Text}

theorem field_eq_of_write (h : f.write = g.write) : f.field = g.field := by
  simp only [write, Expr.method, Stmt.expr.injEq, Expr.call.injEq, List.cons.injEq,
    Expr.select.injEq, true_and, and_true] at h
  exact h.2

theorem field_eq_of_read (h : f.read how = g.read how') : f.field = g.field ∧ how = how' := by
  simp only [read, Stmt.checkErr, Expr.method, Expr.address, Stmt.whenDefined.injEq,
    Expr.call.injEq, Expr.select.injEq, Expr.unary.injEq, List.cons.injEq, true_and,
    and_true] at h
  exact ⟨h.2.2, h.1⟩

end FieldPlan

/-! ### Code for all fields -/

namespace Emit

variable {r : Resolver} {name : Text} {plans : List FieldPlan} {f g : FieldPlan}

/-- The body of the method that encodes an object. -/
def writing (r : Resolver) (plans : List FieldPlan) : List Stmt :=
  [.define ["w"] (.call (r.codecs "NewObjectWriter") [])] ++
    plans.map (fun f => r.ifPresent f.source.type (.select (.ident "o") f.field) f.write) ++
    [.ret [(Expr.ident "w").method "Bytes" []]]

theorem objectMarshal_eq : objectMarshal r name plans =
    ⟨[], method "o" (.ident name) "MarshalJSON" [] [.bytes, .error] (writing r plans)⟩ := rfl

/-- The method of the reader that a field is read by. -/
def readBy (f : FieldPlan) : Text := if f.required then "Required" else "Optional"

/-- The body of the method that decodes an object. -/
def reading (r : Resolver) (name : Text) (plans : List FieldPlan) : List Stmt :=
  let reader : Expr := .call (r.codecs "NewObjectReader") [.ident "data"]
  let self : Expr := .deref (.ident "o")
  if plans.isEmpty then
    [.whenDefined ["_", "err"] reader (.isNotNull .err) [.ret [.err]],
     .assign self (.composite (.ident name) []), .ret [.null]]
  else
    [.define ["r", "err"] reader, .returnErr [], .var "v" (.ident name)] ++
      plans.map (fun f => f.read (readBy f)) ++ [.assign self (.ident "v"), .ret [.null]]

theorem objectUnmarshal_eq : objectUnmarshal r name plans =
    ⟨[], method "o" (.pointer (.ident name)) "UnmarshalJSON" [⟨"data", .bytes⟩] [.error]
      (reading r name plans)⟩ := rfl

theorem ifPresent_of_never {t : TypeExpr} {e : Expr} {s : Stmt} (h : r.emptiness t = .never) :
    r.ifPresent t e s = s := by
  rw [Resolver.ifPresent, Resolver.notEmpty?, h]

theorem ifPresent_of_ne_never {t : TypeExpr} {e : Expr} {s : Stmt} (h : r.emptiness t ≠ .never) :
    ∃ condition, r.ifPresent t e s = .when condition [s] := by
  unfold Resolver.ifPresent Resolver.notEmpty?
  cases hempty : r.emptiness t with
  | never => exact absurd hempty h
  | null => exact ⟨_, rfl⟩
  | length => exact ⟨_, rfl⟩
  | wrapped => exact ⟨_, rfl⟩

/-- The statements that encode an object, apart from its first and its last, write its fields. -/
theorem mem_writing_iff {s : Stmt} : s ∈ writing r plans ↔
    s = .define ["w"] (.call (r.codecs "NewObjectWriter") []) ∨
    (∃ g ∈ plans, r.ifPresent g.source.type (.select (.ident "o") g.field) g.write = s) ∨
    s = .ret [(Expr.ident "w").method "Bytes" []] := by
  simp only [writing, List.mem_append, List.mem_singleton, List.mem_map, or_assoc]

/-- A statement that encodes an object writes a field in any case or under a condition, if it is not
the first or the last. -/
theorem writing_cases {s : Stmt} (h : s ∈ writing r plans) :
    s = .define ["w"] (.call (r.codecs "NewObjectWriter") []) ∨
    (∃ g ∈ plans, r.emptiness g.source.type = .never ∧ s = g.write) ∨
    (∃ g ∈ plans, r.emptiness g.source.type ≠ .never ∧ ∃ condition, s = .when condition [g.write]) ∨
    s = .ret [(Expr.ident "w").method "Bytes" []] := by
  rcases mem_writing_iff.mp h with hfirst | ⟨g, hg, rfl⟩ | hlast
  · exact .inl hfirst
  · by_cases hempty : r.emptiness g.source.type = .never
    · exact .inr (.inl ⟨g, hg, hempty, ifPresent_of_never hempty⟩)
    · exact .inr (.inr (.inl ⟨g, hg, hempty, ifPresent_of_ne_never hempty⟩))
  · exact .inr (.inr (.inr hlast))

section Distinct

variable (hnodup : (plans.map (·.field)).Nodup) (hf : f ∈ plans)

include hnodup hf

/-- A field may be left out exactly if its absence can be told. -/
theorem omittedBy_writing_iff :
    f.OmittedBy (writing r plans) ↔ r.emptiness f.source.type ≠ .never := by
  constructor
  · intro homitted hnever
    obtain ⟨condition, hmem⟩ := homitted
    rcases writing_cases hmem with h | ⟨g, -, -, h⟩ | ⟨g, hg, hempty, condition', h⟩ | h
    · cases h
    · cases h
    · rw [Stmt.when.injEq, List.cons.injEq] at h
      -- The fields have identifiers of their own, so that it is this one that is written.
      have hfield := FieldPlan.field_eq_of_write h.2.1.symm
      obtain rfl := List.inj_on_of_nodup_map hnodup hg hf hfield
      exact hempty hnever
    · cases h
  · intro hempty
    obtain ⟨condition, hwhen⟩ := ifPresent_of_ne_never (e := .select (.ident "o") f.field)
      (s := f.write) hempty
    exact ⟨condition, mem_writing_iff.mpr (.inr (.inl ⟨f, hf, hwhen⟩))⟩

/-- A field is written in any case exactly if it never is absent. -/
theorem write_mem_writing_iff :
    f.write ∈ writing r plans ↔ r.emptiness f.source.type = .never := by
  constructor
  · intro hmem
    rcases writing_cases hmem with h | ⟨g, hg, hempty, h⟩ | ⟨g, -, -, condition, h⟩ | h
    · cases h
    · obtain rfl := List.inj_on_of_nodup_map hnodup hg hf (FieldPlan.field_eq_of_write h.symm)
      exact hempty
    · cases h
    · cases h
  · intro hempty
    exact mem_writing_iff.mpr (.inr (.inl ⟨f, hf, ifPresent_of_never hempty⟩))

/-- A field is read by one method of the reader. -/
theorem read_mem_reading_iff {how : Text} :
    f.read how ∈ reading r name plans ↔ how = readBy f := by
  have hne : plans.isEmpty = false := by
    rw [List.isEmpty_eq_false_iff]
    exact List.ne_nil_of_mem hf
  unfold reading
  simp only [hne, Bool.false_eq_true, if_false, List.mem_append, List.mem_map, List.mem_cons,
    List.not_mem_nil, or_false]
  constructor
  · intro hmem
    rcases hmem with ((hdefine | hreturn | hvar) | ⟨g, hg, hread⟩) | hassign | hret
    · cases hdefine
    · cases hreturn
    · cases hvar
    · obtain ⟨hfield, hhow⟩ := FieldPlan.field_eq_of_read hread
      obtain rfl := List.inj_on_of_nodup_map hnodup hg hf hfield
      exact hhow.symm
    · cases hassign
    · cases hret
  · intro hhow
    exact .inl (.inr ⟨f, hf, by rw [hhow]⟩)

end Distinct

/-- Encoding and decoding treat a field alike if it is required exactly if it never is absent. -/
theorem agree_of_required_iff (hnodup : (plans.map (·.field)).Nodup) (hf : f ∈ plans)
    (h : f.required = true ↔ r.emptiness f.source.type = .never) :
    f.Agree (writing r plans) (reading r name plans) := by
  have hoptional : ("Optional" : Text) = readBy f ↔ ¬ f.required = true := by
    unfold readBy
    cases f.required <;> simp [Text.ofString_inj]
  have hrequired : ("Required" : Text) = readBy f ↔ f.required = true := by
    unfold readBy
    cases f.required <;> simp [Text.ofString_inj]
  constructor
  · rw [omittedBy_writing_iff hnodup hf, read_mem_reading_iff hnodup hf, hoptional, h]
  · rw [write_mem_writing_iff hnodup hf, read_mem_reading_iff hnodup hf, hrequired, h]
  · rw [omittedBy_writing_iff hnodup hf, write_mem_writing_iff hnodup hf]

end Emit

namespace Resolver

/-- Values of a type that leads to an end have to be present exactly if there is no way to tell that
they are absent. So the generated code of an object, if the types of its fields lead to an end,
may leave a field out where it encodes the object exactly if it reads the field as an optional one
where it decodes it. -/
theorem omitted_iff_read_optional (r : Resolver) :
    (∀ t u, r.EndsAt t u → (r.isRequired t = true ↔ r.emptiness t = .never)) ∧
    ∀ owner name fields docs seed s items plans s',
      (∀ f ∈ fields, ∃ u, r.EndsAt f.type u) →
      Emit.object r owner name fields docs seed s = .ok ((items, plans), s') →
      plans.map (·.source) = fields ∧
      ∃ front writing reading, items = front ++
          [⟨[], Emit.method "o" (.ident name) "MarshalJSON" [] [.bytes, .error] writing⟩,
           ⟨[], Emit.method "o" (.pointer (.ident name)) "UnmarshalJSON" [⟨"data", .bytes⟩]
             [.error] reading⟩] ∧
        ∀ f ∈ plans, f.Agree writing reading := by
  refine ⟨fun t u h => isRequired_iff_never h, ?_⟩
  intro owner name fields docs seed s items plans s' hends hobject
  obtain ⟨b, hbuilt⟩ := Emit.yields_object owner name fields docs seed s _ s' hobject
  have hitems := hbuilt.items_eq
  rw [Emit.objectMarshal_eq, Emit.objectUnmarshal_eq] at hitems
  refine ⟨hbuilt.map_source, _, Emit.writing r plans, Emit.reading r name plans, hitems, ?_⟩
  intro f hf
  have hmem : f.source ∈ fields := by
    rw [← hbuilt.map_source]
    exact List.mem_map_of_mem hf
  obtain ⟨u, hu⟩ := hends f.source hmem
  apply Emit.agree_of_required_iff hbuilt.nodup hf
  rw [(hbuilt.plans_source hf).required]
  exact isRequired_iff_never hu

/-! ### An object with two fields -/

/-- The fields of a letter: one falls back to the alias, the other is a string. -/
def letterFields : List FieldDef :=
  [{ name := "reply", type := fallbackToHandle }, { name := "id", type := .primitive .string }]

theorem endsAt_letterFields : ∀ f ∈ letterFields, ∃ u, optionalHandle.EndsAt f.type u := by
  intro f hf
  simp only [letterFields, List.mem_cons, List.not_mem_nil, or_false] at hf
  rcases hf with rfl | rfl
  · exact ⟨_, endsAt_fallbackToHandle⟩
  · refine ⟨.primitive .string, .refl, ?_⟩
    intro t h
    cases h

/-- The code of a letter is generated, and both sides agree on its two fields. -/
theorem omitted_iff_read_optional_letter :
    ∃ items plans s', Emit.object optionalHandle ⟨"Letter", "com.example.a"⟩ "Letter" letterFields
        [] [] { names := {} } = .ok ((items, plans), s') ∧
      plans.map (·.source) = letterFields ∧
      ∃ front writing reading, items = front ++
          [⟨[], Emit.method "o" (.ident "Letter") "MarshalJSON" [] [.bytes, .error] writing⟩,
           ⟨[], Emit.method "o" (.pointer (.ident "Letter")) "UnmarshalJSON" [⟨"data", .bytes⟩]
             [.error] reading⟩] ∧
        ∀ f ∈ plans, f.Agree writing reading := by
  have hok : (Emit.object optionalHandle ⟨"Letter", "com.example.a"⟩ "Letter" letterFields [] []
      { names := {} }).isOk = true := by decide +kernel
  obtain ⟨⟨⟨items, plans⟩, s'⟩, hobject⟩ := Outcome.isOk_iff.mp hok
  exact ⟨items, plans, s', hobject, (omitted_iff_read_optional optionalHandle).2 _ _ _ _ _ _ _ _ _
    endsAt_letterFields hobject⟩

end Resolver

end Accord
