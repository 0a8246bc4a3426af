/-
# The rules of contracts

The check of a contract goes through the document once and reports what it meets. What it
enforces is said here without it: names that are different from each other, references to
what is declared, and endpoints whose arguments fit their paths. A contract is reported to have no
problems exactly if it keeps these rules.

## Main definitions

* `TypeExpr.Mentions`: a reference to a name stands inside of a type;
* `Contract.Uses`: a type is that of a field, variant, alias, argument or result;
* `EndpointDef.Fits`: the arguments of an endpoint fit its method and path;
* `Contract.Consistent`: all rules together.

## Main results

* `Contract.scan_eq_nil_iff`: a scan for repetitions reports nothing exactly if there are none;
* `Contract.pathProblems_eq_nil_iff`: path arguments fit exactly if they are the parameters of the
  path, each of which stands there once;
* `Contract.consistent_of_problems`, `Contract.Consistent.problems`: what the check says about the
  rules, and the rules about the check;
* `Contract.problems_eq_nil_iff`: the check reports nothing exactly if all rules are kept.
-/

import Accord.Proofs.Contract.Names
import Accord.Proofs.Text.Order

namespace Accord

/-! ### Rules -/

/-- A reference to a name stands inside of a type. -/
inductive TypeExpr.Mentions : TypeExpr → TypeName → Prop where
  | reference (n : TypeName) : Mentions (.reference n) n
  | optional {item : TypeExpr} {n : TypeName} (h : Mentions item n) : Mentions (.optional item) n
  | list {item : TypeExpr} {n : TypeName} (h : Mentions item n) : Mentions (.list item) n
  | set {item : TypeExpr} {n : TypeName} (h : Mentions item n) : Mentions (.set item) n
  | key {key value : TypeExpr} {n : TypeName} (h : Mentions key n) : Mentions (.map key value) n
  | value {key value : TypeExpr} {n : TypeName} (h : Mentions value n) :
    Mentions (.map key value) n
  | fallback {target n : TypeName} {fallback : TypeExpr} (h : Mentions fallback n) :
    Mentions (.externalOr target fallback) n

/-- A type is that of a field or variant, or what an alias stands for. -/
def Definition.Uses (d : Definition) (t : TypeExpr) : Prop :=
  match d.shape with
  | .object fields => ∃ f ∈ fields, f.type = t
  | .union variants => ∃ v ∈ variants, v.type = t
  | .aliasFor target _ => target = t
  | .enum _ => False

/-- A type is that of an argument, or the result. -/
def EndpointDef.Uses (e : EndpointDef) (t : TypeExpr) : Prop :=
  (∃ a ∈ e.args, a.type = t) ∨ e.returns = some t

/-- The parts of a definition have different names, and a union has a variant. -/
def Definition.Consistent (d : Definition) : Prop :=
  match d.shape with
  | .object fields => (fields.map (·.name)).Nodup
  | .union variants => variants ≠ [] ∧ (variants.map (·.name)).Nodup
  | .aliasFor _ _ => True
  | .enum values => (values.map (·.value)).Nodup

/-- The arguments of an endpoint fit its method and path. -/
structure EndpointDef.Fits (e : EndpointDef) : Prop where
  /-- The path is a template, each parameter of which stands there once, and the parameters are
  the path arguments. -/
  path : ∃ t, Template.parse e.path = .ok t ∧ t.names.Nodup ∧
    ∀ p, p ∈ t.names ↔ ∃ a ∈ e.args, a.kind = .path ∧ a.name = p
  args : (e.args.map (·.name)).Nodup
  body : e.args.countP (·.kind = .body) ≤ 1
  get : e.method = "GET" → ∀ a ∈ e.args, a.kind ≠ .body

namespace Contract

/-- A type is that of a field, variant, alias, argument or result of a contract. -/
def Uses (c : Contract) (t : TypeExpr) : Prop :=
  (∃ d ∈ c.types, d.Uses t) ∨ (∃ e ∈ c.errors, ∃ f ∈ e.args, f.type = t) ∨
    ∃ s ∈ c.services, ∃ e ∈ s.endpoints, e.Uses t

/-- The names that references may refer to. -/
def Declares (c : Contract) (n : TypeName) : Prop :=
  n ∈ c.types.map (·.name) ++ c.errors.map (·.name)

/-- The rules that a contract has to keep. -/
structure Consistent (c : Contract) : Prop where
  version : c.version = 0 ∨ c.version = 1
  named : ∀ n, c.Declares n → n.name ≠ []
  distinct : (c.types.map (·.name) ++ c.errors.map (·.name)).Nodup
  references : ∀ t, c.Uses t → ∀ n, t.Mentions n → c.Declares n
  definitions : ∀ d ∈ c.types, d.Consistent
  arguments : ∀ e ∈ c.errors, (e.args.map (·.name)).Nodup
  spaces : ∀ e ∈ c.errors, e.space ≠ []
  endpoints : ∀ s ∈ c.services, (s.endpoints.map (·.name)).Nodup ∧ ∀ e ∈ s.endpoints, e.Fits

end Contract

/-! ### References -/

/-- The names that a type refers to are those of the references inside of it. -/
theorem TypeExpr.mem_references {t : TypeExpr} {n : TypeName} :
    n ∈ t.references ↔ t.Mentions n := by
  constructor
  · intro h
    induction t with
    | primitive p => cases h
    | optional item ih => exact .optional (ih h)
    | list item ih => exact .list (ih h)
    | set item ih => exact .set (ih h)
    | map key value ihk ihv =>
      rcases List.mem_append.mp h with h | h
      · exact .key (ihk h)
      · exact .value (ihv h)
    | reference target =>
      obtain rfl := List.mem_singleton.mp h
      exact .reference n
    | external target => cases h
    | externalOr target fallback ih => exact .fallback (ih h)
  · intro h
    induction h with
    | reference n => exact List.mem_singleton_self n
    | optional _ ih => exact ih
    | list _ ih => exact ih
    | set _ ih => exact ih
    | key _ ih => exact List.mem_append_left _ ih
    | value _ ih => exact List.mem_append_right _ ih
    | fallback _ ih => exact ih

namespace Contract

variable {c : Contract} {declared : List TypeName} {n : TypeName}

/-- All references inside of a type are to names of a list. -/
def Refers (declared : List TypeName) (t : TypeExpr) : Prop := ∀ n, t.Mentions n → n ∈ declared

theorem referenceProblems_eq_nil_iff {place : Text} {t : TypeExpr} :
    referenceProblems declared place t = [] ↔ Refers declared t := by
  simp [referenceProblems, Refers, TypeExpr.mem_references]

/-! ### Repetitions -/

/-- A scan that reports a name it has met before, and what is wrong with each element otherwise,
reports nothing exactly if the names are new and different from each other, and nothing is wrong
with any element. -/
theorem scan_eq_nil_iff {α : Type} (scan : List Text → List α → List Problem) (name : α → Text)
    (repeated : α → Problem) (own : α → List Problem) (hnil : ∀ seen, scan seen [] = [])
    (hcons : ∀ seen a rest, scan seen (a :: rest) =
      (if seen.contains (name a) then [repeated a] else []) ++ own a ++ scan (name a :: seen) rest)
    {seen : List Text} {as : List α} :
    scan seen as = [] ↔
      (∀ a ∈ as, name a ∉ seen) ∧ (as.map name).Nodup ∧ ∀ a ∈ as, own a = [] := by
  induction as generalizing seen with
  | nil => simp [hnil]
  | cons a rest ih =>
    have hhead : (if seen.contains (name a) then [repeated a] else []) = [] ↔ name a ∉ seen := by
      simp
    rw [hcons, List.append_eq_nil_iff, List.append_eq_nil_iff, hhead, ih, List.map_cons,
      List.nodup_cons, List.forall_mem_cons, List.forall_mem_cons]
    constructor
    · rintro ⟨⟨ha, hown⟩, hnew, hnodup, hrest⟩
      refine ⟨⟨ha, fun b hb hs => hnew b hb (List.mem_cons_of_mem _ hs)⟩, ⟨fun hmem => ?_, hnodup⟩,
        hown, hrest⟩
      obtain ⟨b, hb, hname⟩ := List.mem_map.mp hmem
      exact hnew b hb (hname ▸ List.mem_cons_self)
    · rintro ⟨⟨ha, hnew⟩, ⟨hfirst, hnodup⟩, hown, hrest⟩
      refine ⟨⟨ha, hown⟩, fun b hb hs => ?_, hnodup, hrest⟩
      rcases List.mem_cons.mp hs with hname | hs
      · exact hfirst (hname ▸ List.mem_map_of_mem hb)
      · exact hnew b hb hs

theorem fieldProblems_eq_nil_iff {owner : Text} {fields : List FieldDef} :
    fieldProblems declared owner [] fields = [] ↔
      (fields.map (·.name)).Nodup ∧ ∀ f ∈ fields, Refers declared f.type := by
  rw [scan_eq_nil_iff (fieldProblems declared owner) (·.name) _ _ (fun _ => rfl)
    fun _ _ _ => rfl]
  simp [referenceProblems_eq_nil_iff]

theorem valueProblems_eq_nil_iff {owner : Text} {values : List EnumValue} :
    valueProblems owner [] values = [] ↔ (values.map (·.value)).Nodup := by
  rw [scan_eq_nil_iff (valueProblems owner) (·.value) (fun v => .duplicateEnumValue v.value owner)
    (fun _ => []) (fun _ => rfl) fun _ _ _ => by rw [List.append_nil]; rfl]
  simp

theorem argumentProblems_eq_nil_iff {endpoint : Text} {args : List ArgDef} :
    argumentProblems declared endpoint [] args = [] ↔
      (args.map (·.name)).Nodup ∧ ∀ a ∈ args, Refers declared a.type := by
  rw [scan_eq_nil_iff (argumentProblems declared endpoint) (·.name) _ _ (fun _ => rfl)
    fun _ _ _ => rfl]
  simp [referenceProblems_eq_nil_iff]

theorem endpointsProblems_eq_nil_iff {service : TypeName} {endpoints : List EndpointDef} :
    endpointsProblems declared service [] endpoints = [] ↔
      (endpoints.map (·.name)).Nodup ∧
        ∀ e ∈ endpoints, endpointProblems declared service e = [] := by
  rw [scan_eq_nil_iff (endpointsProblems declared service) (·.name) _ _ (fun _ => rfl)
    fun _ _ _ => rfl]
  simp

/-! ### Types and errors -/

theorem definitionProblems_eq_nil_iff {d : Definition} :
    definitionProblems declared d = [] ↔
      d.Consistent ∧ ∀ t, d.Uses t → Refers declared t := by
  unfold definitionProblems Definition.Consistent Definition.Uses
  cases d.shape with
  | object fields => simp [fieldProblems_eq_nil_iff]
  | union variants => simp [fieldProblems_eq_nil_iff, and_assoc]
  | aliasFor target safety => simp [referenceProblems_eq_nil_iff]
  | enum values => simp [valueProblems_eq_nil_iff]

theorem errorProblems_eq_nil_iff {e : ErrorDef} :
    errorProblems declared e = [] ↔ (e.args.map (·.name)).Nodup ∧ e.space ≠ [] ∧
      ∀ f ∈ e.args, Refers declared f.type := by
  have hspace : (if e.space.isEmpty then [Problem.emptyNamespace e.name] else []) = [] ↔
      e.space ≠ [] := by
    simp
  rw [errorProblems, List.append_eq_nil_iff, fieldProblems_eq_nil_iff, hspace, and_right_comm,
    and_assoc]

/-! ### Endpoints -/

theorem bodyProblems_eq_nil_iff {endpoint : Text} {e : EndpointDef} :
    bodyProblems endpoint e = [] ↔
      e.args.countP (·.kind = .body) ≤ 1 ∧ (e.method = "GET" → ∀ a ∈ e.args, a.kind ≠ .body) := by
  have hnone : 0 < e.args.countP (·.kind = .body) ↔ ¬ ∀ a ∈ e.args, a.kind ≠ .body := by
    simp [List.countP_pos_iff]
  unfold bodyProblems
  rw [← List.countP_eq_length_filter]
  by_cases hget : e.method = "GET" <;> simp [hget, hnone, -not_forall]

/-- Every parameter finds an argument exactly if all are arguments and none stands twice: the
first to find an argument uses it up. -/
theorem unboundParameters_eq_nil_iff {args params : List Text} :
    unboundParameters args params = [] ↔ params.Nodup ∧ ∀ p ∈ params, p ∈ args := by
  induction params generalizing args with
  | nil => simp [unboundParameters]
  | cons p rest ih =>
    rw [unboundParameters, List.append_eq_nil_iff, ih, List.nodup_cons, List.forall_mem_cons]
    simp only [List.mem_filter, bne_iff_ne]
    have hhead : (if args.contains p then [] else [p]) = [] ↔ p ∈ args := by simp
    rw [hhead]
    constructor
    · rintro ⟨hp, hnodup, hrest⟩
      exact ⟨⟨fun hmem => (hrest p hmem).2 rfl, hnodup⟩, hp, fun q hq => (hrest q hq).1⟩
    · rintro ⟨⟨hnew, hnodup⟩, hp, hrest⟩
      exact ⟨hp, hnodup, fun q hq => ⟨hrest q hq, fun heq => hnew (heq ▸ hq)⟩⟩

/-- Path arguments fit exactly if they are the parameters of the path, each of which stands there
once. -/
theorem pathProblems_eq_nil_iff {endpoint : Text} {e : EndpointDef} {t : Template} :
    pathProblems endpoint e t = [] ↔
      t.names.Nodup ∧ ∀ p, p ∈ t.names ↔ ∃ a ∈ e.args, a.kind = .path ∧ a.name = p := by
  have hargs : ∀ p, p ∈ Text.distinct ((e.args.filter (·.kind = .path)).map (·.name)) ↔
      ∃ a ∈ e.args, a.kind = .path ∧ a.name = p := by
    simp [Text.mem_distinct, and_assoc]
  unfold pathProblems
  extract_lets args extra
  have hextra : (if extra.isEmpty then [] else
      [Problem.unknownPathArguments endpoint extra e.path]) = [] ↔ ∀ p ∈ args, p ∈ t.names := by
    simp [extra, Text.sort_eq_nil_iff]
  rw [List.append_eq_nil_iff, List.map_eq_nil_iff, unboundParameters_eq_nil_iff, hextra, and_assoc]
  refine and_congr_right fun _ => ?_
  simp only [← hargs]
  exact ⟨fun h p => ⟨h.1 p, h.2 p⟩, fun h => ⟨fun p => (h p).mp, fun p => (h p).mpr⟩⟩

theorem endpointProblems_eq_nil_iff {service : TypeName} {e : EndpointDef} :
    endpointProblems declared service e = [] ↔ e.Fits ∧ ∀ t, e.Uses t → Refers declared t := by
  have huses : (∀ t, e.Uses t → Refers declared t) ↔
      (∀ a ∈ e.args, Refers declared a.type) ∧ ∀ t, e.returns = some t → Refers declared t := by
    simp [EndpointDef.Uses, or_imp, forall_and]
  unfold endpointProblems
  extract_lets endpoint returns template path fit
  have hreturns : returns = [] ↔ ∀ t, e.returns = some t → Refers declared t := by
    dsimp only [returns]
    cases e.returns with
    | none => simp
    | some t => simp [referenceProblems_eq_nil_iff]
  have hpath : path = [] ∧ fit = [] ↔ ∃ t, Template.parse e.path = .ok t ∧ t.names.Nodup ∧
      ∀ p, p ∈ t.names ↔ ∃ a ∈ e.args, a.kind = .path ∧ a.name = p := by
    dsimp only [path, fit, template]
    cases Template.parse e.path with
    | error cause => simp
    | ok t => simp [pathProblems_eq_nil_iff]
  simp only [List.append_eq_nil_iff, hreturns, argumentProblems_eq_nil_iff,
    bodyProblems_eq_nil_iff, huses]
  constructor
  · rintro ⟨⟨⟨⟨hret, hparsed⟩, hargs, hrefs⟩, hbody, hget⟩, hfit⟩
    exact ⟨⟨hpath.mp ⟨hparsed, hfit⟩, hargs, hbody, hget⟩, hrefs, hret⟩
  · rintro ⟨⟨hfits, hargs, hbody, hget⟩, hrefs, hret⟩
    obtain ⟨hparsed, hfit⟩ := hpath.mpr hfits
    exact ⟨⟨⟨⟨hret, hparsed⟩, hargs, hrefs⟩, hbody, hget⟩, hfit⟩

/-! ### Documents -/

theorem map_fst_declarations (c : Contract) :
    c.declarations.map (·.1) = c.types.map (·.name) ++ c.errors.map (·.name) := by
  simp [declarations, List.map_map, Function.comp_def]

/-- Where no name is empty, references may be to all names of types and errors. -/
theorem refers_declaredNames_iff (hnamed : ∀ n, c.Declares n → n.name ≠ []) {t : TypeExpr} :
    Refers c.declaredNames t ↔ ∀ n, t.Mentions n → c.Declares n := by
  have hmem : ∀ n, n ∈ c.declaredNames ↔ c.Declares n := by
    intro n
    rw [declaredNames, map_fst_declarations, List.mem_filter]
    exact and_iff_left_of_imp fun h => by simpa using hnamed n h
  simp only [Refers, hmem]

theorem nameProblems_declarations_eq_nil_iff : nameProblems [] c.declarations = [] ↔
    (∀ n, c.Declares n → n.name ≠ []) ∧
      (c.types.map (·.name) ++ c.errors.map (·.name)).Nodup := by
  rw [nameProblems_eq_nil_iff, map_fst_declarations]
  simp only [List.not_mem_nil, not_false_eq_true, and_true]
  rfl

/-- The problems of a contract are those of its parts. -/
theorem problems_eq_nil_iff_parts : c.problems = [] ↔
    (c.version = 0 ∨ c.version = 1) ∧ nameProblems [] c.declarations = [] ∧
      (∀ d ∈ c.types, definitionProblems c.declaredNames d = []) ∧
      (∀ e ∈ c.errors, errorProblems c.declaredNames e = []) ∧
      ∀ s ∈ c.services, endpointsProblems c.declaredNames s.name [] s.endpoints = [] := by
  have hversion : (if c.version = 0 || c.version = 1 then [] else
      [Problem.unsupportedVersion c.version]) = [] ↔ c.version = 0 ∨ c.version = 1 := by
    simp [Decidable.or_iff_not_imp_left]
  simp only [problems, List.append_eq_nil_iff, hversion, List.flatMap_eq_nil_iff, and_assoc]

/-- A contract without problems keeps all rules. -/
theorem consistent_of_problems (h : c.problems = []) : c.Consistent := by
  obtain ⟨hversion, hnames, htypes, herrors, hservices⟩ := problems_eq_nil_iff_parts.mp h
  obtain ⟨hnamed, hdistinct⟩ := nameProblems_declarations_eq_nil_iff.mp hnames
  simp only [definitionProblems_eq_nil_iff, errorProblems_eq_nil_iff, endpointsProblems_eq_nil_iff,
    endpointProblems_eq_nil_iff, refers_declaredNames_iff hnamed] at htypes herrors hservices
  exact
    { version := hversion
      named := hnamed
      distinct := hdistinct
      references := by
        rintro t (⟨d, hd, ht⟩ | ⟨e, he, f, hf, rfl⟩ | ⟨s, hs, e, he, ht⟩)
        · exact (htypes d hd).2 t ht
        · exact (herrors e he).2.2 f hf
        · exact ((hservices s hs).2 e he).2 t ht
      definitions := fun d hd => (htypes d hd).1
      arguments := fun e he => (herrors e he).1
      spaces := fun e he => (herrors e he).2.1
      endpoints := fun s hs => ⟨(hservices s hs).1, fun e he => ((hservices s hs).2 e he).1⟩ }

/-- A contract that keeps all rules has no problems. -/
theorem Consistent.problems (h : c.Consistent) : c.problems = [] := by
  refine problems_eq_nil_iff_parts.mpr ⟨h.version,
    nameProblems_declarations_eq_nil_iff.mpr ⟨h.named, h.distinct⟩, fun d hd => ?_, fun e he => ?_,
    fun s hs => ?_⟩
  · rw [definitionProblems_eq_nil_iff]
    refine ⟨h.definitions d hd, fun t ht => (refers_declaredNames_iff h.named).mpr ?_⟩
    exact h.references t (.inl ⟨d, hd, ht⟩)
  · rw [errorProblems_eq_nil_iff]
    refine ⟨h.arguments e he, h.spaces e he, fun f hf => (refers_declaredNames_iff h.named).mpr ?_⟩
    exact h.references f.type (.inr (.inl ⟨e, he, f, hf, rfl⟩))
  · simp only [endpointsProblems_eq_nil_iff, endpointProblems_eq_nil_iff]
    refine ⟨(h.endpoints s hs).1, fun e he => ⟨(h.endpoints s hs).2 e he, fun t ht =>
      (refers_declaredNames_iff h.named).mpr ?_⟩⟩
    exact h.references t (.inr (.inr ⟨s, hs, e, he, ht⟩))

/-- The check of a contract reports nothing exactly if the contract keeps all rules. -/
theorem problems_eq_nil_iff (c : Contract) : c.problems = [] ↔ c.Consistent :=
  ⟨consistent_of_problems, Consistent.problems⟩

end Contract

end Accord
