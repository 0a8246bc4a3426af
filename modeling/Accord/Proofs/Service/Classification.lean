/-
# What callers are told about a fault

A fault is a tree: a cause gathers marks, texts and hints, and several faults are joined into one.
What callers are told depends on the *signs* that the parts of the tree show, and on nothing else
but the message of an invalid argument. The signs have a fixed order of precedence. The foremost
kind of sign that any part shows decides, and among several of that kind the first one from the
outside inward. A fault without a sign is an internal error about which nothing is told, so that
two such faults cannot be told apart.

A join that is laid open and shows no sign is judged by its first part. This adds nothing, since
that part shows no sign either.

## Main definitions

* `Fault.Occurs`: one fault is a part of another;
* `Fault.Sign`, `Fault.sign?`: what a part tells by itself;
* `Fault.Decides`: the sign that a fault is judged by;
* `Fault.Sign.answer`: what callers are told on account of a sign;
* `Fault.masked`: what callers are told when there is none.

## Main results

* `Fault.exists_decides_iff`: a sign decides as soon as there is one;
* `Fault.recognized?_of_decides`: the sign that decides is the one that is found;
* `Fault.serialize?_of_silent`: without a sign a fault is masked;
* `Fault.judged_by_foremost_sign`: the envelope of every fault.
-/

import Accord.Proofs.Service.Envelope
import Mathlib.Data.Nat.Find

namespace Accord.Fault

/-! ### Parts -/

/-- One fault is a part of another: the fault itself, or a part of a cause. -/
inductive Occurs (g : Fault) : Fault → Prop where
  | self : Occurs g g
  | unwritable {cause : Fault} (h : Occurs g cause) : Occurs g (.unwritable cause)
  | field (name : Text) {cause : Fault} (h : Occurs g cause) : Occurs g (.field name cause)
  | marked (m : Mark) {cause : Fault} (h : Occurs g cause) : Occurs g (.marked m cause)
  | context (text : Text) {cause : Fault} (h : Occurs g cause) : Occurs g (.context text cause)
  | hinted (hint : Text) {cause : Fault} (h : Occurs g cause) : Occurs g (.hinted hint cause)
  | joined (laidOpen : Bool) {cause : Fault} {causes : List Fault} (hcause : cause ∈ causes)
      (h : Occurs g cause) : Occurs g (.joined laidOpen causes)

theorem self_mem_parts (f : Fault) : f ∈ f.parts := by
  cases f <;> simp [parts]

theorem mem_partsAll {g : Fault} {causes : List Fault} :
    g ∈ partsAll causes ↔ ∃ cause ∈ causes, g ∈ cause.parts := by
  induction causes with
  | nil => simp [partsAll]
  | cons f rest ih => simp [partsAll, ih]

mutual

theorem occurs_of_mem_parts {g : Fault} : ∀ f : Fault, g ∈ f.parts → Occurs g f
  | .unwritable cause, h => by
    rcases List.mem_cons.mp h with rfl | h
    · exact .self
    · exact .unwritable (occurs_of_mem_parts cause h)
  | .field name cause, h => by
    rcases List.mem_cons.mp h with rfl | h
    · exact .self
    · exact .field name (occurs_of_mem_parts cause h)
  | .marked m cause, h => by
    rcases List.mem_cons.mp h with rfl | h
    · exact .self
    · exact .marked m (occurs_of_mem_parts cause h)
  | .context text cause, h => by
    rcases List.mem_cons.mp h with rfl | h
    · exact .self
    · exact .context text (occurs_of_mem_parts cause h)
  | .hinted hint cause, h => by
    rcases List.mem_cons.mp h with rfl | h
    · exact .self
    · exact .hinted hint (occurs_of_mem_parts cause h)
  | .joined laidOpen causes, h => by
    rcases List.mem_cons.mp h with rfl | h
    · exact .self
    · obtain ⟨cause, hcause, hoccurs⟩ := occurs_of_mem_partsAll causes h
      exact .joined laidOpen hcause hoccurs
  | .plain _, h | .foreign _, h | .missingField _, h | .unknownEnumValue _ _, h
  | .emptyUnion _, h | .safeLongRange _, h | .envelope _, h | .service _, h | .deadline, h
  | .canceled, h | .violations _ _, h | .complaints _, h => by
    obtain rfl := List.mem_singleton.mp h
    exact .self

theorem occurs_of_mem_partsAll {g : Fault} :
    ∀ causes : List Fault, g ∈ partsAll causes → ∃ cause ∈ causes, Occurs g cause
  | [], h => absurd h (by simp [partsAll])
  | f :: rest, h => by
    rcases List.mem_append.mp h with h | h
    · exact ⟨f, List.mem_cons_self, occurs_of_mem_parts f h⟩
    · obtain ⟨cause, hcause, hoccurs⟩ := occurs_of_mem_partsAll rest h
      exact ⟨cause, List.mem_cons_of_mem f hcause, hoccurs⟩

end

/-- The list of the parts has all of them. -/
theorem mem_parts_iff {f g : Fault} : g ∈ f.parts ↔ Occurs g f := by
  constructor
  · exact occurs_of_mem_parts f
  · intro h
    induction h with
    | self => exact self_mem_parts g
    | unwritable _ ih | field _ _ ih | marked _ _ ih | context _ _ ih | hinted _ _ ih =>
      exact List.mem_cons_of_mem _ ih
    | joined _ hcause _ ih => exact List.mem_cons_of_mem _ (mem_partsAll.mpr ⟨_, hcause, ih⟩)

/-! ### Signs -/

/-- What a part of a fault tells by itself. -/
inductive Sign where
  | envelope (e : Envelope)
  | service (e : ServiceError)
  | deadline
  | violations (vs : List Violation)
  | unauthorized
  | invalidArgument

/-- What callers are told about a fault that shows no sign. -/
def masked (id : Uuid) : Envelope := ⟨"INTERNAL", "Default:Internal", id, "\x7b\x7d"⟩

namespace Sign

/-- The order of precedence. -/
def rank : Sign → Nat
  | envelope _ => 0
  | service _ => 1
  | deadline => 2
  | violations _ => 3
  | unauthorized => 4
  | invalidArgument => 5

/-- What callers are told about each field; the last violation of a field stands. -/
def told (vs : List Violation) : List (Text × Any) :=
  (vs.map fun v => (v.field, .string v.message)).foldl
    (fun sofar entry => Text.upsert entry.1 entry.2 sofar) []

/-- What callers are told on account of a sign in a fault with a message. -/
def answer (id : Uuid) (message : Text) : Sign → Envelope
  | envelope e => e
  | service e =>
    match e.json? with
    | some parameters => ⟨e.code, e.name, id, parameters⟩
    | none => masked id
  | deadline => ⟨"TIMEOUT", "Default:Timeout", id, "\x7b\x7d"⟩
  | violations vs =>
    ⟨"INVALID_ARGUMENT", "Default:InvalidArgument", id,
      Json.objectOf (GenericError.membersOf (told vs))⟩
  | unauthorized => ⟨"PERMISSION_DENIED", "Default:Unauthorized", id, "\x7b\x7d"⟩
  | invalidArgument =>
    ⟨"INVALID_ARGUMENT", "Default:InvalidArgument", id,
      Json.objectOf [("message", Json.quote message)]⟩

end Sign

/-- The sign that a part shows. -/
def sign? : Fault → Option Sign
  | .envelope e => some (.envelope e)
  | .service e => some (.service e)
  | .deadline => some .deadline
  | .violations _ vs => some (.violations vs)
  | .marked .unauthorized _ => some .unauthorized
  | .marked .invalidArgument _ => some .invalidArgument
  | .plain t =>
    if t = Mark.unauthorized.text then some .unauthorized
    else if t = Mark.invalidArgument.text then some .invalidArgument
    else none
  | _ => none

/-- A sign decides a fault: no part shows a sign that precedes it, and it is the first of its
rank. -/
structure Decides (f : Fault) (s : Sign) : Prop where
  foremost : ∀ g : Fault, Occurs g f → ∀ s' : Sign, g.sign? = some s' → s.rank ≤ s'.rank
  first : ∃ (before : List Fault) (g : Fault) (after : List Fault),
    f.parts = before ++ g :: after ∧ g.sign? = some s ∧
      ∀ g' ∈ before, ∀ s' : Sign, g'.sign? = some s' → s'.rank ≠ s.rank

/-- The sign of a part, if it has a given rank. -/
def ofRank? (k : Nat) (g : Fault) : Option Sign := g.sign?.filter fun s => s.rank = k

/-- The first sign of a rank. -/
def firstOf? (f : Fault) (k : Nat) : Option Sign := f.parts.findSome? (ofRank? k)

variable {f g : Fault} {s : Sign} {k : Nat}

theorem ofRank?_eq_some : ofRank? k g = some s ↔ g.sign? = some s ∧ s.rank = k := by
  simp [ofRank?, Option.filter_eq_some_iff]

theorem ofRank?_eq_none : ofRank? k g = none ↔ ∀ s : Sign, g.sign? = some s → s.rank ≠ k := by
  simp [ofRank?, Option.filter_eq_none_iff]

theorem firstOf?_eq_none :
    f.firstOf? k = none ↔ ∀ g : Fault, Occurs g f → ∀ s : Sign, g.sign? = some s → s.rank ≠ k := by
  simp only [firstOf?, List.findSome?_eq_none_iff, mem_parts_iff, ofRank?_eq_none]

/-- A sign decides exactly if it is the first of its rank and no rank before has any. -/
theorem decides_iff :
    f.Decides s ↔ f.firstOf? s.rank = some s ∧ ∀ k < s.rank, f.firstOf? k = none := by
  have hfirst : f.firstOf? s.rank = some s ↔
      ∃ (before : List Fault) (g : Fault) (after : List Fault),
        f.parts = before ++ g :: after ∧ g.sign? = some s ∧
          ∀ g' ∈ before, ∀ s' : Sign, g'.sign? = some s' → s'.rank ≠ s.rank := by
    simp only [firstOf?, List.findSome?_eq_some_iff, ofRank?_eq_some, ofRank?_eq_none, and_true]
  constructor
  · intro h
    refine ⟨hfirst.mpr h.first, ?_⟩
    intro k hk
    rw [firstOf?_eq_none]
    intro g hg s' hs'
    have := h.foremost g hg s' hs'
    omega
  · rintro ⟨hs, hbefore⟩
    refine ⟨?_, hfirst.mp hs⟩
    intro g hg s' hs'
    by_contra hlt
    exact firstOf?_eq_none.mp (hbefore s'.rank (by omega)) g hg s' hs' rfl

/-- A sign decides as soon as there is one. -/
theorem exists_decides_iff :
    (∃ s, f.Decides s) ↔ ∃ (g : Fault) (s : Sign), Occurs g f ∧ g.sign? = some s := by
  constructor
  · rintro ⟨s, h⟩
    obtain ⟨before, g, after, hparts, hs, -⟩ := h.first
    refine ⟨g, s, mem_parts_iff.mp ?_, hs⟩
    simp [hparts]
  · rintro ⟨g, s, hg, hs⟩
    -- The least rank of which there is a sign; the first sign of that rank decides.
    have hrank : ∃ k, f.firstOf? k ≠ none :=
      ⟨s.rank, fun hnone => firstOf?_eq_none.mp hnone g hg s hs rfl⟩
    classical
    obtain ⟨s', hs'⟩ := Option.ne_none_iff_exists'.mp (Nat.find_spec hrank)
    obtain ⟨g', -, hg'⟩ := List.exists_of_findSome?_eq_some hs'
    have hrank' : s'.rank = Nat.find hrank := (ofRank?_eq_some.mp hg').2
    refine ⟨s', decides_iff.mpr ⟨hrank' ▸ hs', ?_⟩⟩
    intro k hk
    exact not_not.mp (Nat.find_min hrank (hrank' ▸ hk))

/-! ### The sign of each rank -/

theorem ofRank?_plain_of_lt (hk : k < 4) (t : Text) : ofRank? k (.plain t) = none := by
  rw [ofRank?_eq_none, sign?]
  intro s hs hrank
  split_ifs at hs <;> cases hs <;> simp only [Sign.rank] at hrank <;> omega

theorem ofRank?_marked_of_lt (hk : k < 4) (m : Mark) (cause : Fault) :
    ofRank? k (.marked m cause) = none := by
  rw [ofRank?_eq_none]
  intro s hs hrank
  cases m <;> cases hs <;> simp only [Sign.rank] at hrank <;> omega

/-- The first sign of a rank is the first of what the parts of its kind carry. -/
theorem firstOf?_eq_map {α : Type} {carried : Fault → Option α} {sign : α → Sign}
    (h : ∀ g, ofRank? k g = (carried g).map sign) (f : Fault) :
    f.firstOf? k = (f.parts.findSome? carried).map sign := by
  rw [firstOf?, List.map_findSome?]
  congr 1
  funext g
  exact h g

/-- A sign that carries nothing is found as soon as some part shows it. -/
theorem firstOf?_eq_ite {shows : Fault → Bool}
    (h : ∀ g, ofRank? k g = if shows g = true then some s else none) (f : Fault) :
    f.firstOf? k = if f.parts.any shows = true then some s else none := by
  have hshows : ofRank? k = fun g => if shows g = true then some s else none := funext h
  rw [firstOf?, hshows]
  induction f.parts with
  | nil => rfl
  | cons g rest ih => by_cases hg : shows g = true <;> simp [hg, ih]

theorem firstOf?_envelope (f : Fault) : f.firstOf? 0 = f.envelope?.map .envelope := by
  apply firstOf?_eq_map
  intro g
  cases g with
  | plain t => exact ofRank?_plain_of_lt (by decide) t
  | marked m cause => exact ofRank?_marked_of_lt (by decide) m cause
  | _ => rfl

theorem firstOf?_service (f : Fault) : f.firstOf? 1 = f.service?.map .service := by
  apply firstOf?_eq_map
  intro g
  cases g with
  | plain t => exact ofRank?_plain_of_lt (by decide) t
  | marked m cause => exact ofRank?_marked_of_lt (by decide) m cause
  | _ => rfl

theorem firstOf?_deadline (f : Fault) :
    f.firstOf? 2 = if f.hasDeadline = true then some .deadline else none := by
  apply firstOf?_eq_ite
  intro g
  cases g with
  | plain t => exact ofRank?_plain_of_lt (by decide) t
  | marked m cause => exact ofRank?_marked_of_lt (by decide) m cause
  | _ => rfl

theorem firstOf?_violations (f : Fault) : f.firstOf? 3 = f.violations?.map .violations := by
  apply firstOf?_eq_map
  intro g
  cases g with
  | plain t => exact ofRank?_plain_of_lt (by decide) t
  | marked m cause => exact ofRank?_marked_of_lt (by decide) m cause
  | _ => rfl

/-- The two classes do not share a text, so that a cause by itself shows one of them at most. -/
theorem text_unauthorized_ne : Mark.unauthorized.text ≠ Mark.invalidArgument.text := by
  decide +kernel

theorem ofRank?_plain_unauthorized (t : Text) :
    ofRank? 4 (.plain t) = if t = Mark.unauthorized.text then some .unauthorized else none := by
  rw [ofRank?, sign?]
  split_ifs <;> rfl

theorem ofRank?_plain_invalidArgument (t : Text) :
    ofRank? 5 (.plain t) =
      if t = Mark.invalidArgument.text then some .invalidArgument else none := by
  rw [ofRank?, sign?]
  by_cases ht : t = Mark.unauthorized.text
  · have hne : t ≠ Mark.invalidArgument.text := fun h => text_unauthorized_ne (ht.symm.trans h)
    rw [if_pos ht, if_neg hne]
    rfl
  · rw [if_neg ht]
    split_ifs <;> rfl

theorem firstOf?_unauthorized (f : Fault) :
    f.firstOf? 4 = if f.has .unauthorized = true then some .unauthorized else none := by
  apply firstOf?_eq_ite
  intro g
  cases g with
  | plain t =>
    rw [ofRank?_plain_unauthorized]
    simp only [decide_eq_true_eq]
  | marked m cause => cases m <;> rfl
  | _ => rfl

theorem firstOf?_invalidArgument (f : Fault) :
    f.firstOf? 5 = if f.has .invalidArgument = true then some .invalidArgument else none := by
  apply firstOf?_eq_ite
  intro g
  cases g with
  | plain t =>
    rw [ofRank?_plain_invalidArgument]
    simp only [decide_eq_true_eq]
  | marked m cause => cases m <;> rfl
  | _ => rfl

/-! ### What callers are told -/

/-- Parameters that are set one after the other. -/
theorem foldl_withParam {e : GenericError} {held : List (Text × Any)}
    (h : e.params = GenericError.paramsOf held) (entries : List (Text × Any)) :
    entries.foldl (fun e entry => e.withParam entry.1 entry.2) e =
      ⟨e.code, e.name, GenericError.paramsOf
        (entries.foldl (fun sofar entry => Text.upsert entry.1 entry.2 sofar) held)⟩ := by
  induction entries generalizing e held with
  | nil => rw [List.foldl_nil, List.foldl_nil, ← h]
  | cons entry rest ih =>
    have hparams : (e.withParam entry.1 entry.2).params =
        GenericError.paramsOf (Text.upsert entry.1 entry.2 held) := by
      rw [GenericError.withParam, h, GenericError.paramsOf, GenericError.paramsOf, Text.map_upsert]
    rw [List.foldl_cons, List.foldl_cons, ih hparams]
    rfl

theorem isWritable_of_mem_told {vs : List Violation} {entry : Text × Any}
    (h : entry ∈ Sign.told vs) : entry.2.isWritable = true := by
  rcases Text.mem_foldl_upsert h with h | h
  · cases h
  · obtain ⟨v, -, rfl⟩ := List.mem_map.mp h
    rfl

/-- The envelope of violations. -/
theorem envelope?_foldl_violations (id : Uuid) (vs : List Violation) (message : Text) :
    (vs.foldl (fun e v => e.withParam v.field (.string v.message))
      GenericError.invalidArgument).envelope? id =
      some ((Sign.violations vs).answer id message) := by
  have hfold := @foldl_withParam GenericError.invalidArgument [] rfl
    (vs.map fun v => (v.field, .string v.message))
  rw [List.foldl_map] at hfold
  rw [hfold]
  exact GenericError.envelope?_of_isWritable rfl (fun _ => isWritable_of_mem_told) id

/-- The envelope of an argument that cannot be taken. -/
theorem envelope?_invalidArgument (id : Uuid) (message : Text) :
    (GenericError.invalidArgument.withParam "message" (.string message)).envelope? id =
      some (Sign.invalidArgument.answer id message) := by
  rw [GenericError.envelope?, ServiceError.envelope?, ServiceError.json?,
    GenericError.json?_withParam rfl]
  rfl

theorem envelope?_internal (id : Uuid) : GenericError.internal.envelope? id = some (masked id) :=
  GenericError.envelope?_of_nil rfl id

/-- The foremost sign of a fault, looked for rank by rank. -/
def deciding? (f : Fault) : Option Sign :=
  (f.firstOf? 0).or ((f.firstOf? 1).or ((f.firstOf? 2).or ((f.firstOf? 3).or
    ((f.firstOf? 4).or (f.firstOf? 5)))))

theorem deciding?_of_decides (h : f.Decides s) : f.deciding? = some s := by
  obtain ⟨hs, hbefore⟩ := decides_iff.mp h
  cases s <;> simp only [Sign.rank] at hs hbefore <;> simp [deciding?, hs, hbefore]

/-- What is known about a fault is the answer to its foremost sign. In particular making the
envelope does not break down. -/
theorem recognized?_eq (id : Uuid) (f : Fault) :
    f.recognized? id = f.deciding?.map fun s => some (s.answer id f.message) := by
  rw [deciding?, firstOf?_envelope, firstOf?_service, firstOf?_deadline, firstOf?_violations,
    firstOf?_unauthorized, firstOf?_invalidArgument, recognized?]
  cases f.envelope? with
  | some e => rfl
  | none =>
    cases f.service? with
    | some e =>
      have hanswer : (e.envelope? id).or (GenericError.internal.envelope? id) =
          some ((Sign.service e).answer id f.message) := by
        rw [envelope?_internal, ServiceError.envelope?, Sign.answer]
        cases e.json? <;> rfl
      exact congrArg some hanswer
    | none =>
      cases f.hasDeadline with
      | true => exact congrArg some (GenericError.envelope?_of_nil rfl id)
      | false =>
        cases f.violations? with
        | some vs => exact congrArg some (envelope?_foldl_violations id vs f.message)
        | none =>
          cases f.has .unauthorized with
          | true => exact congrArg some (GenericError.envelope?_of_nil rfl id)
          | false =>
            cases f.has .invalidArgument with
            | true => exact congrArg some (envelope?_invalidArgument id f.message)
            | false => rfl

theorem recognized?_of_decides (h : f.Decides s) (id : Uuid) :
    f.recognized? id = some (some (s.answer id f.message)) := by
  rw [recognized?_eq, deciding?_of_decides h]
  rfl

/-! ### Faults without a sign -/

/-- No part of a fault shows a sign. -/
def Silent (f : Fault) : Prop := ∀ g : Fault, Occurs g f → g.sign? = none

theorem recognized?_of_silent (h : f.Silent) (id : Uuid) : f.recognized? id = none := by
  have hnone : ∀ k, f.firstOf? k = none := by
    intro k
    rw [firstOf?_eq_none]
    intro g hg s hs
    rw [h g hg] at hs
    cases hs
  simp [recognized?_eq, deciding?, hnone]

theorem Silent.cause {laidOpen : Bool} {cause : Fault} {causes : List Fault}
    (h : (joined laidOpen causes).Silent) (hcause : cause ∈ causes) : cause.Silent :=
  fun g hg => h g (.joined laidOpen hcause hg)

theorem silent_of_not_decides (h : ¬∃ s, f.Decides s) : f.Silent := by
  intro g hg
  by_contra hsign
  obtain ⟨s, hs⟩ := Option.ne_none_iff_exists'.mp hsign
  exact h (exists_decides_iff.mpr ⟨g, s, hg, hs⟩)

/-- Without a sign a fault is masked. A join that is laid open passes the question on to its first
part, which is silent as well. -/
theorem serialize?_of_silent (h : f.Silent) (id : Uuid) : f.serialize? id = some (masked id) := by
  fun_induction serialize? id f with
  | case1 first rest ih =>
    rw [recognized?_of_silent h]
    exact ih (h.cause List.mem_cons_self)
  | case2 f =>
    rw [recognized?_of_silent h]
    exact envelope?_internal id

theorem serialize?_of_decides (h : f.Decides s) (id : Uuid) :
    f.serialize? id = some (s.answer id f.message) := by
  fun_cases serialize? id f <;> rw [recognized?_of_decides h] <;> rfl

/-- Making the envelope of a fault never breaks down. The sign that decides gives the answer, and
one decides as soon as any part shows one. A fault without a sign is masked, so that two of them
differ in the identifier alone. It does not matter that a join may be judged by its first part. -/
theorem judged_by_foremost_sign (f : Fault) (id : Uuid) :
    f.serialize? id = some (f.toEnvelope id) ∧
    (∀ s, f.Decides s → f.toEnvelope id = s.answer id f.message) ∧
    ((∃ s, f.Decides s) ↔ ∃ (g : Fault) (s : Sign), Occurs g f ∧ g.sign? = some s) ∧
    (f.Silent → f.toEnvelope id = masked id) ∧
    f.serialize? id = (f.recognized? id).getD (GenericError.internal.envelope? id) ∧
    ∀ (f' : Fault) (id' : Uuid), f.Silent → f'.Silent →
      { f'.toEnvelope id' with id := id } = f.toEnvelope id := by
  have hdecided : ∀ s, f.Decides s → f.toEnvelope id = s.answer id f.message := by
    intro s hs
    rw [toEnvelope, serialize?_of_decides hs]
    rfl
  have hmasked : ∀ (f : Fault) (id : Uuid), f.Silent → f.toEnvelope id = masked id := by
    intro f id hf
    rw [toEnvelope, serialize?_of_silent hf]
    rfl
  refine ⟨?_, hdecided, exists_decides_iff, hmasked f id, ?_, ?_⟩
  · by_cases h : ∃ s, f.Decides s
    · obtain ⟨s, hs⟩ := h
      rw [hdecided s hs, serialize?_of_decides hs]
    · have hsilent := silent_of_not_decides h
      rw [hmasked f id hsilent, serialize?_of_silent hsilent]
  · by_cases h : ∃ s, f.Decides s
    · obtain ⟨s, hs⟩ := h
      rw [serialize?_of_decides hs, recognized?_of_decides hs]
      rfl
    · have hsilent := silent_of_not_decides h
      rw [serialize?_of_silent hsilent, recognized?_of_silent hsilent]
      exact (envelope?_internal id).symm
  · intro f' id' hf hf'
    rw [hmasked f id hf, hmasked f' id' hf']
    rfl

/-- A deadline deep inside outweighs an invalid argument further out, and two joins that hold
secrets are told alike. -/
theorem judged_by_foremost_sign_join :
    let late : Fault := .joined true [.plain "secret",
      .marked .invalidArgument (.context "book" (.plain "bad")),
      .joined false [.hinted "wait" .deadline]]
    let secret : Fault := .joined true [.context "query" (.plain "password")]
    let other : Fault := .field "key" (.joined false [])
    (late.Decides .deadline ∧
      late.toEnvelope .zero = ⟨"TIMEOUT", "Default:Timeout", .zero, "\x7b\x7d"⟩) ∧
    secret.Silent ∧ other.Silent ∧
      { other.toEnvelope .zero with id := .zero } = secret.toEnvelope .zero := by
  intro late secret other
  have hlate : late.Decides .deadline := by
    refine decides_iff.mpr ⟨rfl, ?_⟩
    intro k hk
    obtain rfl | rfl : k = 0 ∨ k = 1 := by
      rw [Sign.rank] at hk
      omega
    · rfl
    · rfl
  have hsecret : secret.Silent := by
    intro g hg
    rw [← mem_parts_iff] at hg
    simp only [secret, parts, partsAll, List.append_nil, List.mem_cons, List.not_mem_nil,
      or_false] at hg
    rcases hg with rfl | rfl | rfl <;> rfl
  have hother : other.Silent := by
    intro g hg
    rw [← mem_parts_iff] at hg
    simp only [other, parts, partsAll, List.mem_cons, List.not_mem_nil, or_false] at hg
    rcases hg with rfl | rfl <;> rfl
  exact ⟨⟨hlate, (judged_by_foremost_sign late .zero).2.1 .deadline hlate⟩, hsecret, hother,
    (judged_by_foremost_sign secret .zero).2.2.2.2.2 other .zero hsecret hother⟩

end Accord.Fault
