/-
# Identifiers never clash

A scope is asked for identifiers again and again. It never gives the same one twice, nor one that
it was seeded with, nor one that has a meaning of its own everywhere, and it fails only when every
spelling of a name is taken.

The table of a run has a scope for each package, which the types of the package share with
everything else that is declared there. Types keep the identifiers they get. So within a package
two answers are the same only if the same type was asked for, and the same type always gets the
same answer.

## Main definitions

* `Scope.call`, `NameTable.call`: what scopes and tables of names are asked for;
* `NameTable.Grows`: what every request does to a table;
* `NameTable.Settled`: the answer that a type has for good;
* `NameTable.Held`: an identifier that is given to a type, or to something else in its package.

## Main results

* `Scope.not_isReserved_of_mem_candidates`: no spelling has a meaning of its own;
* `NameTable.Issued.call`: what every request keeps;
* `NameTable.identifiers_apart`: the identifiers of every history.
-/

import Accord.Proofs.History
import Accord.Proofs.Source.Scope
import Accord.Proofs.Text.Decimal
import Mathlib.Data.List.Nodup

namespace Accord.Source

/-- An identifier with a meaning of its own has no underscore. -/
theorem underscore_not_mem_of_isReserved {t : Text} (h : isReserved t = true) :
    Text.byte '_' ∉ t := by
  have table : (keywords ++ predeclared).all (fun w => !w.contains (Text.byte '_')) = true := by
    decide +kernel
  have hmem : t ∈ keywords ++ predeclared := by
    simpa [isReserved] using h
  simpa using List.all_eq_true.mp table t hmem

namespace Scope

variable {s : Scope} {name ident c : Text}

/-! ### Spellings -/

/-- The bytes that are put after a name. -/
def isEndingByte (b : UInt8) : Bool := b = Text.byte '_' || Text.isDigitByte b

/-- A spelling of a name is the name with something after it, in which there is an underscore
unless the spelling is the name itself. -/
theorem exists_ending_of_mem_candidates (h : c ∈ candidates name) :
    ∃ ending : Text, c = name ++ ending ∧ (∀ b ∈ ending, isEndingByte b = true) ∧
      (Text.byte '_' ∈ ending ∨ ending = [] ∧ isReserved name = false) := by
  have hunderscore : ("_" : Text) = [Text.byte '_'] := rfl
  have hending : ∀ b ∈ ("_" : Text), isEndingByte b = true := List.all_eq_true.mp rfl
  -- The name, or the name and an underscore, comes first in every spelling.
  obtain ⟨start, hstart, hbytes, hcases⟩ : ∃ start : Text,
      (if isReserved name then name ++ ("_" : Text) else name) = name ++ start ∧
        (∀ b ∈ start, isEndingByte b = true) ∧
        (Text.byte '_' ∈ start ∨ start = [] ∧ isReserved name = false) := by
    cases isReserved name with
    | true => exact ⟨"_", rfl, hending, .inl (by simp [hunderscore])⟩
    | false => exact ⟨[], (List.append_nil _).symm, by simp, .inr ⟨rfl, rfl⟩⟩
  simp only [candidates, hstart, List.mem_append, List.mem_cons, List.not_mem_nil, or_false,
    List.mem_map] at h
  rcases h with (rfl | rfl) | ⟨n, -, rfl⟩
  · exact ⟨start, rfl, hbytes, hcases⟩
  · refine ⟨start ++ "_", by simp, fun b hb => ?_, .inl (by simp [hunderscore])⟩
    exact (List.mem_append.mp hb).elim (hbytes b) (hending b)
  · refine ⟨start ++ "_" ++ Text.ofNat (n + 2), by simp, fun b hb => ?_,
      .inl (by simp [hunderscore])⟩
    rw [List.mem_append, List.mem_append] at hb
    rcases hb with (hb | hb) | hb
    · exact hbytes b hb
    · exact hending b hb
    · simp [isEndingByte, Text.isDigitByte_of_mem_ofNat hb]

/-- No spelling of a name has a meaning of its own everywhere. -/
theorem not_isReserved_of_mem_candidates (h : c ∈ candidates name) : isReserved c = false := by
  obtain ⟨ending, rfl, -, hunderscore | ⟨rfl, hname⟩⟩ := exists_ending_of_mem_candidates h
  · rw [Bool.eq_false_iff]
    intro hreserved
    exact underscore_not_mem_of_isReserved hreserved (List.mem_append_right _ hunderscore)
  · rw [List.append_nil]
    exact hname

theorem length_candidates (name : Text) : (candidates name).length = 10 := by
  simp [candidates]

theorem nodup_candidates (name : Text) : (candidates name).Nodup := by
  unfold candidates
  generalize (if isReserved name then name ++ ("_" : Text) else name) = base
  -- The numbers are written in different ways, and none of them is written as nothing.
  have hnumbered :
      ((List.range 8).map fun n : Nat => base ++ ("_" ++ Text.ofNat (n + 2))).Nodup := by
    refine List.nodup_range.map fun a b h => ?_
    have := Text.ofNat_injective (List.append_cancel_left (List.append_cancel_left h))
    omega
  have hunderscore : ("_" : Text) ≠ [] := by decide
  simp [hnumbered, hunderscore, Text.ofNat_ne_nil]

/-! ### Histories of a scope -/

/-- Asks a scope for an identifier. A scope that fails stays as it is. -/
def call (s : Scope) (name : Text) : Except Fault Text × Scope :=
  match s.declare name with
  | .ok (ident, s') => (.ok ident, s')
  | .error e => (.error e, s)

/-- The identifiers that were given, in order. -/
def given (past : List (Text × Except Fault Text)) : List Text :=
  past.filterMap fun event => event.2.toOption

/-- What is true of a scope and of the identifiers it has given. -/
structure Issued (seed : List Text) (past : List (Text × Except Fault Text)) (s : Scope) :
    Prop where
  mem_names_iff : ∀ x, x ∈ s.names ↔ x ∈ seed ∨ x ∈ given past
  nodup : (given past).Nodup
  fresh : ∀ x ∈ given past, x ∉ seed ∧ isReserved x = false

variable {seed : List Text} {past : List (Text × Except Fault Text)}

theorem Issued.start (seed : List Text) : Issued seed [] ⟨seed⟩ where
  mem_names_iff x := by simp [given]
  nodup := List.nodup_nil
  fresh x h := absurd h List.not_mem_nil

theorem given_concat_ok : given (past ++ [(name, .ok ident)]) = given past ++ [ident] := by
  simp [given, Except.toOption]

theorem given_concat_error {fault : Fault} :
    given (past ++ [(name, .error fault)]) = given past := by
  simp [given, Except.toOption]

/-- Every call keeps what is true of a scope. -/
theorem Issued.call (h : Issued seed past s) (name : Text) :
    Issued seed (past ++ [(name, (s.call name).1)]) (s.call name).2 := by
  unfold Scope.call
  rcases s.declare_cases name with ⟨ident, hspelling, hfree, hok⟩ | ⟨-, herror⟩
  · rw [hok]
    dsimp only
    -- The new identifier is neither in the seed nor among those given before.
    have hnew : ident ∉ seed ∧ ident ∉ given past := by
      rwa [h.mem_names_iff, not_or] at hfree
    refine ⟨fun x => ?_, ?_, fun x hx => ?_⟩
    · rw [given_concat_ok, List.mem_cons, h.mem_names_iff, List.mem_append, List.mem_singleton]
      tauto
    · rw [given_concat_ok, List.nodup_append']
      exact ⟨h.nodup, List.nodup_singleton ident, by simpa using hnew.2⟩
    · rw [given_concat_ok, List.mem_append, List.mem_singleton] at hx
      rcases hx with hx | rfl
      · exact h.fresh x hx
      · exact ⟨hnew.1, not_isReserved_of_mem_candidates hspelling⟩
  · rw [herror]
    dsimp only
    constructor
    · rw [given_concat_error]
      exact h.mem_names_iff
    · rw [given_concat_error]
      exact h.nodup
    · rw [given_concat_error]
      exact h.fresh

theorem Issued.final (seed names : List Text) :
    Issued seed (History.trace Scope.call ⟨seed⟩ names) (History.final Scope.call ⟨seed⟩ names) :=
  History.invariant (.start seed) (fun _ _ name h => h.call name) names

/-- A call fails exactly if every spelling of the name is in the seed or was given before. -/
theorem Issued.call_eq_error_iff (h : Issued seed past s) (name : Text) :
    (∃ fault, (s.call name).1 = .error fault) ↔
      ∀ c ∈ candidates name, c ∈ seed ∨ c ∈ given past := by
  simp only [← h.mem_names_iff]
  unfold Scope.call
  rcases s.declare_cases name with ⟨ident, hspelling, hfree, hok⟩ | ⟨htaken, herror⟩
  · rw [hok]
    constructor
    · rintro ⟨fault, ⟨⟩⟩
    · exact fun hall => absurd (hall ident hspelling) hfree
  · rw [herror]
    exact ⟨fun _ => htaken, fun _ => ⟨_, rfl⟩⟩

theorem call_of_error {fault : Fault} (h : (s.call name).1 = .error fault) :
    (s.call name).2 = s := by
  unfold call at h ⊢
  cases hdeclare : s.declare name with
  | ok found =>
    rw [hdeclare] at h
    cases h
  | error e => rfl

end Scope

/-! ### Histories of a table -/

namespace NameTable

/-- What a table of names is asked for: the identifier of a type, those of many types at once, or
an identifier for something else in a package. -/
inductive Request where
  | typeName (n : TypeName)
  | register (names : List TypeName)
  | declare (package name : Text)

/-- An identifier, or the fault of a request that leaves its table as it was. -/
def answer (t : NameTable) :
    Except Fault (Text × NameTable) → Except Fault (Option Text) × NameTable
  | .ok (ident, t') => (.ok (some ident), t')
  | .error e => (.error e, t)

/-- Asks a table of names. Registering has no identifier for an answer. -/
def call (packageOf : TypeName → Text) (t : NameTable) :
    Request → Except Fault (Option Text) × NameTable
  | .typeName n => t.answer (t.typeName packageOf n)
  | .register names =>
    let registered := t.register packageOf names
    (registered.1.map fun () => none, registered.2)
  | .declare package name => t.answer (t.declare package name)

/-- A request to a table with its answer. -/
abbrev Event := Request × Except Fault (Option Text)

/-- The identifier that an answer gives out. -/
def grant? (packageOf : TypeName → Text) : Event → Option Grant
  | (.typeName n, .ok (some ident)) => some ⟨packageOf n, some n, ident⟩
  | (.declare package _, .ok (some ident)) => some ⟨package, none, ident⟩
  | _ => none

/-- The identifiers that were given out, in order. -/
def grants (packageOf : TypeName → Text) (past : List Event) : List Grant :=
  past.filterMap (grant? packageOf)

/-- The functions that a package has by itself. -/
def entryPoints : List Text := ["init", "main"]

/-- What is true of every table: no type has an identifier of another one or of an entry point,
and each has a spelling of its name. -/
structure Sound (packageOf : TypeName → Text) (t : NameTable) : Prop
    extends Assigned packageOf t where
  seeded : ∀ q, ∀ x ∈ entryPoints, x ∈ t.idents q
  spelled : ∀ n x, t.types.lookup n = some x →
    x ∈ Scope.candidates (exported n.name) ∧ x ∉ entryPoints

/-- The answer that a type gets for good. -/
inductive Settled (packageOf : TypeName → Text) (t : NameTable) (n : TypeName) :
    Except Fault (Option Text) → Prop
  | named {ident : Text} (h : t.types.lookup n = some ident) :
    Settled packageOf t n (.ok (some ident))
  | refused (hnone : t.types.lookup n = none)
    (htaken : ∀ c ∈ Scope.candidates (exported n.name), c ∈ t.idents (packageOf n)) :
    Settled packageOf t n
      (.error (.context ("type " ++ n.text) (Scope.collision (exported n.name))))

/-- An identifier that is given out for good. The types of its package have other identifiers,
but for the one that holds it. -/
structure Held (packageOf : TypeName → Text) (t : NameTable) (g : Grant) : Prop where
  declared : g.ident ∈ t.idents g.package
  proper : g.ident ∉ entryPoints ∧ isReserved g.ident = false
  own : ∀ n, g.holder = some n → packageOf n = g.package
  alone : ∀ n, packageOf n = g.package →
    (t.types.lookup n = some g.ident ↔ g.holder = some n)

variable {packageOf : TypeName → Text} {t t' : NameTable} {n : TypeName} {g g' : Grant}
  {past : List Event}

/-! ### What a step keeps -/

theorem Sound.empty : Sound packageOf {} where
  toAssigned := .empty
  seeded _ _ h := h
  spelled _ _ h := by simp at h

theorem Sound.not_mem_entryPoints (ht : Sound packageOf t) (h : Gives packageOf g t t') :
    g.ident ∉ entryPoints :=
  fun hmem => h.fresh (ht.seeded g.package g.ident hmem)

theorem Sound.gives (ht : Sound packageOf t) (h : Gives packageOf g t t') :
    Sound packageOf t' where
  toAssigned := ht.toAssigned.gives h
  seeded q x hx := h.mem_idents_iff.mpr (.inl (ht.seeded q x hx))
  spelled n x hn := by
    rcases h.lookup_iff.mp hn with hn | ⟨hholder, rfl⟩
    · exact ht.spelled n x hn
    · exact ⟨(h.first n hholder).2.2, ht.not_mem_entryPoints h⟩

theorem Sound.later (ht : Sound packageOf t) (h : Later packageOf t t') : Sound packageOf t' :=
  h.preserves (fun _ _ _ hgives hu => hu.gives hgives) ht

theorem Settled.eq {a b : Except Fault (Option Text)} (ha : Settled packageOf t n a)
    (hb : Settled packageOf t n b) : a = b := by
  cases ha with
  | named hx =>
    cases hb with
    | named hy => rw [Option.some.inj (hx.symm.trans hy)]
    | refused hnone => cases hx.symm.trans hnone
  | refused hnone =>
    cases hb with
    | named hy => cases hnone.symm.trans hy
    | refused => rfl

/-- A type that has an identifier keeps it. One for which there was none left gets none later,
since no spelling of its name becomes free again. -/
theorem Settled.gives {answer : Except Fault (Option Text)} (hn : Settled packageOf t n answer)
    (h : Gives packageOf g t t') : Settled packageOf t' n answer := by
  cases hn with
  | named hx => exact .named (h.lookup_iff.mpr (.inl hx))
  | refused hnone htaken =>
    refine .refused ?_ fun c hc => h.mem_idents_iff.mpr (.inl (htaken c hc))
    rw [Option.eq_none_iff_forall_ne_some]
    intro x hx
    rcases h.lookup_iff.mp hx with hx | ⟨hholder, -⟩
    · cases hnone.symm.trans hx
    · obtain ⟨-, hpackage, hspelled⟩ := h.first n hholder
      exact h.fresh (hpackage ▸ htaken g.ident hspelled)

theorem Settled.later {answer : Except Fault (Option Text)} (hn : Settled packageOf t n answer)
    (h : Later packageOf t t') : Settled packageOf t' n answer :=
  h.preserves (P := (Settled packageOf · n answer)) (fun _ _ _ hgives hu => hu.gives hgives) hn

theorem Held.gives (hg : Held packageOf t g) (h : Gives packageOf g' t t') :
    Held packageOf t' g where
  declared := h.mem_idents_iff.mpr (.inl hg.declared)
  proper := hg.proper
  own := hg.own
  alone n hn := by
    rw [h.lookup_iff, ← hg.alone n hn]
    refine or_iff_left ?_
    -- Another type of the package cannot get this identifier, which is not new there.
    rintro ⟨hholder, hident⟩
    have hpackage : g'.package = g.package := (h.first n hholder).2.1.trans hn
    apply h.fresh
    rw [hpackage, hident]
    exact hg.declared

theorem Held.later (hg : Held packageOf t g) (h : Later packageOf t t') : Held packageOf t' g :=
  h.preserves (P := (Held packageOf · g)) (fun _ _ _ hgives hu => hu.gives hgives) hg

/-- A type holds every identifier of its package that is the same as its own. -/
theorem Held.holder_eq (hg : Held packageOf t g) (hg' : Held packageOf t g')
    (hpackage : g.package = g'.package) (hident : g.ident = g'.ident) (h : g'.holder = some n) :
    g.holder = some n := by
  have hn : packageOf n = g'.package := hg'.own n h
  rw [← hg.alone n (hn.trans hpackage.symm), hident, hg'.alone n hn]
  exact h

/-- An identifier that is given out is held from then on. -/
theorem Gives.held (h : Gives packageOf g t t') (ht : Sound packageOf t) :
    Held packageOf t' g where
  declared := h.mem_idents_iff.mpr (.inr ⟨rfl, rfl⟩)
  proper := by
    obtain ⟨name, hspelled⟩ := h.spelled
    exact ⟨ht.not_mem_entryPoints h, Scope.not_isReserved_of_mem_candidates hspelled⟩
  own n hn := (h.first n hn).2.1.symm
  alone n hn := by
    rw [h.lookup_iff]
    constructor
    · -- A type that had this identifier before would have declared it.
      rintro (hlookup | ⟨hholder, -⟩)
      · exact absurd (hn ▸ ht.declared n g.ident hlookup) h.fresh
      · exact hholder
    · exact fun hholder => .inr ⟨hholder, rfl⟩

/-! ### What a request does -/

/-- Whatever a table is asked for, all it does is to give out identifiers. -/
theorem later_call (packageOf : TypeName → Text) (t : NameTable) (r : Request) :
    Later packageOf t (t.call packageOf r).2 := by
  cases r with
  | typeName n =>
    rcases typeName_cases packageOf t n with
      ⟨ident, -, hok⟩ | ⟨ident, u, hgives, hok⟩ | ⟨-, -, herror⟩
    · rw [call, hok]
      exact .refl
    · rw [call, hok]
      exact hgives.later
    · rw [call, herror]
      exact .refl
  | register names => exact (later_registerSorted packageOf t (names.mergeSort TypeName.le)).1
  | declare package name =>
    rcases declare_cases packageOf t package name with ⟨ident, -, u, hgives, hok⟩ | ⟨-, herror⟩
    · rw [call, hok]
      exact hgives.later
    · rw [call, herror]
      exact .refl

theorem settled_call (packageOf : TypeName → Text) (t : NameTable) (n : TypeName) :
    Settled packageOf (t.call packageOf (.typeName n)).2 n (t.call packageOf (.typeName n)).1 := by
  rcases typeName_cases packageOf t n with
    ⟨ident, hn, hok⟩ | ⟨ident, u, hgives, hok⟩ | ⟨hnone, htaken, herror⟩
  · rw [call, hok]
    exact .named hn
  · rw [call, hok]
    exact .named (hgives.lookup_iff.mpr (.inr ⟨rfl, rfl⟩))
  · rw [call, herror]
    exact .refused hnone htaken

/-- A type is refused exactly if it has no identifier and no spelling of its name is free. -/
theorem call_typeName_eq_error_iff (packageOf : TypeName → Text) (t : NameTable) (n : TypeName) :
    (∃ fault, (t.call packageOf (.typeName n)).1 = .error fault) ↔
      t.types.lookup n = none ∧
        ∀ c ∈ Scope.candidates (exported n.name), c ∈ t.idents (packageOf n) := by
  rw [call]
  rcases typeName_cases packageOf t n with
    ⟨ident, hn, hok⟩ | ⟨ident, u, hgives, hok⟩ | ⟨hnone, htaken, herror⟩
  · rw [hok]
    constructor
    · rintro ⟨fault, ⟨⟩⟩
    · rintro ⟨hnone, -⟩
      cases hn.symm.trans hnone
  · rw [hok]
    constructor
    · rintro ⟨fault, ⟨⟩⟩
    · rintro ⟨-, htaken⟩
      exact absurd (htaken ident (hgives.first n rfl).2.2) hgives.fresh
  · rw [herror]
    exact ⟨fun _ => ⟨hnone, htaken⟩, fun _ => ⟨_, rfl⟩⟩

/-- Anything else is refused exactly if no spelling of its name is free in its package. -/
theorem call_declare_eq_error_iff (packageOf : TypeName → Text) (t : NameTable)
    (package name : Text) :
    (∃ fault, (t.call packageOf (.declare package name)).1 = .error fault) ↔
      ∀ c ∈ Scope.candidates name, c ∈ t.idents package := by
  rw [call]
  rcases declare_cases packageOf t package name with
    ⟨ident, hspelled, u, hgives, hok⟩ | ⟨htaken, herror⟩
  · rw [hok]
    constructor
    · rintro ⟨fault, ⟨⟩⟩
    · exact fun htaken => absurd (htaken ident hspelled) hgives.fresh
  · rw [herror]
    exact ⟨fun _ => htaken, fun _ => ⟨_, rfl⟩⟩

/-- An identifier that is an answer is held from then on. It is new unless a type holds it. -/
theorem held_call {r : Request} (ht : Sound packageOf t)
    (h : grant? packageOf (r, (t.call packageOf r).1) = some g) :
    Held packageOf (t.call packageOf r).2 g ∧ (g.holder = none → g.ident ∉ t.idents g.package) := by
  cases r with
  | typeName n =>
    rcases typeName_cases packageOf t n with
      ⟨ident, hn, hok⟩ | ⟨ident, u, hgives, hok⟩ | ⟨-, -, herror⟩
    · rw [call, hok] at h ⊢
      cases h
      -- The type had its identifier before, and no other type of its package has it.
      obtain ⟨hspelled, hentry⟩ := ht.spelled n ident hn
      refine ⟨⟨ht.declared n ident hn,
        ⟨hentry, Scope.not_isReserved_of_mem_candidates hspelled⟩, ?_, fun m hm => ?_⟩, ?_⟩
      · rintro m ⟨⟩
        rfl
      · constructor
        · exact fun hlookup => congrArg some (ht.apart n m ident hn hlookup hm.symm)
        · rintro ⟨⟩
          exact hn
      · rintro ⟨⟩
    · rw [call, hok] at h ⊢
      cases h
      exact ⟨hgives.held ht, fun _ => hgives.fresh⟩
    · rw [call, herror] at h
      cases h
  | register names =>
    -- Registering has no identifier for an answer.
    simp only [call] at h
    cases houtcome : (t.register packageOf names).1 <;> rw [houtcome] at h <;> cases h
  | declare package name =>
    rcases declare_cases packageOf t package name with ⟨ident, -, u, hgives, hok⟩ | ⟨-, herror⟩
    · rw [call, hok] at h ⊢
      cases h
      exact ⟨hgives.held ht, fun _ => hgives.fresh⟩
    · rw [call, herror] at h
      cases h

/-! ### Whole histories -/

/-- What is true of a table and of the answers it has given. -/
structure Issued (packageOf : TypeName → Text) (past : List Event) (t : NameTable) : Prop where
  sound : Sound packageOf t
  settled : ∀ n answer, (Request.typeName n, answer) ∈ past → Settled packageOf t n answer
  held : ∀ g ∈ grants packageOf past, Held packageOf t g
  apart : (grants packageOf past).Pairwise fun g h =>
    g.package = h.package → g.ident = h.ident → ∃ n, g.holder = some n ∧ h.holder = some n

theorem Issued.empty : Issued packageOf [] {} where
  sound := .empty
  settled _ _ h := absurd h List.not_mem_nil
  held _ h := absurd h List.not_mem_nil
  apart := .nil

/-- Every request keeps what is true of a table and its answers. -/
theorem Issued.call (h : Issued packageOf past t) (r : Request) :
    Issued packageOf (past ++ [(r, (t.call packageOf r).1)]) (t.call packageOf r).2 := by
  have hlater := later_call packageOf t r
  have hkept {g : Grant} (hg : g ∈ grants packageOf past) :
      Held packageOf (t.call packageOf r).2 g :=
    (h.held g hg).later hlater
  have hnew {g : Grant}
      (hg : g ∈ [(r, (t.call packageOf r).1)].filterMap (grant? packageOf)) :
      Held packageOf (t.call packageOf r).2 g ∧
        (g.holder = none → g.ident ∉ t.idents g.package) := by
    obtain ⟨event, hevent, hg⟩ := List.mem_filterMap.mp hg
    obtain rfl := List.mem_singleton.mp hevent
    exact held_call h.sound hg
  refine ⟨h.sound.later hlater, fun n answer hmem => ?_, fun g hg => ?_, ?_⟩
  · rcases List.mem_append.mp hmem with hmem | hmem
    · exact (h.settled n answer hmem).later hlater
    · cases List.mem_singleton.mp hmem
      exact settled_call packageOf t n
  · rw [grants, List.filterMap_append] at hg
    exact (List.mem_append.mp hg).elim hkept fun hg => (hnew hg).1
  · rw [grants, List.filterMap_append, List.pairwise_append]
    refine ⟨h.apart, ?_, fun g hg g' hg' hpackage hident => ?_⟩
    · -- There is at most one new identifier.
      cases hgrant : grant? packageOf (r, (t.call packageOf r).1) <;> simp [hgrant]
    · -- A new identifier was not there before, and one that is not new is that of a type.
      obtain ⟨hheld, hfresh⟩ := hnew hg'
      cases hholder : g'.holder with
      | none =>
        refine absurd (h.held g hg).declared ?_
        rw [hpackage, hident]
        exact hfresh hholder
      | some n => exact ⟨n, (hkept hg).holder_eq hheld hpackage hident hholder, rfl⟩

theorem Issued.final (packageOf : TypeName → Text) (requests : List Request) :
    Issued packageOf (History.trace (NameTable.call packageOf) {} requests)
      (History.final (NameTable.call packageOf) {} requests) :=
  History.invariant .empty (fun _ _ r h => h.call r) requests

/-- Identifiers never clash.

A scope gives every identifier once, none that it was seeded with and none that has a meaning of
its own. It fails exactly if all ten spellings of a name are taken, and is unchanged then.

A table gives the same answer for the same type whenever it is asked. Two identifiers that it
gives out in one package are the same only if the same type holds both, and none is an entry
point of the package or has a meaning of its own. It refuses a type without an identifier, or
anything else, exactly if all spellings are taken in the package. -/
theorem identifiers_apart :
    (∀ seed names : List Text,
      let past := History.trace Scope.call ⟨seed⟩ names
      let s := History.final Scope.call ⟨seed⟩ names
      (Scope.given past).Nodup ∧
      (∀ x ∈ Scope.given past, x ∉ seed ∧ isReserved x = false) ∧
      ∀ name,
        ((∃ fault, (s.call name).1 = .error fault) ↔
          ∀ c ∈ Scope.candidates name, c ∈ seed ∨ c ∈ Scope.given past) ∧
        (Scope.candidates name).length = 10 ∧ (Scope.candidates name).Nodup ∧
        ∀ fault, (s.call name).1 = .error fault → (s.call name).2 = s) ∧
    ∀ (packageOf : TypeName → Text) (requests : List Request),
      let past := History.trace (call packageOf) {} requests
      let t := History.final (call packageOf) {} requests
      past.Pairwise (fun a b => ∀ n, a.1 = .typeName n → b.1 = .typeName n → a.2 = b.2) ∧
      (grants packageOf past).Pairwise (fun g h => g.package = h.package → g.ident = h.ident →
        ∃ n, g.holder = some n ∧ h.holder = some n) ∧
      (∀ g ∈ grants packageOf past, g.ident ∉ entryPoints ∧ isReserved g.ident = false) ∧
      (∀ n, (∃ fault, (t.call packageOf (.typeName n)).1 = .error fault) ↔
        t.types.lookup n = none ∧
          ∀ c ∈ Scope.candidates (exported n.name), c ∈ t.idents (packageOf n)) ∧
      ∀ package name, (∃ fault, (t.call packageOf (.declare package name)).1 = .error fault) ↔
        ∀ c ∈ Scope.candidates name, c ∈ t.idents package := by
  constructor
  · intro seed names
    have h := Scope.Issued.final seed names
    exact ⟨h.nodup, h.fresh, fun name => ⟨h.call_eq_error_iff name, Scope.length_candidates name,
      Scope.nodup_candidates name, fun fault hfault => Scope.call_of_error hfault⟩⟩
  · intro packageOf requests
    have h := Issued.final packageOf requests
    refine ⟨?_, h.apart, fun g hg => (h.held g hg).proper,
      call_typeName_eq_error_iff packageOf _, call_declare_eq_error_iff packageOf _⟩
    -- Both answers are the one that the type has in the end.
    refine List.pairwise_iff_forall_sublist.mpr fun {a b} hab n ha hb => ?_
    obtain ⟨r, x⟩ := a
    obtain ⟨r', y⟩ := b
    cases ha
    cases hb
    have hx := h.settled n x (hab.subset (by simp))
    have hy := h.settled n y (hab.subset (by simp))
    exact hx.eq hy

-- The spellings of different names run into each other, and into the seed.
example : Scope.given (History.trace Scope.call ⟨["a"]⟩ ["a", "a_", "func", "func_"]) =
    ["a_", "a__", "func_", "func__"] := by
  decide

end NameTable

end Accord.Source
