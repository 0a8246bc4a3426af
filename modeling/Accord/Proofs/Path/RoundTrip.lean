/-
# Paths and values

Filling values into a template gives a path, and matching the path gives values back. The two
are inverse exactly for the values that a path can carry: a parameter without a pattern needs
a value that is not empty, one with a pattern needs a value that the pattern matches, and the
value of a parameter that stands for the rest of the path must not end in a slash, because a
slash at the end of a path does not count. Which texts are patterns, and which values they match,
makes no difference to this.

## Main definitions

* `Template.part`: what a path holds in the place of a segment;
* `Template.pathOf`: the path of some segments and a last part;
* `Template.Carries`: the values that come back from a path.

## Main results

* `Template.expand_append`: a path is its parts, joined by slashes;
* `Template.matchPathWith?_expand_fixed`, `Template.matchPathWith?_expand_parameter`: what matching
  a filled-in template comes down to;
* `Template.matchPathWith?_expand_iff`: the values that come back are those the template carries.
-/

import Accord.Path.Template
import Accord.Proofs.Outcome
import Accord.Proofs.Path.Canonical
import Accord.Proofs.Text.Entries
import Accord.Proofs.Text.Escapes

namespace Accord

/-- A segment that can stand in a path: its fixed text is neither empty nor cut by a slash. -/
def Segment.IsSolid : Segment → Prop
  | .fixed t => t ≠ [] ∧ Template.slash ∉ t
  | .parameter _ => True

namespace Template

variable {values acc : Values} {front t : Template} {s : Segment} {p : Parameter}
  {isPattern : Text → Bool} {full : Text → Text → Bool}

/-! ### Templates that were read -/

/-- The fixed segments of a template that was read are neither empty nor cut by a slash. -/
theorem isSolid_of_parse {template : Text} (h : parseWith isPattern template = .ok t) :
    ∀ s ∈ t, s.IsSolid := by
  intro s hs
  have hpiece := piece_of_parse h s hs
  cases s with
  | fixed text => exact ⟨hpiece.ne_nil, hpiece.slash_not_mem⟩
  | parameter p => trivial

/-! ### The parts of a path -/

/-- The value of a parameter, empty if there is none. -/
def valueOf (values : Values) (p : Parameter) : Text := (values.lookup p.name).getD []

/-- What a path holds in the place of a segment. -/
def part (values : Values) (isLast : Bool) : Segment → Text
  | .fixed t => t
  | .parameter p => escapeValue (isLast && p.pattern.isSome) (valueOf values p)

/-- The path of some segments and a last part. -/
def pathOf (values : Values) (front : Template) (last : Text) : Text :=
  slash :: Text.join [slash] (front.map (part values false) ++ [last])

/-- Whether every parameter among segments has a value. -/
def Binds (values : Values) (t : Template) : Prop :=
  ∀ name ∈ t.names, (values.lookup name).isSome

theorem mem_names {name : Text} : name ∈ t.names ↔ ∃ p, .parameter p ∈ t ∧ p.name = name := by
  simp only [names, parameters, List.mem_map, List.mem_filterMap]
  constructor
  · rintro ⟨p, ⟨s, hs, hp⟩, rfl⟩
    cases s with
    | fixed t => cases hp
    | parameter q =>
      obtain rfl := Option.some.inj hp
      exact ⟨q, hs, rfl⟩
  · rintro ⟨p, hp, rfl⟩
    exact ⟨p, ⟨_, hp, rfl⟩, rfl⟩

theorem Binds.lookup_eq (h : Binds values t) (hp : .parameter p ∈ t) :
    values.lookup p.name = some (valueOf values p) := by
  obtain ⟨v, hv⟩ := Option.isSome_iff_exists.mp (h p.name (mem_names.mpr ⟨p, hp, rfl⟩))
  rw [valueOf, hv, Option.getD_some]

theorem Binds.of_cons (h : Binds values (s :: t)) : Binds values t := fun name hn => by
  obtain ⟨p, hp, rfl⟩ := mem_names.mp hn
  exact h p.name (mem_names.mpr ⟨p, List.mem_cons_of_mem s hp, rfl⟩)

/-- Filling in goes segment by segment. -/
theorem expandSegments_cons {more : Text} (h : Binds values (s :: t))
    (hmore : expandSegments values t = .ok more) :
    expandSegments values (s :: t) = .ok (slash :: part values t.isEmpty s ++ more) := by
  unfold expandSegments
  cases s with
  | fixed text => simp [hmore, part, bind, Except.bind, pure, Except.pure]
  | parameter p =>
    simp [h.lookup_eq List.mem_cons_self, hmore, part, bind, Except.bind, pure, Except.pure]

/-- A path is its parts, joined by slashes. -/
theorem expandSegments_append (h : Binds values (front ++ [s])) :
    expandSegments values (front ++ [s]) = .ok (pathOf values front (part values true s)) := by
  induction front with
  | nil =>
    rw [List.nil_append] at h ⊢
    rw [expandSegments_cons h rfl]
    simp [pathOf, Text.join]
  | cons a rest ih =>
    rw [List.cons_append] at h ⊢
    -- A segment with more behind it is not the last one, and no rest of the path.
    have more : (rest ++ [s]).isEmpty = false := by simp
    rw [expandSegments_cons h (ih h.of_cons), more]
    simp [pathOf, Text.join_cons]

/-! ### Cutting a path -/

/-- The separator as a text. -/
theorem ofString_slash : Text.ofString "/" = [slash] := by decide

/-- A text without the slash it may end in. -/
def trimmed (t : Text) : Text := (Text.dropEnd? "/" t).getD t

@[simp] theorem trimmed_concat_slash (t : Text) : trimmed (t ++ [slash]) = t := by
  simp [trimmed, Text.dropEnd?, ofString_slash, Text.dropStart?]

/-- A text that ends in another byte stays as it is. -/
theorem trimmed_concat_of_ne {b : UInt8} (h : b ≠ slash) (t : Text) :
    trimmed (t ++ [b]) = t ++ [b] := by
  simp [trimmed, Text.dropEnd?, ofString_slash, Text.dropStart?, h.symm]

/-- Whether a text keeps its last byte is up to its last byte. -/
theorem trimmed_append (start : Text) {t : Text} (h : t ≠ []) :
    trimmed (start ++ t) = start ++ trimmed t := by
  obtain ⟨body, b, rfl⟩ := (List.eq_nil_or_concat t).resolve_left h
  rw [List.concat_eq_append, ← List.append_assoc]
  by_cases hb : b = slash
  · rw [hb, trimmed_concat_slash, trimmed_concat_slash]
  · rw [trimmed_concat_of_ne hb, trimmed_concat_of_ne hb, List.append_assoc]

/-- A text is as it was, unless it ended in a slash. -/
theorem trimmed_eq_self_iff {t : Text} : trimmed t = t ↔ t.getLast? ≠ some slash := by
  rcases List.eq_nil_or_concat t with rfl | ⟨body, b, rfl⟩
  · exact iff_of_true rfl (by simp)
  · rw [List.concat_eq_append, List.getLast?_append]
    by_cases hb : b = slash
    · subst hb
      simp
    · simp [trimmed_concat_of_ne hb, hb]

/-- The parts of a path are the parts in front of the last, and what the last one is made of. An
empty last part leaves no trace. -/
theorem partsOf?_join {parts : List Text} (h : ∀ q ∈ parts, slash ∉ q) (last : Text) :
    partsOf? (slash :: Text.join [slash] (parts ++ [last])) =
      some (if last = [] then parts else parts ++ Text.split slash (trimmed last)) := by
  have cut (rest : Text) (hr : trimmed (slash :: Text.join [slash] (parts ++ [last])) =
      slash :: rest) :
      partsOf? (slash :: Text.join [slash] (parts ++ [last])) = some (Text.split slash rest) := by
    unfold trimmed at hr
    simp [partsOf?, hr]
  by_cases hlast : last = []
  · -- The slash in front of an empty last part is the one that does not count.
    subst hlast
    rw [if_pos rfl]
    cases parts with
    | nil => decide
    | cons q rest =>
      rw [cut (Text.join [slash] (q :: rest)), Text.split_join (List.cons_ne_nil q rest) h]
      rw [Text.join_append_singleton (List.cons_ne_nil q rest), List.append_nil,
        ← List.cons_append, trimmed_concat_slash]
  · -- Otherwise a slash that does not count is the last byte of the last part.
    have tail (t : Text) : slash :: Text.join [slash] (parts ++ [t]) =
        slash :: Text.join [slash] (parts ++ [[]]) ++ t := by
      rw [← List.nil_append t, Text.join_append_last]
      rfl
    rw [if_neg hlast, cut (Text.join [slash] (parts ++ [trimmed last])),
      Text.split_join_append h]
    rw [tail last, tail (trimmed last), trimmed_append _ hlast]

/-! ### Fitting the parts to the segments -/

/-- A template that ends in a fixed text or in a parameter without a pattern takes its parts as
they are. -/
theorem fit?_of_length {parts : List Text} (h : parts.length = t.length) :
    t.fit? parts = some parts := by
  simp [fit?, h]

/-- A template that does not end in the rest of a path takes no other number of parts. -/
theorem fit?_eq_none {parts : List Text} (h : parts.length ≠ t.length)
    (hrest : t.endsInRest = false) : t.fit? parts = none := by
  simp [fit?, h, hrest]

/-- What the rest of a path was cut into is put together again. -/
theorem fit?_of_endsInRest {parts : List Text} {last : Text} (h : t.length = parts.length + 1)
    (hrest : t.endsInRest = true) :
    t.fit? (if last = [] then parts else parts ++ Text.split slash (trimmed last)) =
      some (parts ++ [trimmed last]) := by
  by_cases hlast : last = []
  · subst hlast
    have hlt : ¬ parts.length + 1 < parts.length := by omega
    have hnil : trimmed [] = [] := rfl
    simp [fit?, h, hrest, hlt, hnil]
  · rw [if_neg hlast]
    obtain ⟨piece, pieces, hs⟩ :=
      List.exists_cons_of_ne_nil (Text.split_ne_nil slash (trimmed last))
    have joined : Text.join [slash] (piece :: pieces) = trimmed last := by
      rw [← hs, Text.join_split]
    -- One piece fits as it is; more of them are too many, and are joined again.
    cases pieces with
    | nil =>
      obtain rfl : piece = trimmed last := joined
      rw [hs, fit?_of_length (by simp [h])]
    | cons next more =>
      rw [hs]
      simp [fit?, h, hrest, ofString_slash, joined]

/-! ### Values in parts -/

/-- A value that was escaped comes back. -/
theorem unescapeValue?_escapeValue (isRest : Bool) (v : Text) :
    unescapeValue? (escapeValue isRest v) = some v := by
  have each (pieces : List Text) :
      (pieces.map Percent.escapeSegment).mapM Percent.unescape? = some pieces := by
    induction pieces with
    | nil => rfl
    | cons piece rest ih => simp [Percent.unescape?_escapeSegment, ih]
  unfold unescapeValue? escapeValue
  rw [ofString_slash]
  cases isRest with
  | true =>
    -- Escaped pieces hold no slash, so they are the pieces of the text they are joined to.
    rw [if_pos rfl, Text.split_join (by simpa using Text.split_ne_nil slash v), each,
      Option.map_some, Text.join_split]
    intro q hq
    obtain ⟨piece, -, rfl⟩ := List.mem_map.mp hq
    exact Percent.slash_not_mem_escapeSegment piece
  | false =>
    have hv : slash ∉ Percent.escapeSegment v := Percent.slash_not_mem_escapeSegment v
    rw [if_neg (by simp), Text.split_of_not_mem hv]
    exact congrArg (Option.map (Text.join [slash])) (each [v])

/-- A value for the rest of a path loses its last slash whether it is escaped or not. -/
theorem trimmed_escapeValue (v : Text) :
    trimmed (escapeValue true v) = escapeValue true (trimmed v) := by
  have bytes (v : Text) : escapeValue true v = v.flatMap Percent.spanByte := by
    rw [← Percent.join_map_escapeSegment, escapeValue, if_pos rfl, ofString_slash]
    rfl
  rw [bytes, bytes]
  rcases List.eq_nil_or_concat v with rfl | ⟨body, b, rfl⟩
  · rfl
  · rw [List.concat_eq_append, List.flatMap_append, List.flatMap_singleton]
    -- Only a slash is escaped to a text that ends in a slash.
    by_cases hb : b = slash
    · subst hb
      have kept : Percent.spanByte slash = [slash] := by decide
      rw [kept, trimmed_concat_slash, trimmed_concat_slash]
    · have other : Percent.spanByte b = Percent.segmentByte b := if_neg hb
      rw [other, trimmed_concat_of_ne hb, List.flatMap_append, List.flatMap_singleton, other,
        trimmed_append _ (Percent.segmentByte_ne_nil b),
        trimmed_eq_self_iff.mpr (Percent.getLast?_segmentByte_ne_slash b)]

/-! ### Matching segment by segment -/

/-- Whether a segment takes the value it is given. -/
def admits (full : Text → Text → Bool) (values : Values) : Segment → Bool
  | .fixed _ => true
  | .parameter p => takesWith full p (valueOf values p)

/-- What is known of the values after a segment. -/
def record (values acc : Values) : Segment → Values
  | .fixed _ => acc
  | .parameter p => Text.upsert p.name (valueOf values p) acc

/-- A parameter is matched with the escaped form of a value. -/
theorem matchPartsWith?_parameter (isRest : Bool) (v : Text) (rest : Template) (parts : List Text) :
    matchPartsWith? full acc (.parameter p :: rest) (escapeValue isRest v :: parts) =
      if takesWith full p v then matchPartsWith? full (Text.upsert p.name v acc) rest parts else none := by
  simp [matchPartsWith?, unescapeValue?_escapeValue]

theorem matchPartsWith?_cons (isLast : Bool) (s : Segment) (rest : Template) (parts : List Text) :
    matchPartsWith? full acc (s :: rest) (part values isLast s :: parts) =
      if admits full values s then matchPartsWith? full (record values acc s) rest parts else none := by
  cases s with
  | fixed text => simp [matchPartsWith?, part, admits, record]
  | parameter p => exact matchPartsWith?_parameter _ _ rest parts

/-- All segments but the last are matched with what was filled in for them. -/
theorem matchPartsWith?_append (front last : Template) (parts : List Text) :
    matchPartsWith? full acc (front ++ last) (front.map (part values false) ++ parts) =
      if front.all (admits full values) then matchPartsWith? full (front.foldl (record values) acc) last parts
      else none := by
  induction front generalizing acc with
  | nil => simp
  | cons s rest ih =>
    rw [List.cons_append, List.map_cons, List.cons_append, matchPartsWith?_cons, ih]
    by_cases hs : admits full values s = true
    · simp [hs]
    · simp [hs]

/-! ### What is known after matching -/

theorem names_cons_parameter (p : Parameter) (t : Template) :
    names (.parameter p :: t) = p.name :: t.names := rfl

/-- After some segments the values of their parameters are known, and nothing else has changed. -/
theorem lookup_foldl_record (h : Binds values t) (name : Text) :
    (t.foldl (record values) acc).lookup name =
      if name ∈ t.names then values.lookup name else acc.lookup name := by
  induction t generalizing acc with
  | nil => simp [names, parameters]
  | cons s rest ih =>
    rw [List.foldl_cons, ih h.of_cons]
    cases s with
    | fixed text => rfl
    | parameter p =>
      have hp : values.lookup p.name = some (valueOf values p) := h.lookup_eq List.mem_cons_self
      rw [record, Text.lookup_upsert, names_cons_parameter]
      by_cases hn : name = p.name
      · simp [hn, hp]
      · simp [hn]

/-! ### The way back -/

/-- The value of the last parameter that arrives: the rest of a path loses a slash at its end. -/
def arriving (values : Values) (p : Parameter) : Text :=
  if p.pattern.isSome then trimmed (valueOf values p) else valueOf values p

/-- The parts in front of the last one hold no slash. -/
theorem slash_not_mem_part (h : ∀ s ∈ front, s.IsSolid) :
    ∀ q ∈ front.map (part values false), slash ∉ q := by
  intro q hq
  obtain ⟨s, hs, rfl⟩ := List.mem_map.mp hq
  cases s with
  | fixed text => exact (h _ hs).2
  | parameter p => exact Percent.slash_not_mem_escapeSegment _

theorem endsInRest_append (front : Template) (s : Segment) :
    endsInRest (front ++ [s]) = match s with
      | .parameter p => p.pattern.isSome
      | .fixed _ => false := by
  cases s <;> simp [endsInRest]

/-- A template is filled in with the parts of its segments. -/
theorem expand_append (h : Binds values (front ++ [s])) :
    expand (front ++ [s]) values = .ok (pathOf values front (part values true s)) := by
  simp [expand, expandSegments_append h]

/-- A path with a last part that is neither empty nor cut by a slash has as many parts as the
template has segments. -/
theorem matchPathWith?_of_solid {last : Text} (hfront : ∀ s ∈ front, s.IsSolid) (hne : last ≠ [])
    (hslash : slash ∉ last) :
    matchPathWith? full (front ++ [s]) (pathOf values front last) =
      if front.all (admits full values) then
        matchPartsWith? full (front.foldl (record values) []) [s] [last] else none := by
  have hlast : trimmed last = last :=
    trimmed_eq_self_iff.mpr fun hl => hslash (List.mem_of_getLast? hl)
  rw [matchPathWith?, pathOf, partsOf?_join (slash_not_mem_part hfront), if_neg hne, hlast,
    Text.split_of_not_mem hslash]
  simp only [Option.bind_eq_bind, Option.bind_some]
  rw [fit?_of_length (by simp), Option.bind_some, matchPartsWith?_append]

/-- A path whose last part is empty has too few parts for a template that does not end in the
rest of the path. -/
theorem matchPathWith?_of_empty (hfront : ∀ s ∈ front, s.IsSolid)
    (hrest : endsInRest (front ++ [s]) = false) :
    matchPathWith? full (front ++ [s]) (pathOf values front []) = none := by
  rw [matchPathWith?, pathOf, partsOf?_join (slash_not_mem_part hfront), if_pos rfl]
  simp only [Option.bind_eq_bind, Option.bind_some]
  rw [fit?_eq_none (by simp) hrest, Option.bind_none]

/-- A template that ends in the rest of the path takes any path whose beginning fits. -/
theorem matchPathWith?_of_endsInRest {last : Text} (hfront : ∀ s ∈ front, s.IsSolid)
    (hrest : endsInRest (front ++ [s]) = true) :
    matchPathWith? full (front ++ [s]) (pathOf values front last) =
      if front.all (admits full values) then
        matchPartsWith? full (front.foldl (record values) []) [s] [trimmed last] else none := by
  rw [matchPathWith?, pathOf, partsOf?_join (slash_not_mem_part hfront)]
  simp only [Option.bind_eq_bind, Option.bind_some]
  rw [fit?_of_endsInRest (by simp) hrest, Option.bind_some, matchPartsWith?_append]

/-- Matching a template that ends in a fixed text recovers all values that it takes. -/
theorem matchPathWith?_expand_fixed {text : Text}
    (h : ∀ s ∈ front ++ [Segment.fixed text], s.IsSolid) :
    matchPathWith? full (front ++ [Segment.fixed text])
        (pathOf values front (part values true (.fixed text))) =
      if front.all (admits full values) then some (front.foldl (record values) []) else none := by
  have hfront : ∀ s ∈ front, s.IsSolid := fun s hs => h s (List.mem_append_left _ hs)
  have htext : text ≠ [] ∧ slash ∉ text := h (.fixed text) (by simp)
  rw [part, matchPathWith?_of_solid hfront htext.1 htext.2]
  simp [matchPartsWith?]

/-- Matching a template that ends in a parameter recovers the values in front and the one that
arrives for the parameter, if they are taken. -/
theorem matchPathWith?_expand_parameter (hfront : ∀ s ∈ front, s.IsSolid) :
    matchPathWith? full (front ++ [.parameter p]) (pathOf values front (part values true (.parameter p))) =
      if front.all (admits full values) ∧ takesWith full p (arriving values p) then
        some (Text.upsert p.name (arriving values p) (front.foldl (record values) []))
      else none := by
  have ends := endsInRest_append front (.parameter p)
  cases hpattern : p.pattern with
  | some pattern =>
    -- The parameter stands for the rest of the path.
    simp only [hpattern, Option.isSome_some] at ends
    rw [matchPathWith?_of_endsInRest hfront ends, part, hpattern, Option.isSome_some, Bool.and_self,
      trimmed_escapeValue, matchPartsWith?_parameter, arriving, hpattern]
    by_cases hall : front.all (admits full values) = true
    · simp [hall, matchPartsWith?]
    · simp [hall]
  | none =>
    simp only [hpattern, Option.isSome_none] at ends
    rw [part, arriving, hpattern, Option.isSome_none, Bool.and_false]
    by_cases hv : valueOf values p = []
    · -- Nothing is left of an empty value, and the parameter would not take it either.
      have htakes : takesWith full p (valueOf values p) = false := by simp [takesWith, hpattern, hv]
      have hpart : escapeValue false (valueOf values p) = [] := by rw [hv]; rfl
      simp [htakes, hpart, matchPathWith?_of_empty hfront ends]
    · have hne : escapeValue false (valueOf values p) ≠ [] :=
        fun he => hv (Percent.escapeSegment_eq_nil_iff.mp he)
      have hslash : slash ∉ escapeValue false (valueOf values p) :=
        Percent.slash_not_mem_escapeSegment _
      rw [matchPathWith?_of_solid hfront hne hslash, matchPartsWith?_parameter]
      by_cases hall : front.all (admits full values) = true
      · simp [hall, matchPartsWith?]
      · simp [hall]

/-! ### The values a path carries -/

/-- The values that come back from a path: those of parameters without a pattern are not empty,
those of parameters with a pattern match it as a whole, and the rest of the path does not end in
a slash. -/
structure Carries (full : Text → Text → Bool) (t : Template) (values : Values) : Prop where
  nonempty : ∀ p, .parameter p ∈ t → p.pattern = none →
    ∀ v, values.lookup p.name = some v → v ≠ []
  matched : ∀ p pattern, .parameter p ∈ t → p.pattern = some pattern →
    ∀ v, values.lookup p.name = some v → full pattern v = true
  unslashed : ∀ p, t.getLast? = some (.parameter p) → p.pattern.isSome →
    ∀ v, values.lookup p.name = some v → v.getLast? ≠ some slash

/-- What a parameter takes. -/
theorem takesWith_iff {v : Text} : takesWith full p v = true ↔
    (p.pattern = none → v ≠ []) ∧ ∀ pattern, p.pattern = some pattern → full pattern v = true := by
  unfold takesWith
  cases hp : p.pattern with
  | none => simp
  | some pattern => simp

theorem admits_of_carries (hb : Binds values t) (h : Carries full t values) (hs : s ∈ t) :
    admits full values s = true := by
  cases s with
  | fixed text => rfl
  | parameter p =>
    have hv := hb.lookup_eq hs
    exact takesWith_iff.mpr ⟨fun hp => h.nonempty p hs hp _ hv,
      fun pattern hp => h.matched p pattern hs hp _ hv⟩

/-- A template carries what its segments admit, if the rest of the path is no obstacle. -/
theorem carries_of_admits (hb : Binds values t) (hs : ∀ s ∈ t, admits full values s = true)
    (hlast : ∀ p, t.getLast? = some (.parameter p) → p.pattern.isSome →
      (valueOf values p).getLast? ≠ some slash) : Carries full t values := by
  have takes_of_mem {p : Parameter} {v : Text} (hp : .parameter p ∈ t)
      (hv : values.lookup p.name = some v) : takesWith full p v = true := by
    obtain rfl : valueOf values p = v := Option.some.inj ((hb.lookup_eq hp).symm.trans hv)
    exact hs _ hp
  refine ⟨?_, ?_, ?_⟩
  · intro p hp hnone v hv
    exact (takesWith_iff.mp (takes_of_mem hp hv)).1 hnone
  · intro p pattern hp hsome v hv
    exact (takesWith_iff.mp (takes_of_mem hp hv)).2 pattern hsome
  · intro p hp hsome v hv
    have hmem : .parameter p ∈ t := List.mem_of_getLast? hp
    obtain rfl : valueOf values p = v := Option.some.inj ((hb.lookup_eq hmem).symm.trans hv)
    exact hlast p hp hsome

/-- Values that were found are those of the parameters of a template, and no others. -/
structure Recovers (t : Template) (values found : Values) : Prop where
  each : ∀ name ∈ t.names, found.lookup name = values.lookup name
  nothing_else : ∀ name, name ∉ t.names → found.lookup name = none

/-- What is known after all segments is what was filled in. -/
theorem recovers_foldl_record (h : Binds values t) :
    Recovers t values (t.foldl (record values) []) := by
  constructor
  · intro name hname
    rw [lookup_foldl_record h, if_pos hname]
  · intro name hname
    rw [lookup_foldl_record h, if_neg hname]
    rfl

/-- A value that arrives as it was sent does not end in a slash that is dropped. -/
theorem arriving_eq_iff : arriving values p = valueOf values p ↔
    (p.pattern.isSome → (valueOf values p).getLast? ≠ some slash) := by
  unfold arriving
  split
  case isTrue h => simp [h, trimmed_eq_self_iff]
  case isFalse h => simp [h]

/-- A template that ends in a fixed text gives back what it carries. -/
theorem recovers_iff_of_fixed {text : Text} (h : ∀ s ∈ front ++ [Segment.fixed text], s.IsSolid)
    (hb : Binds values (front ++ [Segment.fixed text])) :
    (∃ found, matchPathWith? full (front ++ [Segment.fixed text])
        (pathOf values front (part values true (.fixed text))) = some found ∧
      Recovers (front ++ [Segment.fixed text]) values found) ↔
      Carries full (front ++ [Segment.fixed text]) values := by
  rw [matchPathWith?_expand_fixed h]
  constructor
  · rintro ⟨found, hfound, -⟩
    obtain ⟨hall, -⟩ := Option.ite_none_right_eq_some.mp hfound
    refine carries_of_admits hb (fun s hs => ?_) fun p hp => by simp at hp
    rcases List.mem_append.mp hs with hs | hs
    · exact List.all_eq_true.mp hall s hs
    · obtain rfl := List.mem_singleton.mp hs
      rfl
  · intro hc
    have hall : front.all (admits full values) = true :=
      List.all_eq_true.mpr fun s hs => admits_of_carries hb hc (List.mem_append_left _ hs)
    refine ⟨_, if_pos hall, ?_⟩
    have hrec := recovers_foldl_record hb
    rwa [List.foldl_append] at hrec

/-- A template that ends in a parameter gives back what it carries. -/
theorem recovers_iff_of_parameter (h : ∀ s ∈ front ++ [Segment.parameter p], s.IsSolid)
    (hb : Binds values (front ++ [Segment.parameter p])) :
    (∃ found, matchPathWith? full (front ++ [Segment.parameter p])
        (pathOf values front (part values true (.parameter p))) = some found ∧
      Recovers (front ++ [Segment.parameter p]) values found) ↔
      Carries full (front ++ [Segment.parameter p]) values := by
  have hp : .parameter p ∈ front ++ [Segment.parameter p] := by simp
  have hvalue := hb.lookup_eq hp
  rw [matchPathWith?_expand_parameter fun s hs => h s (List.mem_append_left _ hs)]
  constructor
  · rintro ⟨found, hfound, hrec⟩
    obtain ⟨⟨hall, htakes⟩, hset⟩ := Option.ite_none_right_eq_some.mp hfound
    obtain rfl := Option.some.inj hset
    -- The last value is the one that was set last, whatever other segments share its name.
    have hsame : arriving values p = valueOf values p := by
      have hname := hrec.each p.name (mem_names.mpr ⟨p, hp, rfl⟩)
      rw [Text.lookup_upsert, if_pos rfl, hvalue] at hname
      exact Option.some.inj hname
    rw [hsame] at htakes
    refine carries_of_admits hb (fun s hs => ?_) fun q hq hsome => ?_
    · rcases List.mem_append.mp hs with hs | hs
      · exact List.all_eq_true.mp hall s hs
      · obtain rfl := List.mem_singleton.mp hs
        exact htakes
    · obtain rfl : p = q := by simpa using hq
      exact arriving_eq_iff.mp hsame hsome
  · intro hc
    have hall : front.all (admits full values) = true :=
      List.all_eq_true.mpr fun s hs => admits_of_carries hb hc (List.mem_append_left _ hs)
    have hsame : arriving values p = valueOf values p :=
      arriving_eq_iff.mpr fun hsome => hc.unslashed p (by simp) hsome _ hvalue
    rw [hsame]
    refine ⟨_, if_pos ⟨hall, admits_of_carries hb hc hp⟩, ?_⟩
    have hrec := recovers_foldl_record hb
    rwa [List.foldl_append] at hrec

/-- **Paths carry values faithfully, exactly where they can.** Whatever texts are patterns and
whatever values match them, a template that was read gives a path if there is a value for every
parameter, and matching this path gives the values of the parameters back if and only if the
template carries them. -/
theorem matchPathWith?_expand_iff (isPattern : Text → Bool) (full : Text → Text → Bool)
    {template : Text} {t : Template} (ht : parseWith isPattern template = .ok t)
    {values : Values} (hb : ∀ name ∈ t.names, (values.lookup name).isSome) :
    ∃ path, t.expand values = .ok path ∧
      ((∃ found, t.matchPathWith? full path = some found ∧ Recovers t values found) ↔
        Carries full t values) := by
  have hsolid := isSolid_of_parse ht
  rcases List.eq_nil_or_concat t with rfl | ⟨front, s, rfl⟩
  · -- A template without segments has no values to give back.
    refine ⟨"/", rfl, fun _ => ⟨by simp, by simp, by simp⟩, fun _ => ⟨[], rfl, ?_⟩⟩
    exact ⟨by simp [names, parameters], by simp⟩
  · rw [List.concat_eq_append] at hsolid hb ⊢
    refine ⟨_, expand_append hb, ?_⟩
    cases s with
    | fixed text => exact recovers_iff_of_fixed hsolid hb
    | parameter p => exact recovers_iff_of_parameter hsolid hb

/-- A value with a slash in it and a rest of several segments, one of them empty. -/
theorem matchPathWith?_expand_iff_kind_rest :
    parse "/\x7bkind\x7d/\x7brest:.*\x7d" =
        .ok [.parameter ⟨"kind", none⟩, .parameter ⟨"rest", some ".*"⟩] ∧
      ∃ path, expand [.parameter ⟨"kind", none⟩, .parameter ⟨"rest", some ".*"⟩]
          [("kind", "a/b"), ("rest", "x//y")] = .ok path ∧
        ((∃ found, matchPath? [.parameter ⟨"kind", none⟩, .parameter ⟨"rest", some ".*"⟩] path =
            some found ∧
          Recovers [.parameter ⟨"kind", none⟩, .parameter ⟨"rest", some ".*"⟩]
            [("kind", "a/b"), ("rest", "x//y")] found) ↔
          Carries fullMatch [.parameter ⟨"kind", none⟩, .parameter ⟨"rest", some ".*"⟩]
            [("kind", "a/b"), ("rest", "x//y")]) := by
  have hparse : parse "/\x7bkind\x7d/\x7brest:.*\x7d" =
      .ok [.parameter ⟨"kind", none⟩, .parameter ⟨"rest", some ".*"⟩] := by rfl
  exact ⟨hparse, matchPathWith?_expand_iff _ fullMatch hparse (by decide)⟩

end Template

end Accord
