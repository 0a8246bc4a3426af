/-
# The grammar of path templates

A template is spelled by segments with a slash before each, and a slash at the end does not
count. A segment without braces is a fixed text. A segment with braces is a parameter as a whole:
a name between braces, or a name and a pattern with a colon between them. The braces inside a
pattern, which count repetitions, are balanced and not nested. The reader accepts exactly the
texts of this grammar, whatever texts count as patterns, and gives what they spell.

## Main definitions

* `Template.FlatBraces`: balanced braces that are not nested;
* `Parameter.Spelled`, `Segment.Spelled`, `Template.Spelled`: the grammar.

## Main results

* `Template.braceFlaw?_eq_none_iff`: the braces of a pattern have no flaw exactly if they are flat;
* `Template.parseSegment_eq_ok_iff`, `Template.parseSegments_eq_ok_iff`: one segment and several;
* `Template.parseWith_eq_ok_iff`: a whole template;
* `Template.parseWith_exact`: the same with what a failure is.
-/

import Accord.Path.Template
import Accord.Proofs.Outcome
import Accord.Proofs.Text.Pieces
import Accord.Service.Request
import Mathlib.Data.List.Forall2

namespace Accord

namespace Template

variable {isPattern : Text → Bool} {t rest : Text} {b : UInt8} {depth : Nat}

/-! ### Braces inside a pattern -/

/-- The braces of a text are balanced and nested at most one deep: every beginning of the text has
closed all braces that it has opened or all but one, and the whole text has closed all of them. -/
structure FlatBraces (t : Text) : Prop where
  depth_le : ∀ start, start <+: t →
    start.count closing ≤ start.count opening ∧ start.count opening ≤ start.count closing + 1
  closed : t.count opening = t.count closing

/-- The braces of a text are flat if a number of braces is open before it. -/
structure FlatFrom (depth : Nat) (t : Text) : Prop where
  depth_le : ∀ start, start <+: t →
    start.count closing ≤ depth + start.count opening ∧
      depth + start.count opening ≤ start.count closing + 1
  closed : depth + t.count opening = t.count closing

theorem flatFrom_zero_iff : FlatFrom 0 t ↔ FlatBraces t := by
  constructor
  · rintro ⟨hdepth, hclosed⟩
    simp only [Nat.zero_add] at hdepth hclosed
    exact ⟨hdepth, hclosed⟩
  · rintro ⟨hdepth, hclosed⟩
    constructor
    · simpa only [Nat.zero_add] using hdepth
    · simpa only [Nat.zero_add] using hclosed

theorem flatFrom_nil_iff : FlatFrom depth [] ↔ depth = 0 := by
  constructor
  · intro h
    exact h.closed
  · rintro rfl
    exact ⟨by simp, rfl⟩

/-- At most one brace is open anywhere. -/
theorem FlatFrom.le_one (h : FlatFrom depth t) : depth ≤ 1 := by
  have := (h.depth_le [] List.nil_prefix).2
  simpa using this

/-- What one more byte in front of a text changes is the number of open braces. -/
theorem flatFrom_cons (before after : Nat) (hle : before ≤ 1)
    (hclosing : ([b] : Text).count closing ≤ before + ([b] : Text).count opening)
    (hafter : after + ([b] : Text).count closing = before + ([b] : Text).count opening) :
    FlatFrom before (b :: rest) ↔ FlatFrom after rest := by
  have hcount (x : UInt8) (s : Text) : (b :: s).count x = ([b] : Text).count x + s.count x := by
    rw [← List.count_append]
    rfl
  constructor
  · intro h
    constructor
    · intro start hstart
      have := h.depth_le (b :: start) (List.cons_prefix_cons.mpr ⟨rfl, hstart⟩)
      rw [hcount opening start, hcount closing start] at this
      omega
    · have := h.closed
      rw [hcount opening rest, hcount closing rest] at this
      omega
  · intro h
    constructor
    · intro start hstart
      cases start with
      | nil => simpa using hle
      | cons c start =>
        obtain ⟨rfl, hrest⟩ := List.cons_prefix_cons.mp hstart
        have := h.depth_le start hrest
        rw [hcount opening start, hcount closing start]
        omega
    · have := h.closed
      rw [hcount opening rest, hcount closing rest]
      omega

theorem flatFrom_zero_opening : FlatFrom 0 (opening :: rest) ↔ FlatFrom 1 rest :=
  flatFrom_cons 0 1 (by decide) (by decide) (by decide)

theorem flatFrom_one_closing : FlatFrom 1 (closing :: rest) ↔ FlatFrom 0 rest :=
  flatFrom_cons 1 0 (by decide) (by decide) (by decide)

/-- No brace is opened while another is open. -/
theorem not_flatFrom_one_opening : ¬ FlatFrom 1 (opening :: rest) := by
  intro h
  have hcount : 1 + 1 ≤ 0 + 1 := (h.depth_le [opening] ⟨rest, rfl⟩).2
  omega

/-- No brace is closed while none is open. -/
theorem not_flatFrom_zero_closing : ¬ FlatFrom 0 (closing :: rest) := by
  intro h
  have hcount : 1 ≤ 0 + 0 := (h.depth_le [closing] ⟨rest, rfl⟩).1
  omega

theorem flatFrom_cons_other (hopening : b ≠ opening) (hclosing : b ≠ closing) :
    FlatFrom depth (b :: rest) ↔ FlatFrom depth rest := by
  have hnone (x : UInt8) (hx : b ≠ x) : ([b] : Text).count x = 0 :=
    List.count_eq_zero.mpr fun h => hx (List.mem_singleton.mp h).symm
  have ho := hnone opening hopening
  have hc := hnone closing hclosing
  by_cases hle : depth ≤ 1
  · exact flatFrom_cons depth depth hle (by omega) (by omega)
  · exact iff_of_false (fun h => hle h.le_one) fun h => hle h.le_one

/-- The braces of a pattern have no flaw exactly if they are flat. -/
theorem braceFlaw?_eq_none_iff (isOpen : Bool) :
    braceFlaw? isOpen t = none ↔ FlatFrom isOpen.toNat t := by
  -- Along the text, following whether a brace is open.
  induction t generalizing isOpen with
  | nil => cases isOpen <;> simp [braceFlaw?, flatFrom_nil_iff]
  | cons b rest ih =>
    by_cases hopening : b = opening
    · subst hopening
      cases isOpen with
      | false => simpa [braceFlaw?, flatFrom_zero_opening] using ih true
      | true => simp [braceFlaw?, not_flatFrom_one_opening]
    · by_cases hclosing : b = closing
      · subst hclosing
        cases isOpen with
        | false => simp [braceFlaw?, hopening, not_flatFrom_zero_closing]
        | true => simpa [braceFlaw?, hopening, flatFrom_one_closing] using ih false
      · rw [flatFrom_cons_other hopening hclosing, ← ih]
        cases isOpen <;> simp [braceFlaw?, hopening, hclosing]

/-- A pattern has no flaw exactly if its braces are flat and it is one. -/
theorem patternFlaw?_eq_none_iff {pattern : Text} :
    patternFlaw? isPattern pattern = none ↔ FlatBraces pattern ∧ isPattern pattern = true := by
  rw [← flatFrom_zero_iff, ← Bool.toNat_false, ← braceFlaw?_eq_none_iff]
  unfold patternFlaw?
  cases braceFlaw? false pattern with
  | none => simp
  | some flaw => simp

/-! ### Braces of a segment -/

theorem isBrace_eq_false_iff : isBrace b = false ↔ b ≠ opening ∧ b ≠ closing := by
  simp [isBrace]

/-- A text without braces does not matter for the balance. -/
theorem balancedFrom_append_of_plain (h : ∀ b ∈ t, isBrace b = false) (rest : Text) :
    balancedFrom depth (t ++ rest) = balancedFrom depth rest := by
  induction t with
  | nil => rfl
  | cons b t ih =>
    obtain ⟨hopening, hclosing⟩ := isBrace_eq_false_iff.mp (h b List.mem_cons_self)
    rw [List.cons_append, balancedFrom, if_neg hopening, if_neg hclosing]
    exact ih fun c hc => h c (List.mem_cons_of_mem b hc)

/-- Behind flat braces, as many are open as before. -/
theorem balancedFrom_append_of_flat {inner : Nat} (h : FlatFrom inner t) (rest : Text) :
    balancedFrom (depth + inner) (t ++ rest) = balancedFrom depth rest := by
  -- Along the text, following the braces of its own that are open: none or one.
  induction t generalizing inner with
  | nil =>
    obtain rfl := flatFrom_nil_iff.mp h
    rfl
  | cons b t ih =>
    rw [List.cons_append]
    by_cases hopening : b = opening
    · subst hopening
      obtain rfl | rfl := Nat.le_one_iff_eq_zero_or_eq_one.mp h.le_one
      · rw [balancedFrom, if_pos rfl]
        exact ih (flatFrom_zero_opening.mp h)
      · exact absurd h not_flatFrom_one_opening
    · by_cases hclosing : b = closing
      · subst hclosing
        obtain rfl | rfl := Nat.le_one_iff_eq_zero_or_eq_one.mp h.le_one
        · exact absurd h not_flatFrom_zero_closing
        · rw [balancedFrom, if_neg hopening, if_pos rfl]
          simpa using ih (flatFrom_one_closing.mp h)
      · rw [balancedFrom, if_neg hopening, if_neg hclosing]
        exact ih ((flatFrom_cons_other hopening hclosing).mp h)

/-- The name of a parameter. -/
structure IsName (name : Text) : Prop where
  ne_nil : name ≠ []
  plain : ∀ b ∈ name, isBrace b = false
  colon_not_mem : Text.byte ':' ∉ name

end Template

/-! ### The grammar -/

open Template in
/-- What a parameter is spelled as between its braces: a name, or a name and a pattern. -/
inductive Parameter.Spelled (isPattern : Text → Bool) : Text → Parameter → Prop
  | plain {name : Text} (hname : IsName name) : Spelled isPattern name ⟨name, none⟩
  | patterned {name pattern : Text} (hname : IsName name) (hflat : FlatBraces pattern)
      (hpattern : isPattern pattern = true) :
      Spelled isPattern (name ++ Text.byte ':' :: pattern) ⟨name, some pattern⟩

open Template in
/-- What a segment is spelled as: a fixed text has no braces, and a parameter has braces around
all of it. -/
inductive Segment.Spelled (isPattern : Text → Bool) : Text → Segment → Prop
  | fixed {t : Text} (h : ∀ b ∈ t, isBrace b = false) : Spelled isPattern t (.fixed t)
  | parameter {inner : Text} {p : Parameter} (h : p.Spelled isPattern inner) :
      Spelled isPattern (opening :: inner ++ [closing]) (.parameter p)

namespace Template

/-- A piece between slashes, and the segment it spells. -/
structure Piece (isPattern : Text → Bool) (piece : Text) (s : Segment) : Prop where
  ne_nil : piece ≠ []
  slash_not_mem : slash ∉ piece
  spelled : s.Spelled isPattern piece

/-- What a template is spelled as: nothing or a slash for the template without segments, else the
pieces with a slash before each, and possibly one more slash at the end. -/
inductive Spelled (isPattern : Text → Bool) : Text → Template → Prop
  | nothing : Spelled isPattern [] []
  | slash : Spelled isPattern [slash] []
  | pieces {pieces : List Text} {t : Template} (hne : pieces ≠ [])
      (h : List.Forall₂ (Piece isPattern) pieces t) :
      Spelled isPattern (slash :: Text.join [slash] pieces) t
  | trailing {pieces : List Text} {t : Template} (hne : pieces ≠ [])
      (h : List.Forall₂ (Piece isPattern) pieces t) :
      Spelled isPattern (slash :: Text.join [slash] pieces ++ [slash]) t

/-! ### Segments -/

variable {isPattern : Text → Bool} {piece inner : Text} {s : Segment} {p : Parameter}

theorem any_isBrace_eq_false_iff {t : Text} :
    t.any isBrace = false ↔ ∀ b ∈ t, isBrace b = false := by
  simp

/-- What is read between the braces of a parameter. -/
theorem parseInner_eq_ok_iff : parseInner isPattern inner = .ok p ↔ p.Spelled isPattern inner := by
  constructor
  · intro h
    unfold parseInner at h
    cases hcut : Text.cut? (Text.byte ':') inner with
    | none =>
      rw [hcut] at h
      simp only [Option.bind_none] at h
      split at h
      · cases h
      case isFalse hplain =>
        split at h
        · cases h
        case isFalse hne =>
          cases h
          rw [Bool.not_eq_true, any_isBrace_eq_false_iff] at hplain
          exact .plain ⟨by simpa using hne, hplain, Text.cut?_eq_none_iff.mp hcut⟩
    | some found =>
      obtain ⟨name, pattern⟩ := found
      rw [hcut] at h
      simp only [Option.bind_some] at h
      obtain ⟨hcolon, rfl⟩ := Text.cut?_eq_some_iff.mp hcut
      split at h
      · cases h
      case isFalse hplain =>
        split at h
        · cases h
        case isFalse hne =>
          split at h
          · cases h
          case h_2 hflaw =>
            cases h
            rw [Bool.not_eq_true, any_isBrace_eq_false_iff] at hplain
            obtain ⟨hflat, hpattern⟩ := patternFlaw?_eq_none_iff.mp hflaw
            exact .patterned ⟨by simpa using hne, hplain, hcolon⟩ hflat hpattern
  · intro h
    cases h with
    | plain hname =>
      have hplain := any_isBrace_eq_false_iff.mpr hname.plain
      simp [parseInner, Text.cut?_eq_none_iff.mpr hname.colon_not_mem, hplain, hname.ne_nil]
    | patterned hname hflat hpattern =>
      have hplain := any_isBrace_eq_false_iff.mpr hname.plain
      have hflaw := patternFlaw?_eq_none_iff.mpr ⟨hflat, hpattern⟩
      simp [parseInner, Text.cut?_append hname.colon_not_mem, hplain, hname.ne_nil, hflaw]

/-- The braces around a name, and around a name and a pattern, are balanced. -/
theorem balanced_of_spelled (h : p.Spelled isPattern inner) :
    balancedFrom 0 (opening :: inner ++ [closing]) = true := by
  have hlast : balancedFrom 1 [closing] = true := rfl
  rw [List.cons_append, balancedFrom, if_pos rfl]
  cases h with
  | plain hname => rw [balancedFrom_append_of_plain hname.plain, hlast]
  | @patterned name pattern hname hflat _ =>
    have hcolon : ∀ b ∈ name ++ [Text.byte ':'], isBrace b = false := by
      intro b hb
      rcases List.mem_append.mp hb with hb | hb
      · exact hname.plain b hb
      · obtain rfl := List.mem_singleton.mp hb
        rfl
    have hparts : name ++ Text.byte ':' :: pattern ++ [closing] =
        (name ++ [Text.byte ':']) ++ (pattern ++ [closing]) := by
      simp
    rw [hparts, balancedFrom_append_of_plain hcolon]
    exact balancedFrom_append_of_flat (flatFrom_zero_iff.mpr hflat) [closing]

/-- What stands between two different bytes. -/
theorem eq_append_of_ends {first last : UInt8} {piece : Text} (hne : first ≠ last)
    (hfirst : piece.head? = some first) (hlast : piece.getLast? = some last) :
    piece = first :: (piece.drop 1).dropLast ++ [last] := by
  obtain ⟨rest, rfl⟩ : ∃ rest, piece = first :: rest := by
    cases piece with
    | nil => cases hfirst
    | cons b rest =>
      cases hfirst
      exact ⟨rest, rfl⟩
  -- The two bytes are different, so that something follows the first.
  have hrest : rest ≠ [] := by
    rintro rfl
    exact hne (Option.some.inj hlast)
  rw [List.getLast?_cons, List.getLast?_eq_some_getLast hrest, Option.getD_some,
    Option.some.injEq] at hlast
  rw [List.drop_one, List.tail_cons, List.cons_append, ← hlast, List.dropLast_append_getLast hrest]

/-- A segment is read exactly from what it is spelled as. -/
theorem parseSegment_eq_ok_iff :
    parseSegment isPattern piece = .ok s ↔ s.Spelled isPattern piece := by
  constructor
  · intro h
    unfold parseSegment at h
    split at h
    case isTrue hplain =>
      cases h
      rw [Bool.not_eq_true', any_isBrace_eq_false_iff] at hplain
      exact .fixed hplain
    case isFalse =>
      split at h
      · cases h
      case isFalse =>
        split at h
        · cases h
        case isFalse hends =>
          simp only [Bool.or_eq_true, bne_iff_ne, ne_eq, not_or, not_not] at hends
          split at h
          case h_1 p hp =>
            cases h
            rw [eq_append_of_ends (by decide) hends.1 hends.2]
            exact .parameter (parseInner_eq_ok_iff.mp hp)
          case h_2 => cases h
  · intro h
    cases h with
    | fixed h =>
      rw [parseSegment, any_isBrace_eq_false_iff.mpr h]
      rfl
    | @parameter inner p h =>
      have hbraces : (opening :: inner ++ [closing]).any isBrace = true :=
        List.any_eq_true.mpr ⟨opening, List.mem_cons_self, rfl⟩
      have hlast : (opening :: inner ++ [closing]).getLast? = some closing :=
        List.getLast?_concat
      have hinside : ((opening :: inner ++ [closing]).drop 1).dropLast = inner := by simp
      rw [parseSegment, hbraces, balanced_of_spelled h, hlast, hinside,
        parseInner_eq_ok_iff.mpr h]
      rfl

/-! ### Templates -/

/-- Segments are read from their pieces, with an empty piece at the end if it is not the first. -/
theorem parseSegments_eq_ok_iff {template : Text} {isFirst : Bool} {pieces : List Text}
    {t : Template} (hslash : ∀ piece ∈ pieces, slash ∉ piece) :
    parseSegments isPattern template isFirst pieces = .ok t ↔
      ∃ front, List.Forall₂ (Piece isPattern) front t ∧
        (pieces = front ∨ pieces = front ++ [[]] ∧ (isFirst = true → front ≠ [])) := by
  induction pieces generalizing isFirst t with
  | nil =>
    constructor
    · intro h
      cases h
      exact ⟨[], .nil, .inl rfl⟩
    · rintro ⟨front, hfront, rfl | ⟨hnil, -⟩⟩
      · cases hfront
        rfl
      · simp at hnil
  | cons piece rest ih =>
    have hrest := fun q hq => hslash q (List.mem_cons_of_mem piece hq)
    unfold parseSegments
    by_cases hpiece : piece = []
    · subst hpiece
      constructor
      · intro h
        simp only [List.isEmpty_nil, if_true] at h
        split at h
        case isTrue hlast =>
          cases h
          obtain ⟨hnil, hfirst⟩ : rest = [] ∧ isFirst = false := by simpa using hlast
          exact ⟨[], .nil, .inr ⟨by rw [hnil]; rfl, by simp [hfirst]⟩⟩
        case isFalse => cases h
      · -- An empty piece spells no segment, so that it can only be the last one.
        rintro ⟨front, hfront, h⟩
        cases hfront with
        | nil =>
          rcases h with h | ⟨h, hfirst⟩
          · cases h
          · cases h
            have hfalse : isFirst = false := by simpa using hfirst
            simp [hfalse]
        | cons hp _ =>
          rcases h with h | ⟨h, -⟩
          · exact absurd (List.cons.inj h).1.symm hp.ne_nil
          · exact absurd (List.cons.inj h).1.symm hp.ne_nil
    · rw [if_neg (by simpa using hpiece)]
      constructor
      · intro h
        obtain ⟨s, hs, h⟩ := Outcome.bind_eq_ok.mp h
        obtain ⟨more, hmore, h⟩ := Outcome.bind_eq_ok.mp h
        cases h
        obtain ⟨front, hfront, hpieces⟩ := (ih hrest).mp hmore
        have hp : Piece isPattern piece s :=
          ⟨hpiece, hslash piece List.mem_cons_self, parseSegment_eq_ok_iff.mp hs⟩
        refine ⟨piece :: front, .cons hp hfront, ?_⟩
        rcases hpieces with rfl | ⟨rfl, -⟩
        · exact .inl rfl
        · exact .inr ⟨rfl, by simp⟩
      · rintro ⟨front, hfront, h⟩
        cases hfront with
        | nil =>
          rcases h with h | ⟨h, -⟩
          · cases h
          · exact absurd (List.cons.inj h).1 hpiece
        | @cons piece' s front more hp hfront =>
          have hrestore : piece = piece' ∧ (rest = front ∨ rest = front ++ [[]]) := by
            rcases h with h | ⟨h, -⟩
            · exact ⟨(List.cons.inj h).1, .inl (List.cons.inj h).2⟩
            · exact ⟨(List.cons.inj h).1, .inr (List.cons.inj h).2⟩
          obtain ⟨rfl, hpieces⟩ := hrestore
          have hmore : parseSegments isPattern template false rest = .ok more := by
            refine (ih hrest).mpr ⟨front, hfront, ?_⟩
            rcases hpieces with rfl | rfl
            · exact .inl rfl
            · exact .inr ⟨rfl, by simp⟩
          rw [parseSegment_eq_ok_iff.mpr hp.spelled, Outcome.ok_bind, hmore]
          rfl

/-- Pieces that spell segments are not cut by slashes. -/
theorem slash_not_mem_of_forall₂ {pieces : List Text} {t : Template}
    (h : List.Forall₂ (Piece isPattern) pieces t) : ∀ piece ∈ pieces, slash ∉ piece := by
  induction h with
  | nil => simp
  | cons hp _ ih => exact List.forall_mem_cons.mpr ⟨hp.slash_not_mem, ih⟩

/-- The pieces behind the first slash are read one by one. -/
theorem parseWith_join {pieces : List Text} (hslash : ∀ piece ∈ pieces, slash ∉ piece)
    (hjoin : Text.join [slash] pieces ≠ []) :
    parseWith isPattern (slash :: Text.join [slash] pieces) =
      parseSegments isPattern (slash :: Text.join [slash] pieces) true pieces := by
  have hne : pieces ≠ [] := by
    rintro rfl
    exact hjoin rfl
  have hempty : (Text.join [slash] pieces).isEmpty = false := by simpa using hjoin
  rw [parseWith, hempty, Text.split_join hne hslash]
  rfl

/-- Joined pieces that spell segments are not empty. -/
theorem join_ne_nil_of_forall₂ {pieces : List Text} {t : Template} (hne : pieces ≠ [])
    (h : List.Forall₂ (Piece isPattern) pieces t) : Text.join [slash] pieces ≠ [] := by
  cases h with
  | nil => exact absurd rfl hne
  | @cons piece s rest t hp _ =>
    cases rest with
    | nil => exact hp.ne_nil
    | cons next rest => simp [Text.join, hp.ne_nil]

/-- A template is read exactly from what it is spelled as. -/
theorem parseWith_eq_ok_iff {text : Text} {t : Template} :
    parseWith isPattern text = .ok t ↔ Spelled isPattern text t := by
  constructor
  · intro h
    cases text with
    | nil =>
      cases h
      exact .nothing
    | cons b rest =>
      by_cases hb : b = slash
      · subst hb
        by_cases hrest : rest = []
        · subst hrest
          cases h
          exact .slash
        · have hslash : ∀ piece ∈ Text.split slash rest, slash ∉ piece :=
            fun piece => Text.not_mem_of_mem_split
          have hjoin := Text.join_split slash rest
          rw [← hjoin, parseWith_join hslash (by rwa [hjoin]), parseSegments_eq_ok_iff hslash] at h
          obtain ⟨front, hfront, hpieces⟩ := h
          rcases hpieces with hpieces | ⟨hpieces, hne⟩
          · have hne : front ≠ [] := hpieces ▸ Text.split_ne_nil slash rest
            rw [← hjoin, hpieces]
            exact .pieces hne hfront
          · rw [← hjoin, hpieces, Text.join_append_singleton (hne rfl), List.append_nil]
            exact .trailing (hne rfl) hfront
      · rw [parseWith, if_pos (by simpa using hb)] at h
        cases h
  · intro h
    cases h with
    | nothing => rfl
    | slash => rfl
    | @pieces pieces _ hne h =>
      have hslash := slash_not_mem_of_forall₂ h
      rw [parseWith_join hslash (join_ne_nil_of_forall₂ hne h)]
      exact (parseSegments_eq_ok_iff hslash).mpr ⟨pieces, h, .inl rfl⟩
    | @trailing pieces _ hne h =>
      -- The slash at the end leaves an empty piece behind the others.
      have hslash : ∀ piece ∈ pieces ++ [[]], slash ∉ piece := by
        intro piece hpiece
        rcases List.mem_append.mp hpiece with hpiece | hpiece
        · exact slash_not_mem_of_forall₂ h piece hpiece
        · obtain rfl := List.mem_singleton.mp hpiece
          exact List.not_mem_nil
      have hlast : Text.join [slash] (pieces ++ [[]]) = Text.join [slash] pieces ++ [slash] := by
        rw [Text.join_append_singleton hne, List.append_nil]
      rw [List.cons_append, ← hlast, parseWith_join hslash (by rw [hlast]; simp)]
      exact (parseSegments_eq_ok_iff hslash).mpr ⟨pieces, h, .inr ⟨rfl, fun _ => hne⟩⟩

/-- A text is read as a template exactly if the grammar spells that template as it, every other
text is refused, and a refusal is marked as one of an invalid path component. With the patterns
that can be read, this is `parse`. -/
theorem parseWith_exact (isPattern : Text → Bool) (text : Text) :
    (∀ t, parseWith isPattern text = .ok t ↔ Spelled isPattern text t) ∧
      ((∃ e, parseWith isPattern text = .error e) ↔ ∀ t, ¬ Spelled isPattern text t) ∧
      ∀ e, parseWith isPattern text = .error e → e.fault.has .invalidPathComponent = true := by
  refine ⟨fun t => parseWith_eq_ok_iff, ?_, fun e _ => rfl⟩
  constructor
  · rintro ⟨e, he⟩ t ht
    rw [parseWith_eq_ok_iff.mpr ht] at he
    cases he
  · intro hnone
    cases h : parseWith isPattern text with
    | ok t => exact absurd (parseWith_eq_ok_iff.mp h) (hnone t)
    | error e => exact ⟨e, rfl⟩

end Template

end Accord
