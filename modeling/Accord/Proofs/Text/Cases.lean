/-
# Letters and their cases

The table of categories and the tables of cases know nothing of each other. Here they are
compared: a letter stays a letter when its case changes, a digit has no case, an upper-case form
is its own upper-case form, and a lower-case form is an upper-case letter only if the letter has
no lower case. The tables list code points in stretches, and a stretch is compared with the runs
of categories that it meets, in one sweep over both lists.

## Main definitions

* `Category.Stretch`: code points at equal distances;
* `Category.sweep`: whether the code points of stretches have the categories they should have;
* `Text.source`, `Text.target`: where a stretch of a table of cases starts from and leads to;
* `Text.Agrees`, `Text.agrees`: a table of cases that goes with the table of categories, and how
  this is found out.

## Main results

* `Category.lookup_of_sweep`: what a sweep has checked;
* `Text.mapCase_cases`: what a table of cases does to a character;
* `Text.isLetter_toUpper`, `Text.isLetter_toLower`: letters stay letters;
* `Text.toUpper_toUpper`: the upper case is reached in one step;
* `Text.toLower_eq_of_isUpper`: lower case that is not lower.
-/

import Accord.Proofs.Text.Characters
import Accord.Text.CaseMap
import Accord.Text.Category
import Mathlib.Data.List.Sort

namespace Accord

namespace Category

/-! ### Runs of categories -/

/-- How many code points a run has. -/
def Run.length : Run → Nat
  | .run _ n => n
  | .pairs _ _ n => 2 * n

/-- The category at a place of a run. -/
def Run.category : Run → (place : Nat) → Category
  | .run c _, _ => c
  | .pairs a b _, place => if place % 2 = 0 then a else b

theorem lookup_cons (r : Run) (rest : List Run) (code : Nat) : lookup (r :: rest) code =
    if code < r.length then r.category code else lookup rest (code - r.length) := by
  cases r <;> rfl

/-- The categories behind a run. -/
theorem lookup_cons_of_le {r : Run} {rest : List Run} {start code : Nat}
    (h : start + r.length ≤ code) :
    lookup (r :: rest) (code - start) = lookup rest (code - (start + r.length)) := by
  rw [lookup_cons, if_neg (by omega), Nat.sub_sub]

/-! ### Stretches of code points -/

/-- Code points from a first to a last one, with a step between them. -/
structure Stretch where
  first : Nat
  last : Nat
  step : Nat

/-- A code point of a stretch. -/
def Stretch.Holds (s : Stretch) (code : Nat) : Prop :=
  s.first ≤ code ∧ code ≤ s.last ∧ (code - s.first) % s.step = 0

/-- Whether a stretch has no code points of the parity of this one. -/
def Stretch.skips (s : Stretch) (code : Nat) : Bool :=
  (s.step % 2 = 0 || s.first = s.last) && (s.first + code) % 2 = 1

/-- Whether all code points of a stretch in a run that begins at `start` have a category of a
class. -/
def Run.meets (p : Category → Bool) (s : Stretch) (start : Nat) : Run → Bool
  | .run c n => p c || (n = 1 && s.skips start)
  | .pairs a b _ => (p a || s.skips start) && (p b || s.skips (start + 1))

/-- Whether all code points of a stretch that is not over before `start` have a category of a
class. -/
def within (p : Category → Bool) (s : Stretch) : (start : Nat) → List Run → Bool
  | _, [] => false
  | start, r :: rest =>
    r.meets p s start && (s.last < start + r.length || within p s (start + r.length) rest)

/-- Goes on with the run that holds a code point. -/
def seek (code : Nat) (next : Nat → List Run → Bool) : (start : Nat) → List Run → Bool
  | _, [] => false
  | start, r :: rest =>
    if code < start + r.length then next start (r :: rest)
    else seek code next (start + r.length) rest

/-- Whether the code points of stretches, which come in order, have the categories that are
expected of them. -/
def sweep (expected : Stretch → Category → Bool) : (start : Nat) → List Run → List Stretch → Bool
  | _, _, [] => true
  | start, runs, s :: more =>
    start ≤ s.first && seek s.first
      (fun start runs => within (expected s) s start runs && sweep expected start runs more)
      start runs

variable {p : Category → Bool} {expected : Stretch → Category → Bool} {s : Stretch} {r : Run}
  {runs : List Run} {start code other : Nat}

/-- A stretch has code points of the parity of those that it has. -/
theorem Stretch.Holds.not_skips (h : s.Holds code) (hparity : (code + other) % 2 = 0) :
    s.skips other = false := by
  obtain ⟨hfirst, hlast, hstep⟩ := h
  rw [Bool.eq_false_iff]
  intro hskips
  simp only [skips, Bool.and_eq_true, Bool.or_eq_true, decide_eq_true_eq] at hskips
  obtain ⟨heven | hsingle, hodd⟩ := hskips
  · have hdvd : 2 ∣ code - s.first :=
      Nat.dvd_trans (Nat.dvd_of_mod_eq_zero heven) (Nat.dvd_of_mod_eq_zero hstep)
    omega
  · omega

theorem Run.category_of_meets (h : r.meets p s start = true) (hs : s.Holds code)
    (hstart : start ≤ code) (hstop : code < start + r.length) :
    p (r.category (code - start)) = true := by
  cases r with
  | run c n =>
    simp only [meets, Bool.or_eq_true, Bool.and_eq_true, decide_eq_true_eq] at h
    rcases h with h | ⟨rfl, hskips⟩
    · exact h
    · rw [length] at hstop
      rw [hs.not_skips (by omega)] at hskips
      cases hskips
  | pairs a b n =>
    simp only [meets, Bool.and_eq_true, Bool.or_eq_true] at h
    rw [category]
    split
    case isTrue heven =>
      have hskips : s.skips start = false := hs.not_skips (by omega)
      exact h.1.resolve_right (by simp [hskips])
    case isFalse hodd =>
      have hskips : s.skips (start + 1) = false := hs.not_skips (by omega)
      exact h.2.resolve_right (by simp [hskips])

theorem lookup_of_within (h : within p s start runs = true) (hs : s.Holds code)
    (hstart : start ≤ code) : p (lookup runs (code - start)) = true := by
  -- The stretch goes on in the next run unless it ends in this one.
  induction runs generalizing start with
  | nil => cases h
  | cons r rest ih =>
    simp only [within, Bool.and_eq_true, Bool.or_eq_true, decide_eq_true_eq] at h
    obtain ⟨hmeets, hrest⟩ := h
    by_cases hstop : code < start + r.length
    · rw [lookup_cons, if_pos (by omega)]
      exact Run.category_of_meets hmeets hs hstart hstop
    · have hlast := hs.2.1
      rw [lookup_cons_of_le (by omega)]
      exact ih (hrest.resolve_left (by omega)) (by omega)

/-- Seeking a code point passes over runs that end before it. -/
theorem exists_of_seek {next : Nat → List Run → Bool} (h : seek code next start runs = true)
    (hstart : start ≤ code) : ∃ start' runs', next start' runs' = true ∧ start' ≤ code ∧
      start ≤ start' ∧
      ∀ x, start' ≤ x → lookup runs (x - start) = lookup runs' (x - start') := by
  induction runs generalizing start with
  | nil => cases h
  | cons r rest ih =>
    unfold seek at h
    split at h
    case isTrue => exact ⟨start, r :: rest, h, hstart, Nat.le_refl start, fun _ _ => rfl⟩
    case isFalse hstop =>
      obtain ⟨start', runs', hnext, hcode, hle, hlookup⟩ := ih h (by omega)
      refine ⟨start', runs', hnext, hcode, by omega, fun x hx => ?_⟩
      rw [lookup_cons_of_le (by omega)]
      exact hlookup x hx

/-- The code points of stretches have the categories that a sweep has checked. -/
theorem lookup_of_sweep {stretches : List Stretch} (h : sweep expected start runs stretches = true)
    (hmem : s ∈ stretches) (hs : s.Holds code) :
    start ≤ code ∧ expected s (lookup runs (code - start)) = true := by
  -- The next stretch is looked for from the run where the one before it begins.
  induction stretches generalizing start runs with
  | nil => cases hmem
  | cons next more ih =>
    rw [sweep, Bool.and_eq_true, decide_eq_true_eq] at h
    obtain ⟨start', runs', hnext, hfirst, hle, hlookup⟩ := exists_of_seek h.2 h.1
    rw [Bool.and_eq_true] at hnext
    have hfound : start' ≤ code ∧ expected s (lookup runs' (code - start')) = true := by
      rcases List.mem_cons.mp hmem with rfl | hmem
      · have hcode : start' ≤ code := Nat.le_trans hfirst hs.1
        exact ⟨hcode, lookup_of_within hnext.1 hs hcode⟩
      · exact ih hnext.2 hmem
    refine ⟨Nat.le_trans hle hfound.1, ?_⟩
    rw [hlookup code hfound.1]
    exact hfound.2

end Category

namespace Text

open Category (Stretch sweep runs ofCode)

/-! ### What a table of cases does -/

/-- A stretch of characters that becomes one of characters above the marks. -/
def isRaised : Nat × Nat × Nat × Int → Bool
  | (first, last, _, offset) =>
    65 ≤ (first : Int) + offset &&
      ((last : Int) + offset < 0xD800 ||
        0xE000 ≤ (first : Int) + offset && (last : Int) + offset < 0x110000)

/-- The code points that a stretch of a table of cases starts from. -/
def source : Nat × Nat × Nat × Int → Stretch
  | (first, last, step, _) => ⟨first, last, step⟩

/-- The code points that a stretch of a table of cases leads to. -/
def target : Nat × Nat × Nat × Int → Stretch
  | (first, last, step, offset) =>
    ⟨((first : Int) + offset).toNat, ((last : Int) + offset).toNat, step⟩

variable {table : List (Nat × Nat × Nat × Int)} {run : Nat × Nat × Nat × Int} {c : Char}
  {code : Nat}

theorem le_first_target (h : isRaised run = true) : 65 ≤ (target run).first := by
  obtain ⟨first, last, step, offset⟩ := run
  simp only [isRaised, Bool.and_eq_true, decide_eq_true_eq] at h
  simp only [target]
  omega

/-- A character is in no stretch of a table of cases and stays as it is, or it moves along with a
stretch that it is in. -/
theorem mapCase_cases (htable : ∀ run ∈ table, isRaised run = true) (c : Char) :
    mapCase table c = c ∧ (∀ run ∈ table, ¬ (source run).Holds c.toNat) ∨
      ∃ run ∈ table, (source run).Holds c.toNat ∧
        (target run).Holds (mapCase table c).toNat := by
  unfold mapCase
  dsimp only
  split
  case h_2 hfind =>
    refine .inl ⟨rfl, fun run hrun hholds => ?_⟩
    have hnone := List.find?_eq_none.mp hfind run hrun
    obtain ⟨first, last, step, offset⟩ := run
    simp only [source, Stretch.Holds] at hholds
    simp [hholds] at hnone
  case h_1 first last step offset hfind =>
    have hrun := List.mem_of_find?_eq_some hfind
    have hraised := htable _ hrun
    have hwithin := List.find?_some hfind
    simp only [isRaised, Bool.and_eq_true, Bool.or_eq_true, decide_eq_true_eq] at hraised hwithin
    obtain ⟨⟨hfirst, hlast⟩, hstep⟩ := hwithin
    obtain ⟨hlow, hvalid⟩ := hraised
    refine .inr ⟨_, hrun, ⟨hfirst, hlast, hstep⟩, ?_⟩
    -- The character moves as far as the whole stretch, and there is a character there.
    have hcode : (Char.ofNat ((c.toNat : Int) + offset).toNat).toNat =
        ((c.toNat : Int) + offset).toNat := by
      refine toNat_ofNat_of_valid ?_
      unfold Nat.isValidChar
      omega
    rw [hcode]
    have hdistance : ((c.toNat : Int) + offset).toNat - ((first : Int) + offset).toNat =
        c.toNat - first := by omega
    simp only [target, Stretch.Holds, hdistance]
    exact ⟨by omega, by omega, hstep⟩

/-! ### Categories of characters with a case -/

/-- The categories of characters in upper case or title case. -/
def isCapital : Category → Bool
  | .lu | .lt => true
  | _ => false

/-- The category of characters in lower case. -/
def isSmall : Category → Bool
  | .ll => true
  | _ => false

/-- The categories of characters that have a case and are no letters. -/
def isSign : Category → Bool
  | .nl | .so => true
  | _ => false

/-- Where the Roman numerals and the letters in circles begin, in both cases. -/
def signs : List Nat := [8544, 8560, 9398, 9424]

/-- The letters in title case that have an upper case. -/
def titled : List Nat := [453, 456, 459, 498]

/-- The categories of characters with an upper case: letters in title case or lower case, and one
mark. -/
def risen (s : Stretch) : Category → Bool :=
  if titled.contains s.first then isCapital else fun k => isSmall k || k = .mn

/-- The categories in a stretch: those of a class, unless it is a stretch of signs. -/
def kind (p : Category → Bool) (s : Stretch) : Category → Bool :=
  if signs.contains s.first then isSign else p

/-- Stretches in the order of their first code points. -/
def inOrder (stretches : List Stretch) : List Stretch :=
  stretches.insertionSort fun a b => a.first ≤ b.first

/-- A table of cases that goes with the table of categories: it leads from characters of some
categories to characters of others, and from signs to signs. -/
structure Agrees (table : List (Nat × Nat × Nat × Int)) (before : Stretch → Category → Bool)
    (after : Category → Bool) : Prop where
  raised : ∀ run ∈ table, isRaised run = true
  signed : ∀ run ∈ table, signs.contains (target run).first = true →
    signs.contains (source run).first = true
  source : ∀ run ∈ table, ∀ code, (source run).Holds code →
    kind (before (source run)) (source run) (ofCode code) = true
  target : ∀ run ∈ table, ∀ code, (target run).Holds code →
    kind after (target run) (ofCode code) = true

/-- Whether a table of cases goes with the table of categories, which one sweep over the code points
that it starts from and one over those it leads to find out. -/
def agrees (table : List (Nat × Nat × Nat × Int)) (before : Stretch → Category → Bool)
    (after : Category → Bool) : Bool :=
  (table.all fun run => isRaised run &&
    (!signs.contains (target run).first || signs.contains (source run).first)) &&
  sweep (fun s => kind (before s) s) 0 runs (table.map source) &&
  sweep (kind after) 0 runs (inOrder (table.map target))

theorem Agrees.of_agrees {before : Stretch → Category → Bool} {after : Category → Bool}
    (h : agrees table before after = true) : Agrees table before after := by
  simp only [agrees, Bool.and_eq_true, List.all_eq_true, Bool.or_eq_true, Bool.not_eq_true'] at h
  obtain ⟨⟨hruns, hsource⟩, htarget⟩ := h
  refine ⟨fun run hrun => (hruns run hrun).1, fun run hrun hsign => ?_,
    fun run hrun code hholds => ?_, fun run hrun code hholds => ?_⟩
  · refine (hruns run hrun).2.resolve_left fun hnot => ?_
    rw [hsign] at hnot
    cases hnot
  · exact (Category.lookup_of_sweep hsource (List.mem_map_of_mem hrun) hholds).2
  · have hmem : Text.target run ∈ inOrder (table.map Text.target) :=
      (List.mem_insertionSort _).mpr (List.mem_map_of_mem hrun)
    exact (Category.lookup_of_sweep htarget hmem hholds).2

/-- The two tables of cases go with the table of categories, and no character becomes a letter in
title case that has an upper case. -/
theorem agrees_caseRuns : (agrees upperRuns risen isCapital &&
    agrees lowerRuns (fun _ => isCapital) isSmall &&
    (upperRuns.filter fun run => titled.contains run.1).all fun run =>
      upperRuns.all fun other => (target other).last < (source run).first ||
        (source run).last < (target other).first) = true := by
  decide +kernel

theorem agrees_upperRuns : Agrees upperRuns risen isCapital := by
  have h := agrees_caseRuns
  rw [Bool.and_eq_true, Bool.and_eq_true] at h
  exact .of_agrees h.1.1

theorem agrees_lowerRuns : Agrees lowerRuns (fun _ => isCapital) isSmall := by
  have h := agrees_caseRuns
  rw [Bool.and_eq_true, Bool.and_eq_true] at h
  exact .of_agrees h.1.2

/-! ### Letters and digits -/

theorem isLetter_of_isCapital (h : isCapital (category c) = true) : isLetter c = true := by
  revert h
  unfold isLetter
  cases category c <;> decide

theorem isLetter_of_isSmall (h : isSmall (category c) = true) : isLetter c = true := by
  revert h
  unfold isLetter
  cases category c <;> decide

theorem isSign_of_isLetter (h : isLetter c = true) : isSign (category c) = false := by
  revert h
  unfold isLetter
  cases category c <;> decide

variable {before : Stretch → Category → Bool} {after : Category → Bool}

/-- A letter has no other case in a table, or it becomes a character of the categories that the
table leads to. -/
theorem Agrees.mapCase_of_isLetter (h : Agrees table before after) (hc : isLetter c = true) :
    mapCase table c = c ∧ (∀ run ∈ table, ¬ (Text.source run).Holds c.toNat) ∨
      (∃ run ∈ table, (Text.target run).Holds (mapCase table c).toNat) ∧
        after (category (mapCase table c)) = true := by
  refine (mapCase_cases h.raised c).imp_right ?_
  rintro ⟨run, hrun, hsource, htarget⟩
  refine ⟨⟨run, hrun, htarget⟩, ?_⟩
  -- Only signs become signs, and a letter is none.
  have hsign : signs.contains (Text.source run).first = false := by
    rw [Bool.eq_false_iff]
    intro hsign
    have hkind := h.source run hrun _ hsource
    rw [kind, if_pos hsign] at hkind
    exact absurd hkind (by rw [← category, isSign_of_isLetter hc]; decide)
  have hkind := h.target run hrun _ htarget
  rw [kind, if_neg] at hkind
  · exact hkind
  · intro hcontains
    rw [h.signed run hrun hcontains] at hsign
    cases hsign

/-- A digit has no other case. -/
theorem Agrees.mapCase_of_isDigit (h : Agrees table before after)
    (hbefore : ∀ s, before s .nd = false) (hc : isDigit c = true) : mapCase table c = c := by
  refine ((mapCase_cases h.raised c).resolve_right ?_).1
  rintro ⟨run, hrun, hsource, -⟩
  have hkind := h.source run hrun _ hsource
  have hdigit : ofCode c.toNat = .nd := of_decide_eq_true hc
  rw [hdigit, kind] at hkind
  split at hkind
  · cases hkind
  · rw [hbefore] at hkind
    cases hkind

theorem isLetter_toUpper (h : isLetter c = true) : isLetter (toUpper c) = true := by
  rcases agrees_upperRuns.mapCase_of_isLetter h with ⟨hsame, -⟩ | ⟨-, hcapital⟩
  · rw [toUpper, hsame]
    exact h
  · exact isLetter_of_isCapital hcapital

theorem isLetter_toLower (h : isLetter c = true) : isLetter (toLower c) = true := by
  rcases agrees_lowerRuns.mapCase_of_isLetter h with ⟨hsame, -⟩ | ⟨-, hsmall⟩
  · rw [toLower, hsame]
    exact h
  · exact isLetter_of_isSmall hsmall

theorem toUpper_of_isDigit (h : isDigit c = true) : toUpper c = c := by
  refine agrees_upperRuns.mapCase_of_isDigit (fun s => ?_) h
  unfold risen
  split <;> rfl

theorem toLower_of_isDigit (h : isDigit c = true) : toLower c = c :=
  agrees_lowerRuns.mapCase_of_isDigit (fun _ => rfl) h

/-! ### Other cases -/

/-- The upper case of a letter is its own upper case. -/
theorem toUpper_toUpper (h : isLetter c = true) : toUpper (toUpper c) = toUpper c := by
  rcases agrees_upperRuns.mapCase_of_isLetter h with ⟨hsame, -⟩ | ⟨⟨run, hrun, htarget⟩, hcapital⟩
  · unfold toUpper
    rw [hsame, hsame]
  · refine ((mapCase_cases agrees_upperRuns.raised (toUpper c)).resolve_right ?_).1
    rintro ⟨other, hother, hsource, -⟩
    -- A capital letter with another upper case is in title case.
    have htitled : titled.contains other.1 = true := by
      by_contra hnot
      have hkind := agrees_upperRuns.source other hother _ hsource
      have hfirst : (source other).first = other.1 := rfl
      rw [kind, risen, hfirst, if_neg hnot] at hkind
      revert hcapital hkind
      unfold toUpper category
      cases ofCode (mapCase upperRuns c).toNat <;> split <;> decide
    have hrow := List.all_eq_true.mp (Bool.and_eq_true_iff.mp agrees_caseRuns).2 other
      (List.mem_filter.mpr ⟨hother, htitled⟩)
    have hapart := List.all_eq_true.mp hrow run hrun
    simp only [Bool.or_eq_true, decide_eq_true_eq] at hapart
    obtain ⟨hfirst, hlast, -⟩ := hsource
    obtain ⟨hfirst', hlast', -⟩ := htarget
    unfold toUpper at hfirst hlast
    omega

/-- A lower case that is an upper-case letter is that of a letter without a lower case. -/
theorem toLower_eq_of_isUpper (h : isUpper (toLower c) = true) : toLower c = c := by
  refine ((mapCase_cases agrees_lowerRuns.raised c).resolve_right ?_).1
  rintro ⟨run, hrun, -, htarget⟩
  have hkind := agrees_lowerRuns.target run hrun _ htarget
  have hupper : ofCode (mapCase lowerRuns c).toNat = .lu := of_decide_eq_true h
  rw [hupper, kind] at hkind
  split at hkind <;> cases hkind

end Text

end Accord
