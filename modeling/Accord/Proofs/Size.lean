/-
# What sizes stand for

A size is a number and the name of a unit, with white space around them and between them. Nothing
else is taken. The number is rounded to a double, the product with the unit is rounded again, and
what is left of a whole byte is dropped. The size is therefore exact where neither rounding moves
the product across a whole number: in particular where a number of halves, quarters and so on has a
product that fits the significand.

## Main definitions

* `Size.Names`: the names of units and their numbers of bytes;
* `Size.Literal`: the parts of a size, with `Literal.text` and `Literal.total`, its exact value;
* `Size.Refused`: a text is refused as a size that is not valid;
* `Size.Literal.Exact`: a size stands for its exact value, cut to whole bytes.

## Main results

* `Size.mem_units_iff`: the units that are listed are those of the rule;
* `Size.parse_eq_ok_iff`, `Size.exists_literal`: what is taken, and that it is a size;
* `Size.Literal.parts_text`: how a size is taken apart;
* `Size.Literal.parse_of_rounds`: a size stands for the rounded product;
* `Size.Literal.exact_iff`, `Size.Literal.exact_of_dyadic`: when rounding does no harm;
* `Size.parse_size`: what every text stands for.
-/

import Accord.Size
import Accord.Proofs.Double.Decimals
import Accord.Proofs.Text.Blanks
import Accord.Proofs.Text.Entries
import Mathlib.Algebra.Order.Floor.Semifield
import Mathlib.Data.Rat.Floor

namespace Accord.Size

open Text Double

/-! ### Units -/

/-- The powers that letters stand for. -/
def powers : List (UInt8 × Nat) := [(byte 'k', 1), (byte 'm', 2), (byte 'g', 3), (byte 't', 4)]

/-- What may follow: nothing, or the letter for bytes. -/
def marks : List Text := [[], [byte 'b']]

/-- The name of a unit and its number of bytes: a power of 1000, or with an `i` of 1024. -/
inductive Names : Text → Nat → Prop where
  | one {mark : Text} (hmark : mark ∈ marks) : Names mark 1
  | decimal {letter : UInt8} {power : Nat} {mark : Text} (hletter : (letter, power) ∈ powers)
      (hmark : mark ∈ marks) : Names (letter :: mark) (1000 ^ power)
  | binary {letter : UInt8} {power : Nat} {mark : Text} (hletter : (letter, power) ∈ powers)
      (hmark : mark ∈ marks) : Names (letter :: byte 'i' :: mark) (1024 ^ power)

/-- The list of units, made by the rule. -/
theorem units_eq : units = marks.map (·, 1) ++ powers.flatMap fun p =>
    marks.map (fun mark => (p.1 :: mark, 1000 ^ p.2)) ++
      marks.map fun mark => (p.1 :: byte 'i' :: mark, 1024 ^ p.2) := by
  decide +kernel

/-- The units that are listed are those that the rule names. -/
theorem mem_units_iff {name : Text} {bytes : Nat} : (name, bytes) ∈ units ↔ Names name bytes := by
  rw [units_eq, List.mem_append, List.mem_flatMap]
  constructor
  · rintro (hone | ⟨p, hp, hmem⟩)
    · obtain ⟨mark, hmark, heq⟩ := List.mem_map.mp hone
      cases heq
      exact .one hmark
    · rcases List.mem_append.mp hmem with hmem | hmem
      · obtain ⟨mark, hmark, heq⟩ := List.mem_map.mp hmem
        cases heq
        exact .decimal hp hmark
      · obtain ⟨mark, hmark, heq⟩ := List.mem_map.mp hmem
        cases heq
        exact .binary hp hmark
  · rintro (hmark | ⟨hletter, hmark⟩ | ⟨hletter, hmark⟩)
    · exact .inl (List.mem_map_of_mem hmark)
    · exact .inr ⟨_, hletter, List.mem_append_left _ (List.mem_map_of_mem hmark)⟩
    · exact .inr ⟨_, hletter, List.mem_append_right _ (List.mem_map_of_mem hmark)⟩

/-! ### Sizes -/

/-- The parts of a size. The letters of the unit, put into lower case, are its name. -/
structure Literal where
  lead : List Char
  number : Decimals
  gap : List Char
  unit : List Char
  tail : List Char
  bytes : Nat
  lead_blank : AllBlank lead
  gap_blank : AllBlank gap
  tail_blank : AllBlank tail
  plain : number.exponent = none
  named : Names (ofChars (unit.map toLower)) bytes

namespace Literal

/-- The size as it is written. -/
def text (l : Literal) : Text :=
  ofChars l.lead ++ (l.number.text ++ (ofChars l.gap ++ (ofChars l.unit ++ ofChars l.tail)))

/-- The number of bytes, with what is left of a whole one. -/
def total (l : Literal) : ℚ := l.number.value * l.bytes

end Literal

/-- A text is refused, as a size that is not valid. -/
def Refused (s : Text) : Prop := ∃ e, parse s = .error e ∧ e.fault.has .invalidSize = true

/-- A size stands for its whole bytes, and is refused if they are too many for 63 bits. -/
def Literal.Exact (l : Literal) : Prop :=
  if l.total < 2 ^ 63 then parse l.text = .ok ⌊l.total⌋₊ else Refused l.text

variable {l : Literal} {s : Text} {n : Nat} {a r : ℚ}

/-! ### Letters -/

/-- The names of units are made of small ASCII letters. -/
theorem units_spec : ∀ entry ∈ units,
    0 < entry.2 ∧ ∀ b ∈ entry.1, isLowerByte b = true ∧ b < 0x80 := by
  decide +kernel

theorem nodup_units : (units.map (·.1)).Nodup := by decide +kernel

theorem Literal.listed (l : Literal) : (ofChars (l.unit.map toLower), l.bytes) ∈ units :=
  mem_units_iff.mpr l.named

theorem Literal.lookup_unit (l : Literal) :
    units.lookup (ofChars (l.unit.map toLower)) = some l.bytes :=
  lookup_of_mem nodup_units l.listed

/-- The letters of a unit are no white space and no digits. -/
theorem Literal.isSeparator_unit (l : Literal) : ∀ c ∈ l.unit, isSeparator c = false := by
  intro c hc
  obtain ⟨-, hlower⟩ := units_spec _ l.listed
  -- One byte of the small letter is enough: it is ASCII, and so the whole letter.
  obtain ⟨b, rest, hbytes⟩ :=
    List.exists_cons_of_ne_nil (String.utf8EncodeChar_ne_nil (c := toLower c))
  have hmem : b ∈ String.utf8EncodeChar (toLower c) := by
    rw [hbytes]
    exact List.mem_cons_self
  obtain ⟨hb, hascii⟩ :=
    hlower b (List.mem_flatMap.mpr ⟨toLower c, List.mem_map_of_mem hc, hmem⟩)
  exact isSeparator_of_toLower hb (eq_of_ascii_mem_encode hascii hmem)

theorem Literal.isBlank_unit (l : Literal) : ∀ c ∈ l.unit, isBlank c = false := by
  intro c hc
  have hletter := l.isSeparator_unit c hc
  simp only [isSeparator, Bool.or_eq_false_iff] at hletter
  exact hletter.1.1

/-- The bytes of a character that is white space, or no separator, are no part of a number. -/
theorem isNumberByte_of_mem_ofChars {cs : List Char}
    (h : ∀ c ∈ cs, isBlank c = true ∨ isSeparator c = false) :
    ∀ b ∈ ofChars cs, isNumberByte b = false := by
  have table : ∀ b, isNumberByte b = true → b < 0x80 ∧
      isBlank (Char.ofNat b.toNat) = false ∧ isSeparator (Char.ofNat b.toNat) = true :=
    forall_byte (by decide +kernel)
  intro b hb
  obtain ⟨c, hc, hb⟩ := List.mem_flatMap.mp hb
  by_contra hnumber
  obtain ⟨hascii, hblank, hseparator⟩ := table b (by simpa using hnumber)
  obtain rfl := eq_of_ascii_mem_encode hascii hb
  rcases h _ hc with h | h
  · rw [hblank] at h
    cases h
  · rw [hseparator] at h
    cases h

/-! ### The number -/

/-- Without an exponent there are digits and a point. -/
theorem isNumberByte_of_mem_text {d : Decimals} (h : d.exponent = none) :
    ∀ b ∈ d.text, isNumberByte b = true := by
  intro b hb
  obtain ⟨hwhole, hfraction⟩ := isDigits_append.mp d.isDigits
  rw [Decimals.text, h, Option.elim_none, List.append_nil] at hb
  rcases List.mem_append.mp hb with hb | hb
  · simp [isNumberByte, hwhole b hb]
  · cases hcase : d.fraction with
    | none =>
      rw [hcase] at hb
      cases hb
    | some t =>
      rw [hcase] at hb hfraction
      rcases List.mem_cons.mp hb with rfl | hb
      · decide
      · simp [isNumberByte, hfraction b hb]

theorem count_point_of_isDigits {t : Text} (h : IsDigits t) : t.count (byte '.') = 0 := by
  refine List.count_eq_zero.mpr fun hmem => ?_
  exact absurd (h _ hmem) (by decide)

theorem count_point_le {d : Decimals} (h : d.exponent = none) : d.text.count (byte '.') ≤ 1 := by
  obtain ⟨hwhole, hfraction⟩ := isDigits_append.mp d.isDigits
  rw [Decimals.text, h, Option.elim_none, List.append_nil, List.count_append,
    count_point_of_isDigits hwhole]
  cases hcase : d.fraction with
  | none => simp
  | some t =>
    rw [hcase, Option.getD_some] at hfraction
    rw [Option.elim_some, List.count_cons_self, count_point_of_isDigits hfraction]

/-- A point without digits is no number. -/
theorem read_point : Double.read [byte '.'] = .error .syntaxError := by decide +kernel

/-- Digits with at most one point that are read as a number are a decimal spelling. -/
theorem exists_decimals {t : Text} {d : Double} (hbytes : ∀ b ∈ t, isNumberByte b = true)
    (hne : t ≠ []) (hcount : t.count (byte '.') ≤ 1) (hread : Double.read t = .ok d) :
    ∃ number : Decimals, number.exponent = none ∧ number.text = t := by
  have hdigits {u : Text} (hu : ∀ b ∈ u, b ∈ t) (hpoint : byte '.' ∉ u) : IsDigits u := by
    intro b hb
    have hnumber := hbytes b (hu b hb)
    have hne : b ≠ byte '.' := fun heq => hpoint (heq ▸ hb)
    simpa [isNumberByte, hne] using hnumber
  by_cases hpoint : byte '.' ∈ t
  · obtain ⟨whole, fraction, rfl⟩ := List.append_of_mem hpoint
    rw [List.count_append, List.count_cons_self] at hcount
    have hwhole : IsDigits whole :=
      hdigits (fun b hb => by simp [hb]) (List.count_eq_zero.mp (by omega))
    have hfraction : IsDigits fraction :=
      hdigits (fun b hb => by simp [hb]) (List.count_eq_zero.mp (by omega))
    -- A point alone passes all tests but the reading.
    have hsome : whole ++ fraction ≠ [] := by
      intro hnil
      obtain ⟨rfl, rfl⟩ := List.append_eq_nil_iff.mp hnil
      rw [List.nil_append, read_point] at hread
      cases hread
    exact ⟨⟨whole, some fraction, none, hsome, isDigits_append.mpr ⟨hwhole, hfraction⟩⟩, rfl,
      by simp [Decimals.text]⟩
  · exact ⟨⟨t, none, none, by simpa using hne, by simpa using hdigits (fun _ h => h) hpoint⟩, rfl,
      by simp [Decimals.text]⟩

/-- The characters of a number. None of them is white space. -/
theorem exists_chars_text {d : Decimals} (h : d.exponent = none) :
    ∃ cs, cs ≠ [] ∧ ofChars cs = d.text ∧ ∀ c ∈ cs, isBlank c = false := by
  have table : ∀ b, isNumberByte b = true →
      b < 0x80 ∧ isBlank (Char.ofNat b.toNat) = false := forall_byte (by decide +kernel)
  refine ⟨d.text.map fun b => Char.ofNat b.toNat, ?_, ofChars_of_ascii fun b hb => ?_, ?_⟩
  · obtain ⟨b, rest, htext, -⟩ := d.exists_text_eq_cons
    simp [htext]
  · exact (table b (isNumberByte_of_mem_text h b hb)).1
  · intro c hc
    obtain ⟨b, hb, rfl⟩ := List.mem_map.mp hc
    exact (table b (isNumberByte_of_mem_text h b hb)).2

/-! ### The parts of a text -/

/-- What must be true of the parts of a text that is taken. -/
theorem parse_eq_ok_iff : parse s = .ok n ↔
    s.trim.takeWhile isNumberByte ≠ [] ∧
    (s.trim.takeWhile isNumberByte).count (byte '.') ≤ 1 ∧
    ∃ bytes d, units.lookup (lower (trim (s.trim.dropWhile isNumberByte))) = some bytes ∧
      Double.read (s.trim.takeWhile isNumberByte) = .ok d ∧ product d bytes = n ∧ n < 2 ^ 63 := by
  have hlimit : UInt64.size = 2 ^ 64 ∧ 1 <<< 63 = 2 ^ 63 := by decide
  unfold parse
  dsimp only
  generalize s.trim.takeWhile isNumberByte = number
  generalize lower (trim (s.trim.dropWhile isNumberByte)) = unit
  split
  · next hbad =>
    simp only [Bool.or_eq_true, List.isEmpty_iff, decide_eq_true_eq] at hbad
    constructor
    · intro heq
      cases heq
    · rintro ⟨hne, hcount, -⟩
      rcases hbad with hnil | hmany
      · exact absurd hnil hne
      · omega
  · next hgood =>
    simp only [Bool.or_eq_true, List.isEmpty_iff, decide_eq_true_eq, not_or, not_lt] at hgood
    cases hlookup : units.lookup unit with
    | none => exact iff_of_false (fun h => by cases h) (by simp)
    | some bytes =>
      cases hread : Double.read number with
      | error cause => exact iff_of_false (fun h => by cases h) (by simp)
      | ok d =>
        have hparts : (number ≠ [] ∧ number.count (byte '.') ≤ 1 ∧ ∃ bytes' d',
            some bytes = some bytes' ∧ (Except.ok d : Except NumberError Double) = .ok d' ∧
              product d' bytes' = n ∧ n < 2 ^ 63) ↔ product d bytes = n ∧ n < 2 ^ 63 := by
          constructor
          · rintro ⟨-, -, _, _, ⟨⟩, ⟨⟩, hn⟩
            exact hn
          · exact fun hn => ⟨hgood.1, hgood.2, bytes, d, rfl, rfl, hn⟩
        rw [hparts]
        -- The two limits are one after the other: the greater one is met first.
        dsimp only
        split
        · exact iff_of_false (fun h => by cases h) (by omega)
        · split
          · exact iff_of_false (fun h => by cases h) (by omega)
          · next hfits =>
            constructor
            · rintro ⟨⟩
              exact ⟨rfl, by omega⟩
            · rintro ⟨rfl, -⟩
              rfl

/-- What is taken is a size. -/
theorem exists_literal (h : parse s = .ok n) : ∃ l : Literal, l.text = s := by
  obtain ⟨hne, hcount, bytes, d, hlookup, hread, -, -⟩ := parse_eq_ok_iff.mp h
  have hnumber : ∀ b ∈ s.trim.takeWhile isNumberByte, isNumberByte b = true :=
    List.all_eq_true.mp List.all_takeWhile
  obtain ⟨number, hplain, htext⟩ := exists_decimals hnumber hne hcount hread
  obtain ⟨lead, tail, hlead, htail, houter⟩ := exists_trim_eq s
  obtain ⟨gap, rest, hgap, hrest, hinner⟩ := exists_trim_eq (s.trim.dropWhile isNumberByte)
  generalize hname : lower (trim (s.trim.dropWhile isNumberByte)) = name at hlookup
  have hlisted := mem_of_lookup hlookup
  obtain ⟨unit, hunit, rfl⟩ :=
    exists_chars_of_lower hname fun b hb => ((units_spec _ hlisted).2 b hb).2
  have hnamed := mem_units_iff.mp hlisted
  refine ⟨⟨lead, number, gap, unit, rest ++ tail, bytes, hlead, hgap, hrest.append htail, hplain,
    hnamed⟩, ?_⟩
  -- Both kinds of white space at the end are one in the size.
  have hsplit : s.trim = number.text ++ (ofChars gap ++ (ofChars unit ++ ofChars rest)) := by
    rw [htext, ← hunit, ← hinner, List.takeWhile_append_dropWhile]
  rw [Literal.text, ofChars_append]
  conv_rhs => rw [houter, hsplit]
  simp only [List.append_assoc]

namespace Literal

/-- Without a unit, the white space before it is at the end. -/
theorem exists_trim_text (l : Literal) :
    ∃ gap, AllBlank gap ∧ trim l.text = l.number.text ++ ofChars (gap ++ l.unit) := by
  obtain ⟨cs, hne, hcs, hvisible⟩ := exists_chars_text l.plain
  have hfirst (rest : List Char) : ∀ c ∈ (cs ++ rest).head?, isBlank c = false := by
    obtain ⟨c, cs, rfl⟩ := List.exists_cons_of_ne_nil hne
    simpa using hvisible c List.mem_cons_self
  by_cases hunit : l.unit = []
  · have htext : l.text = ofChars (l.lead ++ (cs ++ (l.gap ++ l.tail))) := by
      simp only [text, hunit, ofChars_append, hcs]
      rfl
    refine ⟨[], by simp [AllBlank], ?_⟩
    rw [htext, trim_between l.lead_blank (l.gap_blank.append l.tail_blank)
      (by simpa using hfirst []) fun c hc => hvisible c (List.mem_of_getLast? hc), hunit, hcs]
    exact (List.append_nil _).symm
  · have htext : l.text = ofChars (l.lead ++ ((cs ++ (l.gap ++ l.unit)) ++ l.tail)) := by
      simp only [text, ofChars_append, hcs, List.append_assoc]
    refine ⟨l.gap, l.gap_blank, ?_⟩
    rw [htext, trim_between l.lead_blank l.tail_blank (hfirst _) fun c hc => ?_, ofChars_append,
      hcs]
    rw [← List.append_assoc, List.getLast?_append_of_ne_nil _ hunit] at hc
    exact l.isBlank_unit c (List.mem_of_getLast? hc)

/-- A size is taken apart into its number and its unit. -/
theorem parts_text (l : Literal) :
    l.text.trim.takeWhile isNumberByte = l.number.text ∧
      lower (trim (l.text.trim.dropWhile isNumberByte)) = ofChars (l.unit.map toLower) := by
  obtain ⟨gap, hgap, htrim⟩ := l.exists_trim_text
  have hnumber := isNumberByte_of_mem_text l.plain
  have hrest := @isNumberByte_of_mem_ofChars (gap ++ l.unit) fun c hc =>
    (List.mem_append.mp hc).imp (hgap c) (l.isSeparator_unit c)
  -- The number ends where the gap or the unit begins, since neither has a byte of a number.
  have hend : (ofChars (gap ++ l.unit)).takeWhile isNumberByte = [] ∧
      (ofChars (gap ++ l.unit)).dropWhile isNumberByte = ofChars (gap ++ l.unit) := by
    cases hcase : ofChars (gap ++ l.unit) with
    | nil => exact ⟨rfl, rfl⟩
    | cons b rest =>
      have hb := hrest b (by simp [hcase])
      exact ⟨List.takeWhile_cons_of_neg (by simp [hb]), List.dropWhile_cons_of_neg (by simp [hb])⟩
  have hunit : trim (ofChars (gap ++ (l.unit ++ []))) = ofChars l.unit :=
    trim_between hgap (by simp [AllBlank]) (fun c hc => l.isBlank_unit c (List.mem_of_head? hc))
      fun c hc => l.isBlank_unit c (List.mem_of_getLast? hc)
  rw [List.append_nil] at hunit
  rw [htrim, List.takeWhile_append_of_pos hnumber, List.dropWhile_append_of_pos hnumber, hend.1,
    hend.2, List.append_nil, hunit, lower_ofChars]
  exact ⟨rfl, rfl⟩

/-- A size is taken if its number can be read and the product fits. -/
theorem parse_text_eq_ok_iff (l : Literal) : parse l.text = .ok n ↔
    ∃ d, Double.read l.number.text = .ok d ∧ product d l.bytes = n ∧ n < 2 ^ 63 := by
  obtain ⟨hnumber, hunit⟩ := l.parts_text
  have hne : l.number.text ≠ [] := by
    obtain ⟨b, rest, htext, -⟩ := l.number.exists_text_eq_cons
    simp [htext]
  rw [parse_eq_ok_iff, hnumber, hunit, l.lookup_unit]
  constructor
  · rintro ⟨-, -, _, d, ⟨⟩, hread⟩
    exact ⟨d, hread⟩
  · rintro ⟨d, hread⟩
    exact ⟨hne, count_point_le l.plain, l.bytes, d, rfl, hread⟩

end Literal

/-! ### The product -/

/-- The whole part of bits. -/
theorem floor_value (bits : Nat) :
    (Format.binary64.parts bits).1 * Format.powerUp 2 (Format.binary64.parts bits).2 /
      Format.powerUp 2 (-(Format.binary64.parts bits).2) = ⌊Format.binary64.value bits⌋₊ := by
  have hpower := Format.powerUp_div (b := 2) (by decide) (Format.binary64.parts bits).2
  rw [Nat.cast_ofNat] at hpower
  rw [Format.value, ← hpower, ← mul_div_assoc, ← Nat.cast_mul, Nat.floor_div_eq_div]

/-- The product is rounded and cut. -/
theorem product_eq (d : Double) (unit : Nat) :
    ∃ bits, Format.binary64.IsNearest (Format.binary64.value d.magnitude * unit) bits ∧
      product d unit = ⌊Format.binary64.value bits⌋₊ := by
  refine ⟨_, ?_, floor_value _⟩
  have hpower := Format.powerUp_div (b := 2) (by decide) (Format.binary64.parts d.magnitude).2
  rw [Nat.cast_ofNat] at hpower
  have hvalue : Format.binary64.value d.magnitude * unit =
      (((Format.binary64.parts d.magnitude).1 * unit *
        Format.powerUp 2 (Format.binary64.parts d.magnitude).2 : Nat) : ℚ) /
        Format.powerUp 2 (-(Format.binary64.parts d.magnitude).2) := by
    rw [Format.value, ← hpower]
    push_cast
    ring
  rw [hvalue]
  exact Format.isNearest_round (by decide) _ (Format.powerUp_pos (by decide) _)

/-- A number that is read has a product that is rounded twice. -/
theorem product_of_read {d : Double} (hvalue : d.value = a) (ha : 0 ≤ a) (unit : Nat)
    (hr : RoundsTo (a * unit) r) : product d unit = ⌊r⌋₊ := by
  -- The sign is not looked at, and could only be that of zero.
  have hmagnitude : Format.binary64.value d.magnitude = a := by
    have hnonneg := Format.value_nonneg Format.binary64 d.magnitude
    rw [Double.value] at hvalue
    split at hvalue
    · linarith
    · exact hvalue
  obtain ⟨p, hp, hproduct⟩ := product_eq d unit
  rw [hmagnitude] at hp
  obtain ⟨q, hq, rfl⟩ := (roundsTo_iff (by positivity)).mp hr
  rw [hproduct, hp.unique hq]

theorem floor_lt_limit {x : ℚ} (hx : 0 ≤ x) : ⌊x⌋₊ < 2 ^ 63 ↔ x < 2 ^ 63 := by
  rw [Nat.floor_lt hx]
  norm_num

/-- Whatever is not taken is refused. -/
theorem refused_iff : Refused s ↔ ∀ n, parse s ≠ .ok n := by
  constructor
  · rintro ⟨e, he, -⟩ n hn
    rw [he] at hn
    cases hn
  · intro hnot
    cases hparse : parse s with
    | ok n => exact absurd hparse (hnot n)
    | error e => exact ⟨e, hparse, by simp [Error.fault, Fault.has, Fault.mark, Fault.parts]⟩

namespace Literal

/-- A size stands for the whole part of the rounded product, if that is below the limit. -/
theorem parse_of_rounds (l : Literal) (ha : RoundsTo l.number.value a)
    (hr : RoundsTo (a * l.bytes) r) : parse l.text = .ok n ↔ r < 2 ^ 63 ∧ n = ⌊r⌋₊ := by
  have hshort : l.number.Short := by
    intro x hx
    rw [l.plain] at hx
    cases hx
  have hread := l.number.readsNearest hshort false a ha
  have ha0 := ha.nonneg l.number.value_nonneg
  have hr0 := hr.nonneg (mul_nonneg ha0 (Nat.cast_nonneg _))
  rw [parse_text_eq_ok_iff]
  rw [abs_of_nonneg ha0] at hread
  split at hread
  · obtain ⟨d, hd, -, hvalue⟩ := hread
    have hproduct := product_of_read hvalue ha0 l.bytes hr
    constructor
    · rintro ⟨_, hd', rfl, hlimit⟩
      obtain rfl := Except.ok.inj (hd.symm.trans hd')
      rw [hproduct] at hlimit ⊢
      exact ⟨(floor_lt_limit hr0).mp hlimit, rfl⟩
    · rintro ⟨hlimit, rfl⟩
      exact ⟨d, hd, hproduct, (floor_lt_limit hr0).mpr hlimit⟩
  · -- The number alone is beyond all doubles, and so is the product.
    next hlarge =>
    have hbytes : (1 : ℚ) ≤ l.bytes := by exact_mod_cast (units_spec _ l.listed).1
    have hinfinity := hr.eq_infinity ((not_lt.mp hlarge).trans (le_mul_of_one_le_right ha0 hbytes))
    refine iff_of_false ?_ ?_
    · rintro ⟨d, hd, -⟩
      cases hread.symm.trans hd
    · rintro ⟨hlimit, -⟩
      rw [hinfinity] at hlimit
      exact absurd hlimit (not_lt.mpr (pow_le_pow_right₀ (by norm_num) (by norm_num)))

theorem refused_of_rounds (l : Literal) (ha : RoundsTo l.number.value a)
    (hr : RoundsTo (a * l.bytes) r) : Refused l.text ↔ 2 ^ 63 ≤ r := by
  rw [refused_iff]
  constructor
  · intro hnot
    by_contra hlimit
    exact hnot ⌊r⌋₊ ((l.parse_of_rounds ha hr).mpr ⟨not_le.mp hlimit, rfl⟩)
  · intro hlimit n hn
    exact absurd ((l.parse_of_rounds ha hr).mp hn).1 (not_lt.mpr hlimit)

theorem total_nonneg (l : Literal) : 0 ≤ l.total :=
  mul_nonneg l.number.value_nonneg (Nat.cast_nonneg _)

/-- Rounding does no harm if it leaves the whole part as it is, or both are too large. -/
theorem exact_iff (l : Literal) (ha : RoundsTo l.number.value a)
    (hr : RoundsTo (a * l.bytes) r) :
    l.Exact ↔ ⌊r⌋₊ = ⌊l.total⌋₊ ∨ 2 ^ 63 ≤ r ∧ 2 ^ 63 ≤ l.total := by
  have hr0 := hr.nonneg (mul_nonneg (ha.nonneg l.number.value_nonneg) (Nat.cast_nonneg _))
  have hrlimit := floor_lt_limit hr0
  have hlimit := floor_lt_limit l.total_nonneg
  rw [Exact]
  split
  · next hsmall =>
    rw [l.parse_of_rounds ha hr]
    constructor
    · exact fun h => .inl h.2.symm
    · rintro (heq | ⟨-, hlarge⟩)
      · refine ⟨hrlimit.mp ?_, heq.symm⟩
        rw [heq]
        exact hlimit.mpr hsmall
      · exact absurd hsmall (not_lt.mpr hlarge)
  · next hlarge =>
    rw [l.refused_of_rounds ha hr]
    constructor
    · exact fun h => .inr ⟨h, not_lt.mp hlarge⟩
    · rintro (heq | ⟨hr', -⟩)
      · rw [← not_lt, ← hrlimit, heq, hlimit]
        exact hlarge
      · exact hr'

/-- A number of halves, quarters and so on, whose product with the unit fits the significand, is not
rounded at all. -/
theorem exact_of_dyadic (l : Literal) {k i : Nat} (hi : i ≤ 1074)
    (hvalue : l.number.value = k / 2 ^ i) (hk : k * l.bytes ≤ 2 ^ 53) : l.Exact := by
  have hbytes : 0 < l.bytes := (units_spec _ l.listed).1
  have hnumber : RoundsTo l.number.value l.number.value := by
    rw [hvalue]
    exact roundsTo_div ((Nat.le_mul_of_pos_right k hbytes).trans hk) hi
  have htotal : l.number.value * l.bytes = ((k * l.bytes : Nat) : ℚ) / 2 ^ i := by
    rw [hvalue]
    push_cast
    ring
  have hproduct : RoundsTo (l.number.value * l.bytes) l.total := by
    rw [total, htotal]
    exact roundsTo_div hk hi
  exact (l.exact_iff hnumber hproduct).mpr (.inl rfl)

end Literal

/-! ### Every text -/

/-- What is no size is refused. A size stands for the whole part of its product, where the number
and the product are rounded to doubles, and is refused if that is too large. This is the exact
product if the rounding leaves its whole part, or both are too large, and always for fractions of
a power of two whose product fits the significand. -/
theorem parse_size (s : Text) :
    ((∀ l : Literal, l.text ≠ s) → Refused s) ∧
    ∀ l : Literal, l.text = s →
      ∃ a r, RoundsTo l.number.value a ∧ RoundsTo (a * l.bytes) r ∧
        (if r < 2 ^ 63 then parse s = .ok ⌊r⌋₊ else Refused s) ∧
        (l.Exact ↔ ⌊r⌋₊ = ⌊l.total⌋₊ ∨ 2 ^ 63 ≤ r ∧ 2 ^ 63 ≤ l.total) ∧
        ∀ k i : Nat, i ≤ 1074 → l.number.value = k / 2 ^ i → k * l.bytes ≤ 2 ^ 53 → l.Exact := by
  constructor
  · intro hnone
    refine refused_iff.mpr fun n hn => ?_
    obtain ⟨l, hl⟩ := exists_literal hn
    exact hnone l hl
  · rintro l rfl
    obtain ⟨a, ha⟩ := exists_roundsTo l.number.value
    obtain ⟨r, hr⟩ := exists_roundsTo (a * l.bytes)
    refine ⟨a, r, ha, hr, ?_, l.exact_iff ha hr, fun k i hi hvalue hk =>
      l.exact_of_dyadic hi hvalue hk⟩
    split
    · next hlimit => exact (l.parse_of_rounds ha hr).mpr ⟨hlimit, rfl⟩
    · next hlimit => exact (l.refused_of_rounds ha hr).mpr (not_lt.mp hlimit)

/-- One and a half gibibytes, with white space and capitals. -/
def gibAndHalf : Literal where
  lead := [' ']
  number := ⟨"1", some "5", none, by decide, List.all_eq_true.mp rfl⟩
  gap := ['\t']
  unit := ['G', 'i', 'B']
  tail := ['\n']
  bytes := 1024 ^ 3
  lead_blank := List.all_eq_true.mp rfl
  gap_blank := List.all_eq_true.mp rfl
  tail_blank := List.all_eq_true.mp rfl
  plain := rfl
  named := mem_units_iff.mp (by decide +kernel)

theorem value_gibAndHalf : gibAndHalf.number.value = (3 : Nat) / 2 ^ 1 := by
  have hdigits : digitsToNat gibAndHalf.number.digits = 15 := by decide
  have hpower : gibAndHalf.number.power = -1 := by decide
  rw [Decimals.value, hdigits, hpower]
  norm_num

theorem parse_size_gibAndHalf :
    ((∀ l : Literal, l.text ≠ []) ∧ Refused []) ∧
    gibAndHalf.text = " 1.5\tGiB\n" ∧ parse " 1.5\tGiB\n" = .ok 1610612736 := by
  have hnone (l : Literal) : l.text ≠ [] := by
    obtain ⟨b, rest, htext, -⟩ := l.number.exists_text_eq_cons
    simp [Literal.text, htext]
  have htext : gibAndHalf.text = " 1.5\tGiB\n" := by decide +kernel
  obtain ⟨a, r, -, -, -, -, hdyadic⟩ := (parse_size " 1.5\tGiB\n").2 gibAndHalf htext
  have hexact := hdyadic 3 1 (by decide) value_gibAndHalf (by decide)
  have htotal : gibAndHalf.total = (1610612736 : Nat) := by
    have hbytes : gibAndHalf.bytes = 1073741824 := by decide
    rw [Literal.total, value_gibAndHalf, hbytes]
    norm_num
  rw [Literal.Exact, htotal, if_pos (by norm_num), Nat.floor_natCast, htext] at hexact
  exact ⟨⟨hnone, (parse_size []).1 hnone⟩, htext, hexact⟩

/-- A kilobyte and a byte. -/
def kiloAndByte : Literal where
  lead := []
  number := ⟨"1", some "001", none, by decide, List.all_eq_true.mp rfl⟩
  gap := []
  unit := ['k']
  tail := []
  bytes := 1000 ^ 1
  lead_blank := List.all_eq_true.mp rfl
  gap_blank := List.all_eq_true.mp rfl
  tail_blank := List.all_eq_true.mp rfl
  plain := rfl
  named := mem_units_iff.mp (by decide +kernel)

/-- The double nearest to the number is below it, so that a whole byte is lost. -/
theorem parse_kiloAndByte :
    kiloAndByte.text = "1.001k" ∧ kiloAndByte.total = 1001 ∧ parse "1.001k" = .ok 1000 := by
  have hdigits : digitsToNat kiloAndByte.number.digits = 1001 := by decide
  have hpower : kiloAndByte.number.power = -3 := by decide
  refine ⟨by decide +kernel, ?_, by decide +kernel⟩
  rw [Literal.total, Decimals.value, hdigits, hpower]
  norm_num [kiloAndByte]

end Accord.Size
