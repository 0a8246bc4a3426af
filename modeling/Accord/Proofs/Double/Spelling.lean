/-
# The spelling of a double

A finite double is written with its shortest digits, in one of four layouts. Each of
them is a numeral: whole digits, then maybe a point with more digits, then maybe an
exponent. A numeral is read by its digits and its power of ten, whatever its layout,
so that a double that is written is read back as itself.

## Main definitions

* `Numeral`: the parts of a decimal spelling;
* `Numeral.text`, `Numeral.digits`, `Numeral.power`: the spelling and what it denotes.

## Main results

* `Numeral.readBits_signed`: how a numeral is read;
* `Layout.spells_write`: every layout is a numeral of the same value;
* `Double.read_write`: writing a finite double and reading it.
-/

import Accord.Double.Printer
import Accord.Proofs.Double.Decimals

namespace Accord

open Text

/-! ### Numerals -/

/-- The parts of a decimal spelling. -/
structure Numeral where
  whole : Text
  fraction : Option Text := none
  exponent : Option Int := none
  whole_ne_nil : whole ≠ []
  isDigits : IsDigits (whole ++ fraction.getD [])
  /-- A reader looks at so many digits of an exponent only. -/
  exponent_lt : ∀ x ∈ exponent, x.natAbs < 10000

namespace Numeral

/-- The spelling. -/
def text (n : Numeral) : Text :=
  n.whole ++ (n.fraction.elim [] (byte '.' :: ·) ++ n.exponent.elim [] Layout.exponent)

/-- The digits before and after the point. -/
def digits (n : Numeral) : Text := n.whole ++ n.fraction.getD []

/-- The power of ten at the last digit. -/
def power (n : Numeral) : Int := n.exponent.getD 0 - (n.fraction.getD []).length

/-- The number that a numeral denotes. -/
def value (n : Numeral) : ℚ := digitsToNat n.digits * 10 ^ n.power

/-- The exponent that a layout writes. -/
def exponentOf (x : Int) : Exponent where
  capital := false
  sign := some (decide (x < 0))
  digits := ofNatPadded 2 x.natAbs
  ne_nil := by simp [ofNatPadded, ofNat_ne_nil]
  isDigits := isDigits_ofNatPadded 2 x.natAbs

theorem text_exponentOf (x : Int) : (exponentOf x).text = Layout.exponent x := by
  unfold exponentOf Exponent.text Exponent.body Layout.exponent
  by_cases hneg : x < 0 <;> simp [hneg] <;> rfl

theorem value_exponentOf (x : Int) : (exponentOf x).value = x := by
  unfold exponentOf Exponent.value
  rw [digitsToNat_ofNatPadded]
  by_cases hneg : x < 0
  · rw [if_pos (by simp [hneg])]
    omega
  · rw [if_neg (by simp [hneg])]
    omega

variable (n : Numeral)

/-- A numeral is a decimal spelling. -/
def decimals : Decimals where
  whole := n.whole
  fraction := n.fraction
  exponent := n.exponent.map exponentOf
  ne_nil := by simp [n.whole_ne_nil]
  isDigits := n.isDigits

theorem text_decimals : n.decimals.text = n.text := by
  unfold Decimals.text decimals text
  cases n.exponent with
  | none => rfl
  | some x =>
    rw [Option.map_some, Option.elim_some, Option.elim_some, text_exponentOf]

theorem power_decimals : n.decimals.power = n.power := by
  unfold Decimals.power decimals power
  cases n.exponent with
  | none => rfl
  | some x =>
    rw [Option.map_some, Option.elim_some, Option.getD_some, value_exponentOf]

theorem short_decimals : n.decimals.Short := by
  intro x hx
  obtain ⟨y, hy, rfl⟩ := Option.map_eq_some_iff.mp hx
  have hlt := n.exponent_lt y hy
  rw [exponentOf, digitsToNat_ofNatPadded]
  omega

/-- The spelling with a sign. -/
def signed (negative : Bool) : Text := if negative then byte '-' :: n.text else n.text

theorem signed_decimals (negative : Bool) : n.decimals.signed negative = n.signed negative := by
  rw [Decimals.signed, signed, text_decimals]

/-- A numeral is read as the number nearest to it, if that is finite. -/
theorem readBits_signed (format : Format) (negative : Bool) :
    Double.readBits format (n.signed negative) =
      if Double.scale format 10 (digitsToNat n.digits) n.power = format.infinity then
        .error .outOfRange
      else .ok (negative, Double.scale format 10 (digitsToNat n.digits) n.power) := by
  rw [← signed_decimals, n.decimals.readBits_signed n.short_decimals, power_decimals]
  rfl

theorem read_signed_ne_syntaxError (negative : Bool) :
    Double.read (n.signed negative) ≠ .error .syntaxError := by
  unfold Double.read
  rw [n.readBits_signed]
  split <;>
    · intro hbad
      cases hbad

theorem isNumberByte_of_mem_signed {negative : Bool} {b : UInt8} (h : b ∈ n.signed negative) :
    Json.isNumberByte b = true := by
  rw [← signed_decimals] at h
  exact n.decimals.isNumberByte_of_mem_signed h

theorem exists_signed_eq_cons (negative : Bool) :
    ∃ b rest, n.signed negative = b :: rest ∧ (b = byte '-' || isDigitByte b) = true := by
  cases negative with
  | true => exact ⟨byte '-', n.text, rfl, by decide⟩
  | false =>
    obtain ⟨b, whole, hwhole⟩ := List.exists_cons_of_ne_nil n.whole_ne_nil
    have hdigit := n.isDigits
    rw [hwhole] at hdigit
    have hb : isDigitByte b = true := hdigit b (by simp)
    show ∃ c rest, n.text = c :: rest ∧ _
    rw [text, hwhole]
    exact ⟨b, _, rfl, by simp [hb]⟩

/-- The JSON reader takes a numeral as it stands. -/
theorem reads_signed (negative : Bool) :
    Json.Reads (n.signed negative) (.number (n.signed negative)) := by
  have hread := n.read_signed_ne_syntaxError negative
  have hbytes : ∀ b ∈ n.signed negative, Json.isNumberByte b = true := fun b hb =>
    n.isNumberByte_of_mem_signed hb
  obtain ⟨b, rest, hsigned, hb⟩ := n.exists_signed_eq_cons negative
  rw [hsigned] at hread hbytes ⊢
  exact Json.reads_number hb hbytes hread

end Numeral

/-! ### Layouts -/

namespace Layout

variable {digits : Text}

/-- Trailing zeros are all that is dropped. -/
theorem exists_eq_dropZeros_append (digits : Text) :
    ∃ k, digits = dropZeros digits ++ List.replicate k (byte '0') := by
  refine ⟨(digits.reverse.takeWhile (· = byte '0')).length, ?_⟩
  have hzeros : digits.reverse.takeWhile (· = byte '0') =
      List.replicate (digits.reverse.takeWhile (· = byte '0')).length (byte '0') := by
    refine List.eq_replicate_iff.mpr ⟨rfl, fun b hb => ?_⟩
    simpa using List.all_eq_true.mp List.all_takeWhile b hb
  have hsplit := List.takeWhile_append_dropWhile (p := (· = byte '0')) (l := digits.reverse)
  have hreverse := congrArg List.reverse hsplit
  rw [List.reverse_append, List.reverse_reverse, hzeros, List.reverse_replicate] at hreverse
  exact hreverse.symm

/-- A text is a numeral for digits whose first stands at a power of ten. -/
def Spells (digits : Text) (x : Int) (t : Text) : Prop :=
  ∃ n : Numeral, t = n.text ∧ n.value = digitsToNat digits * 10 ^ (x + 1 - digits.length)

variable {x : Int}

theorem spells_below_one (hdigits : IsDigits digits) (hx : x < 0) :
    Spells digits x ("0." ++ List.replicate (-x - 1).toNat (byte '0') ++ digits) := by
  have hfraction : IsDigits (List.replicate (-x - 1).toNat (byte '0') ++ digits) :=
    isDigits_append.mpr ⟨isDigits_zeros _, hdigits⟩
  refine ⟨⟨[byte '0'], some (List.replicate (-x - 1).toNat (byte '0') ++ digits), none,
    by simp, isDigits_append.mpr ⟨isDigits_zeros 1, hfraction⟩, by simp⟩, ?_, ?_⟩
  · simp [Numeral.text]
    rfl
  · have hzero : digitsToNat [byte '0'] = 0 := rfl
    have hpower : (0 : Int) - ((-x - 1).toNat + digits.length : Nat) = x + 1 - digits.length := by
      omega
    simp only [Numeral.value, Numeral.digits, Numeral.power, Option.getD_some, Option.getD_none,
      digitsToNat_append, digitsToNat_zeros, hzero, List.length_append, List.length_replicate,
      hpower, Nat.zero_mul, Nat.zero_add]

theorem spells_whole (hdigits : IsDigits digits) (hne : digits ≠ []) (hx : 0 ≤ x)
    (hlength : digits.length ≤ x.toNat + 1) :
    Spells digits x (digits ++ List.replicate (x.toNat + 1 - digits.length) (byte '0')) := by
  refine ⟨⟨digits ++ List.replicate (x.toNat + 1 - digits.length) (byte '0'), none, none,
    by simp [hne], ?_, by simp⟩, ?_, ?_⟩
  · simpa using isDigits_append.mpr ⟨hdigits, isDigits_zeros _⟩
  · simp [Numeral.text]
  · have hpower : x + 1 - digits.length = (x.toNat + 1 - digits.length : Nat) := by omega
    simp [Numeral.value, Numeral.digits, Numeral.power, digitsToNat_append, digitsToNat_zeros,
      hpower]

theorem spells_split (hdigits : IsDigits digits) (hne : digits ≠ []) (hx : 0 ≤ x)
    (hlength : x.toNat + 1 < digits.length) :
    Spells digits x (digits.take (x.toNat + 1) ++ "." ++ digits.drop (x.toNat + 1)) := by
  refine ⟨⟨digits.take (x.toNat + 1), some (digits.drop (x.toNat + 1)), none,
    by simp [hne], ?_, by simp⟩, ?_, ?_⟩
  · simpa using hdigits
  · simp [Numeral.text]
    rfl
  · have hpower : (0 : Int) - (digits.length - (x.toNat + 1) : Nat) = x + 1 - digits.length := by
      omega
    simp only [Numeral.value, Numeral.digits, Numeral.power, Option.getD_some,
      Option.getD_none, List.take_append_drop, List.length_drop, hpower]

theorem spells_exponent (hdigits : IsDigits digits) (hne : digits ≠ []) (hx : x.natAbs < 10000) :
    Spells digits x (digits.take 1 ++
      (if (digits.drop 1).isEmpty then [] else ("." : Text) ++ digits.drop 1) ++ exponent x) := by
  obtain ⟨b, rest, rfl⟩ := List.exists_cons_of_ne_nil hne
  cases rest with
  | nil =>
    refine ⟨⟨[b], none, some x, by simp, by simpa using hdigits, by simpa using hx⟩, ?_, ?_⟩
    · simp [Numeral.text]
    · simp [Numeral.value, Numeral.digits, Numeral.power]
  | cons c rest =>
    refine ⟨⟨[b], some (c :: rest), some x, by simp, by simpa using hdigits, by simpa using hx⟩,
      ?_, ?_⟩
    · simp [Numeral.text]
      rfl
    · have hlength : (b :: c :: rest).length = (c :: rest).length + 1 := rfl
      have hpower : x - ((c :: rest).length : Nat) = x + 1 - (b :: c :: rest).length := by
        omega
      simp only [Numeral.value, Numeral.digits, Numeral.power, Option.getD_some, hpower]
      rfl

/-- Whatever the layout, a number is written as a numeral of the same value. -/
theorem spells_write (layout : Layout) (hdigits : IsDigits digits) (hne : digits ≠ [])
    (hx : x.natAbs < 10000) : Spells digits x (layout.write digits x) := by
  unfold write
  dsimp only
  split
  · split
    · next hneg => exact spells_below_one hdigits hneg
    · next hneg =>
      split
      · next hshort => exact spells_whole hdigits hne (by omega) hshort
      · next hlong => exact spells_split hdigits hne (by omega) (by omega)
  · exact spells_exponent hdigits hne hx

/-- The digits without their trailing zeros, at the same leading power, spell the same number. -/
theorem value_dropZeros (digits : Text) (exponent : Int) :
    (digitsToNat (dropZeros digits) : ℚ) *
        10 ^ (exponent + (digits.length - 1) + 1 - (dropZeros digits).length) =
      digitsToNat digits * 10 ^ exponent := by
  obtain ⟨k, hk⟩ := exists_eq_dropZeros_append digits
  have hlength : digits.length = (dropZeros digits).length + k := by
    conv_lhs => rw [hk]
    simp
  have hvalue : digitsToNat digits = digitsToNat (dropZeros digits) * 10 ^ k := by
    conv_lhs => rw [hk]
    simp [digitsToNat_append, digitsToNat_zeros]
  have hpower : exponent + ((digits.length : Int) - 1) + 1 - (dropZeros digits).length =
      k + exponent := by
    omega
  rw [hvalue, hpower, zpow_add₀ (by norm_num)]
  push_cast
  rw [zpow_natCast, mul_assoc]

/-- The shortest digits of a double, laid out, are a numeral that is read as it. -/
theorem exists_numeral_shortest (layout : Layout) {bits : Nat} (hbits : 0 < bits)
    (hfinite : bits < Format.binary64.infinity) :
    ∃ n : Numeral,
      layout.write (dropZeros (ofNat (Format.binary64.shortest bits).digits))
        ((Format.binary64.shortest bits).exponent +
          ((ofNat (Format.binary64.shortest bits).digits).length - 1)) = n.text ∧
      Double.scale Format.binary64 10 (digitsToNat n.digits) n.power = bits := by
  have haround := Format.around_shortest hbits hfinite
  generalize Format.binary64.shortest bits = d at haround ⊢
  obtain ⟨hlow, hhigh⟩ := Double.bounds_of_around hbits hfinite haround
  have hpos := Double.pos_of_bounds hlow
  have hvalue := value_dropZeros (ofNat d.digits) d.exponent
  rw [digitsToNat_ofNat] at hvalue
  obtain ⟨k, hk⟩ := exists_eq_dropZeros_append (ofNat d.digits)
  have hdigits : IsDigits (dropZeros (ofNat d.digits)) :=
    (isDigits_append.mp (hk ▸ isDigits_ofNat d.digits)).1
  -- A positive number has a digit that is not zero.
  have hne : dropZeros (ofNat d.digits) ≠ [] := by
    intro hnil
    rw [hnil, List.nil_append] at hk
    have hzero := digitsToNat_ofNat d.digits
    rw [hk, digitsToNat_zeros] at hzero
    omega
  have hsize := Double.size_le_of_bounds hpos hlow hhigh
  have hlength : (ofNat d.digits).length = (Nat.toDigits 10 d.digits).length := List.length_map _
  obtain ⟨n, htext, hn⟩ := spells_write layout hdigits hne
    (x := d.exponent + ((ofNat d.digits).length - 1)) (by omega)
  refine ⟨n, htext, Double.scale_of_around hbits hfinite ?_⟩
  rw [hvalue] at hn
  rw [← Numeral.value, hn]
  exact haround

/-- A finite double is written as a numeral that is read as it. -/
theorem exists_numeral_number (layout : Layout) (negative : Bool) {magnitude : Nat}
    (hfinite : magnitude < Format.binary64.infinity) :
    ∃ n : Numeral, layout.number Format.binary64 negative magnitude = n.signed negative ∧
      Double.scale Format.binary64 10 (digitsToNat n.digits) n.power = magnitude := by
  rcases Nat.eq_zero_or_pos magnitude with rfl | hpos
  · -- Zero has no leading digit and is not laid out.
    refine ⟨⟨[byte '0'], none, none, by simp, isDigits_zeros 1, by simp⟩, ?_, rfl⟩
    cases negative <;> rfl
  · obtain ⟨n, htext, hscale⟩ := exists_numeral_shortest layout hpos hfinite
    refine ⟨n, ?_, hscale⟩
    unfold number Numeral.signed
    dsimp only
    rw [if_neg hpos.ne', htext]
    rfl

end Layout

namespace Double

/-- The sign and the bits without it make up a double. -/
theorem ofMagnitude_magnitude (d : Double) : ofMagnitude d.negative d.magnitude = d := by
  have hlt : d.bits.toNat < 2 * signBit := d.bits.toNat_lt
  have hsplit : d.magnitude + (if d.negative then signBit else 0) = d.bits.toNat := by
    have hmod := Nat.div_add_mod d.bits.toNat signBit
    unfold magnitude negative
    by_cases hsign : signBit ≤ d.bits.toNat
    · rw [decide_eq_true hsign, if_pos rfl, Nat.mod_eq_sub_mod hsign,
        Nat.mod_eq_of_lt (by omega)]
      omega
    · rw [decide_eq_false hsign, if_neg (by decide), Nat.mod_eq_of_lt (by omega), Nat.add_zero]
  rw [ofMagnitude, hsplit]
  simp

/-- A finite double that is written is read back as itself. -/
theorem read_write (layout : Layout) {d : Double} (h : d.isFinite = true) :
    read (d.write layout) = .ok d := by
  have hfinite : d.magnitude < Format.binary64.infinity := by simpa [isFinite] using h
  obtain ⟨n, htext, hscale⟩ := layout.exists_numeral_number d.negative hfinite
  rw [read, write, htext, n.readBits_signed, hscale, if_neg hfinite.ne, Outcome.ok_bind]
  dsimp only
  rw [if_neg (Nat.lt_asymm hfinite), ofMagnitude_magnitude]
  rfl

/-- The JSON reader takes a finite double as a number. -/
theorem reads_json {d : Double} (h : d.isFinite = true) : Json.Reads d.json (.number d.json) := by
  have hfinite : d.magnitude < Format.binary64.infinity := by simpa [isFinite] using h
  obtain ⟨n, htext, -⟩ := Layout.json.exists_numeral_number d.negative hfinite
  rw [json, write, htext]
  exact n.reads_signed d.negative

end Double

end Accord
