/-
# Decimal spellings

A decimal spelling has digits, maybe with a point before, among or after them, and maybe an
exponent. It is read by its digits and its power of ten, and rounded to the nearest double. Only of
an exponent with six digits or more the reader does not see all.

## Main definitions

* `Decimals`: the parts of a decimal spelling;
* `Decimals.value`, `Decimals.number`: the number that is spelled, without and with a sign;
* `Double.ReadsNearest`: a text is read as the double nearest to a number.

## Main results

* `Double.isNearest_scale`: digits and a power of ten are rounded to the nearest double;
* `Decimals.readBits_signed`: how a spelling is read;
* `Decimals.readsNearest`: every spelling with a short exponent is read as the nearest double.
-/

import Accord.Proofs.Double.Nearest
import Accord.Proofs.Double.Shortest
import Accord.Proofs.Json.Values
import Accord.Proofs.Text.Decimal

namespace Accord.Text

variable {b : UInt8} {s t : Text}

/-! ### Runs of digits -/

/-- Every byte is a decimal digit. -/
def IsDigits (t : Text) : Prop := ∀ b ∈ t, isDigitByte b = true

theorem isDigits_ofNat (n : Nat) : IsDigits (ofNat n) := fun _ h => isDigitByte_of_mem_ofNat h

theorem isDigits_append : IsDigits (s ++ t) ↔ IsDigits s ∧ IsDigits t := List.forall_mem_append

theorem isDigits_zeros (n : Nat) : IsDigits (List.replicate n (byte '0')) := by
  intro b hb
  rw [List.eq_of_mem_replicate hb]
  decide

theorem isDigits_ofNatPadded (width n : Nat) : IsDigits (ofNatPadded width n) :=
  isDigits_append.mpr ⟨isDigits_zeros _, isDigits_ofNat n⟩

theorem foldl_takeDigit (n : Nat) (t : Text) :
    t.foldl Integer.takeDigit n = n * 10 ^ t.length + digitsToNat t := by
  induction t generalizing n with
  | nil => simp [digitsToNat]
  | cons b t ih =>
    have hvalue : digitsToNat (b :: t) = t.foldl Integer.takeDigit (Integer.takeDigit 0 b) := rfl
    rw [hvalue, List.foldl_cons, ih, ih, Integer.takeDigit, Integer.takeDigit, List.length_cons,
      pow_succ]
    ring

theorem digitsToNat_append (s t : Text) :
    digitsToNat (s ++ t) = digitsToNat s * 10 ^ t.length + digitsToNat t := by
  rw [← foldl_takeDigit]
  exact List.foldl_append

theorem digitsToNat_zeros (n : Nat) : digitsToNat (List.replicate n (byte '0')) = 0 := by
  induction n with
  | zero => rfl
  | succ n ih =>
    rw [List.replicate_succ', digitsToNat_append, ih]
    rfl

theorem digitsToNat_ofNatPadded (width n : Nat) : digitsToNat (ofNatPadded width n) = n := by
  rw [ofNatPadded, digitsToNat_append, digitsToNat_zeros, digitsToNat_ofNat]
  omega

end Accord.Text

namespace Accord.Double

open Text

variable {b : UInt8} {s t rest : Text}

/-! ### Reading the parts of a spelling -/

/-- Digits of a significand are taken one by one. -/
theorem significand_digits (sofar : Significand) (h : IsDigits t) (rest : Text) :
    significand 10 sofar (t ++ rest) =
      significand 10
        { value := t.foldl Integer.takeDigit sofar.value
          places := if sofar.point then sofar.places + t.length else sofar.places
          point := sofar.point
          any := sofar.any || !t.isEmpty } rest := by
  induction t generalizing sofar with
  | nil => simp
  | cons b t ih =>
    obtain ⟨hb, ht⟩ := List.forall_mem_cons.mp h
    have hplain : b ≠ byte '_' ∧ b ≠ byte '.' := by
      constructor <;> rintro rfl <;> exact absurd hb (by decide)
    have hvalue : hexValue? b = some (b.toNat - 48) := if_pos hb
    have hten : b.toNat - 48 < 10 := by
      simp only [isDigitByte, Bool.and_eq_true, decide_eq_true_eq, UInt8.le_iff_toNat_le] at hb
      have : (byte '9').toNat = 57 := by decide
      omega
    rw [List.cons_append, significand, if_neg hplain.1, if_neg hplain.2, hvalue]
    dsimp only
    rw [if_pos hten, ih _ ht, List.foldl_cons, Integer.takeDigit, Nat.mul_comm 10]
    cases sofar.point <;> simp [Nat.add_assoc, Nat.add_comm 1]

theorem significand_point {sofar : Significand} (h : sofar.point = false) (rest : Text) :
    significand 10 sofar (byte '.' :: rest) = significand 10 { sofar with point := true } rest := by
  rw [significand, if_neg (by decide), if_pos rfl, h]
  rfl

/-- A significand ends with the text or before an exponent. -/
theorem significand_end (sofar : Significand)
    (h : rest = [] ∨ (∃ u, rest = byte 'e' :: u) ∨ ∃ u, rest = byte 'E' :: u) :
    significand 10 sofar rest = (sofar, rest) := by
  rcases h with rfl | ⟨u, rfl⟩ | ⟨u, rfl⟩ <;> rfl

/-- Without underscores nothing has to be checked. -/
theorem underscoresOk_of_forall_ne {isDigit : UInt8 → Bool} (h : ∀ b ∈ t, b ≠ byte '_') :
    underscoresOk isDigit .digit t = true ∧ underscoresOk isDigit .other t = true := by
  induction t with
  | nil => exact ⟨rfl, rfl⟩
  | cons b t ih =>
    obtain ⟨hb, ht⟩ := List.forall_mem_cons.mp h
    obtain ⟨hdigit, hother⟩ := ih ht
    simp [underscoresOk, hb, hdigit, hother]

/-- An exponent of up to five digits is read as it is spelled. -/
theorem exponentDigits_eq {n : Nat} (h : IsDigits t)
    (hfits : t.foldl Integer.takeDigit n < 100000) :
    exponentDigits n t = (t.foldl Integer.takeDigit n, []) := by
  induction t generalizing n with
  | nil => rfl
  | cons b t ih =>
    obtain ⟨hb, ht⟩ := List.forall_mem_cons.mp h
    have hplain : b ≠ byte '_' := by
      rintro rfl
      exact absurd hb (by decide)
    have hsmall : n < 10000 := by
      have hnext := Integer.le_foldl_takeDigit (Integer.takeDigit n b) t
      rw [List.foldl_cons] at hfits
      unfold Integer.takeDigit at hnext hfits
      omega
    rw [exponentDigits, if_neg hplain, if_pos hb, if_pos hsmall]
    exact ih ht hfits

/-- Digits and a power of ten are rounded to the nearest double, also where the reader does not
look at them closely. -/
theorem isNearest_scale (value : Nat) (exponent : Int) :
    Format.binary64.IsNearest (value * 10 ^ exponent)
      (scale Format.binary64 10 value exponent) := by
  rcases Nat.eq_zero_or_pos value with rfl | hpos
  · have hzero : Format.binary64.IsNearest (Format.binary64.value 0) 0 :=
      Format.isNearest_value (Nat.zero_le _)
    simpa [scale] using hzero
  unfold scale
  dsimp only
  rw [if_neg hpos.ne']
  split
  · next hlarge =>
    apply Format.isNearest_infinity_of_le
    calc Format.binary64.value Format.binary64.infinity = 2 ^ (1024 : Int) := value_infinity
      _ ≤ 2 ^ (1200 : Int) := zpow_le_zpow_right₀ (by norm_num) (by norm_num)
      _ ≤ value * 10 ^ exponent := le_of_lt_size hpos hlarge
  split
  · next hsmall =>
    apply Format.isNearest_zero_of_lt (by positivity)
    calc 2 * ((value : ℚ) * 10 ^ exponent) < 2 * 2 ^ (-1200 : Int) := by
          gcongr
          exact lt_of_size_lt hpos hsmall
      _ = 2 ^ (-1199 : Int) := by rw [← zpow_one_add₀ (by norm_num)]; rfl
      _ ≤ 2 ^ (-1074 : Int) := zpow_le_zpow_right₀ (by norm_num) (by norm_num)
      _ = Format.binary64.value 1 := value_one.symm
  · rw [← ratio_eq]
    exact Format.isNearest_round (by decide) _ (Format.powerUp_pos (by decide) _)

/-- A text is read as the double nearest to a number, and refused if that is infinite. -/
def ReadsNearest (t : Text) (x : ℚ) : Prop :=
  ∀ y, RoundsTo x y →
    if |y| < 2 ^ 1024 then ∃ d, read t = .ok d ∧ d.isFinite = true ∧ d.value = y
    else read t = .error .outOfRange

/-- Reads a decimal spelling without its sign. -/
def decimal? (format : Format) (negative : Bool) (body : Text) : Option (Bool × Nat) :=
  let (s, rest) := significand 10 {} body
  if !s.any then none
  else if !underscoresOk isDigitByte .other body then none
  else match rest with
    | [] => some (negative, scale format 10 s.value (-(s.places : Int)))
    | mark :: rest =>
      if lowerByte mark = byte 'e' then
        match exponent? rest with
        | some (e, []) => some (negative, scale format 10 s.value (e - s.places))
        | _ => none
      else none

/-- A byte that a decimal spelling can begin with. -/
def isPlaceByte (b : UInt8) : Bool := isDigitByte b || b = byte '.'

/-- A spelling that begins with a digit or a point and has no base mark is a decimal one. -/
theorem spelled?_eq_decimal? (format : Format) (hb : isPlaceByte b = true)
    (hmark : ∀ x ∈ rest, lowerByte x ≠ byte 'x') :
    spelled? format (b :: rest) = decimal? format false (b :: rest) ∧
      spelled? format (byte '-' :: b :: rest) = decimal? format true (b :: rest) := by
  have hminus : b ≠ byte '-' := by
    rintro rfl
    exact absurd hb (by decide)
  have hplus : b ≠ byte '+' := by
    rintro rfl
    exact absurd hb (by decide)
  unfold spelled?
  simp only [hminus, hplus, if_false, if_true]
  cases rest with
  | nil => exact ⟨rfl, rfl⟩
  | cons x rest =>
    simp only [hmark x List.mem_cons_self, decide_false, Bool.and_false, Bool.false_and,
      Bool.false_eq_true, if_false]
    exact ⟨rfl, rfl⟩

end Accord.Double

namespace Accord

open Text

/-! ### Exponents -/

/-- The exponent of a spelling: its mark, maybe a sign, which may be a minus, and digits. -/
structure Exponent where
  capital : Bool
  sign : Option Bool
  digits : Text
  ne_nil : digits ≠ []
  isDigits : IsDigits digits

namespace Exponent

variable (x : Exponent)

/-- What follows the mark. -/
def body : Text :=
  (match x.sign with
    | none => []
    | some true => [byte '-']
    | some false => [byte '+']) ++ x.digits

/-- The spelling. -/
def text : Text := (if x.capital then byte 'E' else byte 'e') :: x.body

/-- The exponent that is spelled. -/
def value : Int :=
  if x.sign = some true then -(digitsToNat x.digits : Int) else digitsToNat x.digits

/-- An exponent is read with its sign. -/
theorem exponent?_body (h : digitsToNat x.digits < 100000) :
    Double.exponent? x.body = some (x.value, []) := by
  obtain ⟨capital, sign, digits, hne, hdigits⟩ := x
  obtain ⟨b, rest, rfl⟩ := List.exists_cons_of_ne_nil hne
  have hb := hdigits b List.mem_cons_self
  obtain ⟨hminus, hplus⟩ := ne_sign_of_isDigitByte hb
  have hread : Double.exponentDigits 0 (b :: rest) = (digitsToNat (b :: rest), []) :=
    Double.exponentDigits_eq hdigits h
  have hsign : byte '+' ≠ byte '-' := by decide
  rcases sign with - | (- | -)
  · simp [body, value, Double.exponent?, hminus, hplus, hb, hread]
  · simp [body, value, Double.exponent?, hsign, hb, hread]
  · simp [body, value, Double.exponent?, hb, hread]

theorem isNumberByte_of_mem_text {b : UInt8} (h : b ∈ x.text) : Json.isNumberByte b = true := by
  rcases List.mem_cons.mp h with rfl | h
  · cases x.capital <;> decide
  rcases List.mem_append.mp h with h | h
  · split at h
    · cases h
    · rw [List.mem_singleton.mp h]
      decide
    · rw [List.mem_singleton.mp h]
      decide
  · simp [Json.isNumberByte, x.isDigits b h]

end Exponent

/-! ### Spellings -/

/-- The parts of a decimal spelling, which has a digit before or after the point. The numbers of
JSON are spelled so, with further rules for the digits. -/
structure Decimals where
  whole : Text
  fraction : Option Text := none
  exponent : Option Exponent := none
  ne_nil : whole ++ fraction.getD [] ≠ []
  isDigits : IsDigits (whole ++ fraction.getD [])

namespace Decimals

/-- The spelling. -/
def text (n : Decimals) : Text :=
  n.whole ++ (n.fraction.elim [] (byte '.' :: ·) ++ n.exponent.elim [] Exponent.text)

/-- The digits before and after the point. -/
def digits (n : Decimals) : Text := n.whole ++ n.fraction.getD []

/-- The power of ten at the last digit. -/
def power (n : Decimals) : Int := n.exponent.elim 0 Exponent.value - (n.fraction.getD []).length

/-- The number that is spelled. -/
def value (n : Decimals) : ℚ := digitsToNat n.digits * 10 ^ n.power

/-- All digits of the exponent are looked at. -/
def Short (n : Decimals) : Prop := ∀ x ∈ n.exponent, digitsToNat x.digits < 100000

/-- The spelling with a sign. -/
def signed (n : Decimals) (negative : Bool) : Text :=
  if negative then byte '-' :: n.text else n.text

/-- The number that is spelled with a sign. -/
def number (n : Decimals) (negative : Bool) : ℚ := if negative then -n.value else n.value

variable (n : Decimals)

theorem value_nonneg : 0 ≤ n.value := by
  unfold value
  positivity

theorem exists_text_eq_cons :
    ∃ b rest, n.text = b :: rest ∧ Double.isPlaceByte b = true := by
  have hne := n.ne_nil
  have hdigits := n.isDigits
  rw [text]
  cases hwhole : n.whole with
  | cons b rest =>
    rw [hwhole] at hdigits
    exact ⟨b, _, rfl, by simp [Double.isPlaceByte, hdigits b (by simp)]⟩
  | nil =>
    cases hfraction : n.fraction with
    | some t => exact ⟨byte '.', _, rfl, by decide⟩
    | none =>
      rw [hwhole, hfraction] at hne
      exact absurd rfl hne

/-- The bytes of a spelling are digits, a point, the mark of an exponent and its sign. -/
theorem isNumberByte_of_mem_text {b : UInt8} (h : b ∈ n.text) : Json.isNumberByte b = true := by
  have hdigit : ∀ b, isDigitByte b = true → Json.isNumberByte b = true := by
    intro b hb
    simp [Json.isNumberByte, hb]
  obtain ⟨hwhole, hfraction⟩ := isDigits_append.mp n.isDigits
  rw [text] at h
  rcases List.mem_append.mp h with h | h
  · exact hdigit b (hwhole b h)
  rcases List.mem_append.mp h with h | h
  · rcases hcase : n.fraction with - | t
    · rw [hcase] at h
      cases h
    · rw [hcase] at h hfraction
      rcases List.mem_cons.mp h with rfl | h
      · decide
      · exact hdigit b (hfraction b h)
  · rcases hcase : n.exponent with - | x
    · rw [hcase] at h
      cases h
    · rw [hcase] at h
      exact x.isNumberByte_of_mem_text h

theorem isNumberByte_of_mem_signed {negative : Bool} {b : UInt8} (h : b ∈ n.signed negative) :
    Json.isNumberByte b = true := by
  cases negative with
  | false => exact n.isNumberByte_of_mem_text h
  | true =>
    rcases List.mem_cons.mp h with rfl | h
    · decide
    · exact n.isNumberByte_of_mem_text h

/-- A significand is read up to the exponent. -/
theorem significand_text :
    Double.significand 10 {} n.text =
      ({ value := digitsToNat n.digits, places := (n.fraction.getD []).length,
         point := n.fraction.isSome, any := true }, n.exponent.elim [] Exponent.text) := by
  have hend : n.exponent.elim [] Exponent.text = [] ∨
      (∃ u, n.exponent.elim [] Exponent.text = byte 'e' :: u) ∨
        ∃ u, n.exponent.elim [] Exponent.text = byte 'E' :: u := by
    rcases hcase : n.exponent with - | x
    · exact .inl rfl
    · rw [Option.elim_some, Exponent.text]
      cases x.capital
      · exact .inr (.inl ⟨_, rfl⟩)
      · exact .inr (.inr ⟨_, rfl⟩)
  obtain ⟨hwhole, hfraction⟩ := isDigits_append.mp n.isDigits
  have hne := n.ne_nil
  rw [text, Double.significand_digits _ hwhole, digits]
  -- The whole digits are taken in both cases; places are counted behind a point only.
  rcases hcase : n.fraction with - | t
  · rw [hcase, Option.getD_none, List.append_nil] at hne
    rw [Option.elim_none, List.nil_append, Double.significand_end _ hend]
    simp [hne, digitsToNat]
    rfl
  · rw [hcase, Option.getD_some] at hfraction hne
    have hany : (!n.whole.isEmpty || !t.isEmpty) = true := by
      cases hwhole : n.whole with
      | cons => rfl
      | nil =>
        rw [hwhole] at hne
        simpa using hne
    rw [Option.elim_some, List.cons_append, Double.significand_point rfl,
      Double.significand_digits _ hfraction, Double.significand_end _ hend]
    simp [hany, digitsToNat]
    rfl

/-- A spelling is read by its digits and its power of ten, with or without a sign. -/
theorem decimal?_text (h : n.Short) (format : Format) (negative : Bool) :
    Double.decimal? format negative n.text =
      some (negative, Double.scale format 10 (digitsToNat n.digits) n.power) := by
  have hunderscores : ∀ b ∈ n.text, b ≠ byte '_' := by
    rintro b hb rfl
    exact absurd (n.isNumberByte_of_mem_text hb) (by decide)
  unfold Double.decimal?
  rw [n.significand_text]
  dsimp only
  rw [if_neg (by decide), (Double.underscoresOk_of_forall_ne hunderscores).2, if_neg (by decide),
    power]
  rcases hcase : n.exponent with - | x
  · simp
  · have hread := x.exponent?_body (h x hcase)
    have hmark : lowerByte (if x.capital then byte 'E' else byte 'e') = byte 'e' := by
      cases x.capital <;> decide
    simp [Exponent.text, hmark, hread]

theorem spelled?_text (h : n.Short) (format : Format) :
    Double.spelled? format n.text =
        some (false, Double.scale format 10 (digitsToNat n.digits) n.power) ∧
      Double.spelled? format (byte '-' :: n.text) =
        some (true, Double.scale format 10 (digitsToNat n.digits) n.power) := by
  obtain ⟨b, rest, htext, hb⟩ := n.exists_text_eq_cons
  -- A zero in front would be part of a hexadecimal mark if an x followed.
  have hmark : ∀ x ∈ rest, lowerByte x ≠ byte 'x' := by
    intro x hx
    have hx := n.isNumberByte_of_mem_text (htext ▸ List.mem_cons_of_mem b hx)
    have table : ∀ b, Json.isNumberByte b = true → lowerByte b ≠ byte 'x' :=
      forall_byte (by decide +kernel)
    exact table x hx
  obtain ⟨hplain, hsigned⟩ := Double.spelled?_eq_decimal? format hb hmark
  rw [htext, hplain, hsigned, ← htext, n.decimal?_text h, n.decimal?_text h]
  exact ⟨rfl, rfl⟩

/-- A spelling is no word for a number that is not finite. -/
theorem word?_text : Double.word? n.text = none ∧ Double.word? (byte '-' :: n.text) = none := by
  obtain ⟨b, rest, htext, hb⟩ := n.exists_text_eq_cons
  have hminus : b ≠ byte '-' := by
    rintro rfl
    exact absurd hb (by decide)
  have hplus : b ≠ byte '+' := by
    rintro rfl
    exact absurd hb (by decide)
  -- Each of the words begins with a letter, and the spelling with a digit or a point.
  have table : ∀ b, Double.isPlaceByte b = true → lowerByte b ≠ byte 'i' ∧ lowerByte b ≠ byte 'n' :=
    forall_byte (by decide +kernel)
  have hletter : ∀ c : UInt8, ∀ word, lowerByte b ≠ c → lowerAscii (b :: rest) ≠ c :: word :=
    fun c word hc heq => hc (List.cons.inj heq).1
  have hinf : lowerAscii (b :: rest) ≠ "inf" := hletter _ _ (table b hb).1
  have hinfinity : lowerAscii (b :: rest) ≠ "infinity" := hletter _ _ (table b hb).1
  have hnan : lowerAscii (b :: rest) ≠ "nan" := hletter _ _ (table b hb).2
  rw [htext]
  simp [Double.word?, hminus, hplus, hinf, hinfinity, hnan]

/-- A spelling is read as the number nearest to it, if that is finite. -/
theorem readBits_signed (h : n.Short) (format : Format) (negative : Bool) :
    Double.readBits format (n.signed negative) =
      if Double.scale format 10 (digitsToNat n.digits) n.power = format.infinity then
        .error .outOfRange
      else .ok (negative, Double.scale format 10 (digitsToNat n.digits) n.power) := by
  obtain ⟨hplain, hsigned⟩ := n.spelled?_text h format
  obtain ⟨hword, hsignedWord⟩ := n.word?_text
  unfold Double.readBits signed
  cases negative <;> simp [hplain, hsigned, hword, hsignedWord]

theorem abs_number (negative : Bool) : |n.number negative| = n.value := by
  cases negative with
  | false => exact abs_of_nonneg n.value_nonneg
  | true => exact (abs_neg _).trans (abs_of_nonneg n.value_nonneg)

/-- Every spelling with a short exponent is read as the nearest double. -/
theorem readsNearest (h : n.Short) (negative : Bool) :
    Double.ReadsNearest (n.signed negative) (n.number negative) := by
  rintro y ⟨bits, hbits, rfl⟩
  rw [abs_number] at hbits
  obtain rfl := hbits.unique (Double.isNearest_scale _ _)
  have hread := n.readBits_signed h Format.binary64 negative
  generalize Double.scale Format.binary64 10 (digitsToNat n.digits) n.power = bits at *
  have hsize : |if n.number negative < 0 then -Format.binary64.value bits
      else Format.binary64.value bits| = Format.binary64.value bits := by
    split
    · rw [abs_neg, abs_of_nonneg (Format.value_nonneg _ _)]
    · rw [abs_of_nonneg (Format.value_nonneg _ _)]
  rw [hsize, ← Double.value_infinity, Double.read, hread]
  rcases Nat.lt_or_eq_of_le hbits.le_infinity with hfinite | rfl
  · obtain ⟨hisFinite, hvalue⟩ := Double.value_ofMagnitude hfinite negative
    rw [if_pos (Format.binary64.value_strictMono hfinite), if_neg hfinite.ne]
    refine ⟨Double.ofMagnitude negative bits, ?_, hisFinite, ?_⟩
    · rw [Outcome.ok_bind]
      dsimp only
      rw [if_neg (Nat.lt_asymm hfinite)]
      rfl
    · rw [hvalue]
      cases negative with
      | false => exact (if_neg (not_lt.mpr n.value_nonneg)).symm
      | true =>
        -- A minus before what is zero changes nothing.
        rcases n.value_nonneg.lt_or_eq with hpos | hzero
        · exact (if_pos (neg_neg_iff_pos.mpr hpos)).symm
        · rw [← hzero, ← Format.binary64.value_zero] at hbits
          obtain rfl := hbits.unique (Format.isNearest_value (Nat.zero_le _))
          simp
  · rw [if_neg (lt_irrefl _), if_pos rfl]
    rfl

end Decimals

end Accord
