/-
# Timestamps as text

A timestamp is written by its date and its time of day in its own zone. Both are found again from
the seconds that it counts, so a timestamp that was read is written with the numbers that it was
read from, and these are read once more. Only the offset of the zone may not be: an offset of 24
hours and 60 minutes is read, but written as 25 hours, and so many hours are not read.

## Main definitions

* `Timestamp.Moment`: the numbers that a timestamp shows;
* `Timestamp.Moment.timestamp`, `Timestamp.Moment.text`: the timestamp and the text of a moment.

## Main results

* `Timestamp.Moment.text_timestamp`: a timestamp is written by the numbers that it shows;
* `Timestamp.Moment.ofText_text`: these are read again, but for an offset of 25 hours;
* `Timestamp.exists_moment`: what is read shows proper numbers, and which offset it has.
-/

import Accord.Proofs.Json.Numbers
import Accord.Proofs.Primitive.Calendar

namespace Accord.Text

variable {t : Text} {width n : Nat}

/-! ### Numbers of a fixed width -/

theorem length_ofNatPadded (hwidth : 0 < width) (h : n < 10 ^ width) :
    (ofNatPadded width n).length = width := by
  have hle : (Nat.toDigits 10 n).length ≤ width :=
    (Nat.length_toDigits_le_iff (by decide) hwidth).mpr h
  simp only [ofNatPadded, ofNat, List.length_append, List.length_replicate, List.length_map]
  omega

theorem toNat?_eq_some_iff : toNat? t = some n ↔ t ≠ [] ∧ IsDigits t ∧ digitsToNat t = n := by
  simp [toNat?, IsDigits, and_assoc]

theorem toNat?_ofNatPadded (width n : Nat) : toNat? (ofNatPadded width n) = some n := by
  refine toNat?_eq_some_iff.mpr ⟨?_, isDigits_ofNatPadded width n, digitsToNat_ofNatPadded width n⟩
  simp [ofNatPadded, ofNat_ne_nil]

/-- The two digits of a number below a hundred. -/
theorem exists_ofNatPadded_two (h : n < 100) :
    ∃ a b, ofNatPadded 2 n = [a, b] ∧ isDigitByte a = true ∧ isDigitByte b = true ∧
      (a.toNat - 48) * 10 + (b.toNat - 48) = n := by
  have hlength : (ofNatPadded 2 n).length = 2 := length_ofNatPadded (by decide) h
  obtain ⟨a, b, hdigits⟩ := List.length_eq_two.mp hlength
  have hall := isDigits_ofNatPadded 2 n
  have hvalue := digitsToNat_ofNatPadded 2 n
  rw [hdigits] at hall hvalue
  refine ⟨a, b, hdigits, hall a (by simp), hall b (by simp), ?_⟩
  simp only [digitsToNat, List.foldl_cons, List.foldl_nil] at hvalue
  omega

end Accord.Text

namespace Accord.Timestamp

open Text

variable {s t rest : Text} {n : Nat}

/-! ### Reading what was written -/

/-- A fixed text is read off. -/
theorem literal_append (element t : Text) : literal element (element ++ t) = .ok t := by
  have hgo : ∀ whole element : Text, literal.go whole element (element ++ t) = .ok t := by
    intro whole element
    induction element with
    | nil => rfl
    | cons b element ih => rw [List.cons_append, literal.go, if_pos rfl, ih]
  exact hgo element element

theorem readYear_append (h : n < 10000) (rest : Text) :
    readYear (ofNatPadded 4 n ++ rest) = .ok (n, rest) := by
  have hlength : (ofNatPadded 4 n).length = 4 := length_ofNatPadded (by decide) h
  have htake : (ofNatPadded 4 n ++ rest).take 4 = ofNatPadded 4 n := List.take_left' hlength
  have hdrop : (ofNatPadded 4 n ++ rest).drop 4 = rest := List.drop_left' hlength
  rw [readYear, htake, hdrop, toNat?_ofNatPadded]
  exact if_neg (by simp [hlength])

theorem number_append (element : Text) (oneDigit : Bool) (h : n < 100) (rest : Text) :
    number element oneDigit (ofNatPadded 2 n ++ rest) = .ok (n, rest) := by
  obtain ⟨a, b, hdigits, ha, hb, hvalue⟩ := exists_ofNatPadded_two h
  rw [hdigits]
  simp only [List.cons_append, List.nil_append, number, ha, hb, hvalue, Bool.not_true,
    Bool.false_eq_true, if_false, if_true]

theorem within_eq_ok_iff (field : Text) {least most : Nat} :
    within field least most n = .ok () ↔ least ≤ n ∧ n ≤ most := by
  unfold within
  split
  · next h => simpa using h
  · next h => simpa using h

/-- What may follow a fraction: neither a digit nor a point. -/
def EndsFraction (rest : Text) : Prop :=
  ∀ b ∈ rest.head?, isDigitByte b = false ∧ b ≠ byte '.' ∧ b ≠ byte ','

theorem takeWhile_append_of_ends (ht : IsDigits t) (hrest : EndsFraction rest) :
    (t ++ rest).takeWhile isDigitByte = t ∧ (t ++ rest).dropWhile isDigitByte = rest := by
  have hfirst : rest.takeWhile isDigitByte = [] ∧ rest.dropWhile isDigitByte = rest := by
    cases rest with
    | nil => exact ⟨rfl, rfl⟩
    | cons b rest =>
      obtain ⟨hb, -, -⟩ := hrest b rfl
      simp [hb]
  rw [List.takeWhile_append_of_pos ht, List.dropWhile_append_of_pos ht, hfirst.1, hfirst.2,
    List.append_nil]
  exact ⟨rfl, rfl⟩

/-- A fraction is read as the nanoseconds that it was written for. -/
theorem readFraction_append (h : n < 10 ^ 9) (hrest : EndsFraction rest) :
    readFraction (fraction n ++ rest) = (n, rest) := by
  -- The digits that are written, and the zeros that are left out.
  obtain ⟨k, hzeros⟩ := Layout.exists_eq_dropZeros_append (ofNatPadded 9 n)
  generalize hdigits : Layout.dropZeros (ofNatPadded 9 n) = digits at hzeros
  have hfraction : fraction n = if digits.isEmpty then [] else byte '.' :: digits := by
    rw [← hdigits]
    rfl
  have hvalue := digitsToNat_ofNatPadded 9 n
  rw [hfraction]
  cases digits with
  | nil =>
    -- Nothing is written, so nothing of what follows may be taken for a fraction.
    have hzero : n = 0 := by
      rw [hzeros, List.nil_append, digitsToNat_zeros] at hvalue
      exact hvalue.symm
    rw [hzero]
    show readFraction rest = (0, rest)
    unfold readFraction
    cases rest with
    | nil => rfl
    | cons b rest =>
      obtain ⟨-, hpoint, hcomma⟩ := hrest b rfl
      simp [hpoint, hcomma]
  | cons d ds =>
    have hall := isDigits_ofNatPadded 9 n
    rw [hzeros, isDigits_append] at hall
    have hlength : (d :: ds).length + k = 9 := by
      have hwidth : (ofNatPadded 9 n).length = 9 := length_ofNatPadded (by decide) h
      rw [hzeros, List.length_append, List.length_replicate] at hwidth
      exact hwidth
    obtain ⟨htake, hdrop⟩ := takeWhile_append_of_ends hall.1 hrest
    have hnanos : ((d :: ds) ++ List.replicate 9 (byte '0')).take 9 = ofNatPadded 9 n := by
      rw [hzeros, List.take_append, List.take_of_length_le (by omega), List.take_replicate]
      congr 2
      omega
    rw [if_neg (by simp), List.cons_append]
    unfold readFraction
    dsimp only
    rw [htake, hdrop, if_pos (by simp), hnanos, hvalue]

/-- A zone with two digits for the hours and two for the minutes. -/
theorem readZone_spelled {sign : UInt8} {hour minute : Nat} (hhour : hour < 100)
    (hminute : minute < 60) (hsign : sign = byte '+' ∨ sign = byte '-') :
    readZone (sign :: (ofNatPadded 2 hour ++ byte ':' :: ofNatPadded 2 minute)) =
      if 24 < hour then .error (.outOfRange "time zone offset hour")
      else .ok (if sign = byte '-' then -((hour * 60 + minute) * 60 : Int)
        else (hour * 60 + minute) * 60, []) := by
  have hhours := toNat?_ofNatPadded 2 hour
  have hminutes := toNat?_ofNatPadded 2 minute
  obtain ⟨h₁, h₂, hhdigits, -⟩ := exists_ofNatPadded_two hhour
  obtain ⟨m₁, m₂, hmdigits, -⟩ := exists_ofNatPadded_two (n := minute) (by omega)
  rw [hhdigits] at hhours ⊢
  rw [hmdigits] at hminutes ⊢
  have hzulu : sign ≠ byte 'Z' := by
    rcases hsign with rfl | rfl <;> decide
  simp only [List.cons_append, List.nil_append, readZone, List.head?_cons, Option.some.injEq,
    hzulu, if_false, bne_self_eq_false, Bool.false_eq_true, hhours, hminutes, Option.getD_some,
    Option.isSome_some, if_true, if_neg (show ¬ 60 < minute by omega), Option.isNone_some,
    Bool.or_self]
  rcases hsign with rfl | rfl
  · rfl
  · rfl

theorem zone_eq {z : Int} (h : z ≠ 0) :
    zone (60 * z) = (if z < 0 then byte '-' else byte '+') ::
      (ofNatPadded 2 (z.natAbs / 60) ++ byte ':' :: ofNatPadded 2 (z.natAbs % 60)) := by
  have hminutes : Int.tdiv (60 * z) 60 = z := Int.mul_tdiv_cancel_left z (by decide)
  unfold zone
  rw [if_neg (by omega)]
  dsimp only
  rw [hminutes]
  have hcolon : Text.ofString ":" = [byte ':'] := rfl
  have hminus : Text.ofString "-" = [byte '-'] := rfl
  have hplus : Text.ofString "+" = [byte '+'] := rfl
  rw [hcolon, hminus, hplus]
  split <;> simp

/-- A zone that is written is read back, unless it is 25 hours off. -/
theorem readZone_zone {z : Int} (h : z.natAbs ≤ 1500) :
    readZone (zone (60 * z)) =
      if z.natAbs = 1500 then .error (.outOfRange "time zone offset hour")
      else .ok (60 * z, []) := by
  by_cases hzero : z = 0
  · subst hzero
    rfl
  · rw [zone_eq hzero, readZone_spelled (by omega) (by omega) (by split <;> simp)]
    have hhours : 24 < z.natAbs / 60 ↔ z.natAbs = 1500 := by omega
    simp only [hhours]
    split
    · rfl
    · by_cases hnegative : z < 0
      · rw [if_pos hnegative, if_pos rfl]
        congr 2
        omega
      · rw [if_neg hnegative, if_neg (by decide)]
        congr 2
        omega

theorem endsFraction_zone (z : Int) : EndsFraction (zone (60 * z)) := by
  intro b hb
  by_cases hzero : z = 0
  · subst hzero
    obtain rfl : byte 'Z' = b := Option.some.inj hb
    decide
  · rw [zone_eq hzero, List.head?_cons, Option.mem_some_iff] at hb
    subst hb
    split <;> decide

/-! ### Moments -/

/-- What a timestamp shows in its zone. The zone is given in minutes. -/
structure Moment where
  date : Calendar
  hour : Nat
  minute : Nat
  second : Nat
  nanos : Nat
  zone : Int
  date_valid : date.Valid
  year_bounds : 0 ≤ date.year ∧ date.year < 10000
  hour_le : hour ≤ 23
  minute_le : minute ≤ 59
  second_le : second ≤ 59
  nanos_lt : nanos < 10 ^ 9
  zone_le : zone.natAbs ≤ 1500

namespace Moment

variable (m : Moment)

/-- The seconds of the day. -/
def inDay : Nat := (m.hour * 60 + m.minute) * 60 + m.second

/-- The timestamp that shows a moment. -/
def timestamp : Timestamp := ⟨m.date.days * 86400 + m.inDay - 60 * m.zone, m.nanos, 60 * m.zone⟩

/-- The numbers of a moment, each with its width. -/
def text : Text :=
  ofNatPadded 4 m.date.year.natAbs ++ ("-" ++ (ofNatPadded 2 m.date.month ++ ("-" ++
    (ofNatPadded 2 m.date.day ++ ("T" ++ (ofNatPadded 2 m.hour ++ (":" ++
      (ofNatPadded 2 m.minute ++ (":" ++ (ofNatPadded 2 m.second ++
        (fraction m.nanos ++ Timestamp.zone (60 * m.zone))))))))))))

/-- A timestamp is written by the numbers that it shows. -/
theorem text_timestamp : m.timestamp.text = m.text := by
  have hhour := m.hour_le
  have hminute := m.minute_le
  have hsecond := m.second_le
  have hinDay : m.inDay < 86400 := by
    unfold inDay
    omega
  have hseconds : m.timestamp.seconds + m.timestamp.offset = m.date.days * 86400 + m.inDay := by
    simp only [timestamp]
    omega
  -- The day and the time of day are told apart again.
  have hday : Int.fdiv (m.date.days * 86400 + m.inDay) 86400 = m.date.days := by
    rw [Int.fdiv_eq_ediv_of_nonneg _ (by decide)]
    omega
  have htime : (Int.fmod (m.date.days * 86400 + m.inDay) 86400).toNat = m.inDay := by
    rw [Int.fmod_eq_emod_of_nonneg _ (by decide)]
    omega
  have hhours : m.inDay / 3600 = m.hour := by
    unfold inDay
    omega
  have hminutes : m.inDay / 60 % 60 = m.minute := by
    unfold inDay
    omega
  have hrest : m.inDay % 60 = m.second := by
    unfold inDay
    omega
  have hyear : padded 4 m.date.year = ofNatPadded 4 m.date.year.natAbs :=
    if_neg (by have := m.year_bounds.1; omega)
  unfold Timestamp.text
  dsimp only
  rw [hseconds, hday, htime, Calendar.ofDays_days m.date_valid, hhours, hminutes, hrest, hyear]
  simp only [text, List.append_assoc]
  rfl

/-- The numbers of a moment are read again, unless the zone is 25 hours off. -/
theorem ofText_text :
    ofText m.text =
      if m.zone.natAbs = 1500 then .error (.outOfRange "time zone offset hour")
      else .ok m.timestamp := by
  have hlength := Calendar.monthLength_le m.date.year m.date.month
  have hyear := readYear_append (n := m.date.year.natAbs) (by have := m.year_bounds; omega)
  have hcast : (m.date.year.natAbs : Int) = m.date.year := by
    have := m.year_bounds.1
    omega
  have hmonth := fun element oneDigit => number_append (n := m.date.month) element oneDigit
    (by have := m.date_valid.month; omega)
  have hday := fun element oneDigit => number_append (n := m.date.day) element oneDigit
    (by have := m.date_valid.day; omega)
  have hhour := fun element oneDigit => number_append (n := m.hour) element oneDigit
    (by have := m.hour_le; omega)
  have hminute := fun element oneDigit => number_append (n := m.minute) element oneDigit
    (by have := m.minute_le; omega)
  have hsecond := fun element oneDigit => number_append (n := m.second) element oneDigit
    (by have := m.second_le; omega)
  have hfraction := readFraction_append m.nanos_lt (endsFraction_zone m.zone)
  -- Each number is checked against its bounds, the day last, once the zone is read.
  have hmonths := fun field => (within_eq_ok_iff field).mpr m.date_valid.month
  have hdays := fun field => (within_eq_ok_iff field).mpr m.date_valid.day
  have hhours := fun field => (within_eq_ok_iff field).mpr ⟨Nat.zero_le m.hour, m.hour_le⟩
  have hminutes := fun field => (within_eq_ok_iff field).mpr ⟨Nat.zero_le m.minute, m.minute_le⟩
  have hseconds := fun field => (within_eq_ok_iff field).mpr ⟨Nat.zero_le m.second, m.second_le⟩
  simp only [text, ofText, hyear, hmonth, hday, hhour, hminute, hsecond, literal_append,
    Outcome.ok_bind, hmonths, hhours, hminutes, hseconds, hfraction, readZone_zone m.zone_le]
  split
  · rfl
  · simp only [Outcome.ok_bind, List.isEmpty_nil, Bool.not_true, Bool.false_eq_true, if_false,
      hcast, hdays]
    rfl

end Moment

/-! ### What can be read -/

theorem suffix_of_literal {element : Text} (h : literal element t = .ok rest) : rest <:+ t := by
  have hgo : ∀ whole element t : Text, literal.go whole element t = .ok rest → rest <:+ t := by
    intro whole element
    induction element with
    | nil =>
      intro t h
      rw [literal.go] at h
      exact Except.ok.inj h ▸ List.suffix_rfl
    | cons a element ih =>
      intro t h
      cases t with
      | nil => cases h
      | cons b t =>
        rw [literal.go] at h
        split at h
        · exact (ih t h).trans (List.suffix_cons b t)
        · cases h
  exact hgo element element t h

theorem bounds_of_readYear (h : readYear t = .ok (n, rest)) : n < 10000 ∧ rest <:+ t := by
  unfold readYear at h
  split at h
  case h_2 => cases h
  case h_1 year hyear =>
    split at h
    · cases h
    · cases h
      refine ⟨?_, List.drop_suffix 4 t⟩
      obtain ⟨-, hdigits, rfl⟩ := toNat?_eq_some_iff.mp hyear
      calc digitsToNat (t.take 4) < 10 ^ (t.take 4).length := digitsToNat_lt hdigits
        _ ≤ 10 ^ 4 := Nat.pow_le_pow_right (by decide) (List.length_take_le 4 t)

theorem suffix_of_number {element : Text} {oneDigit : Bool}
    (h : number element oneDigit t = .ok (n, rest)) : rest <:+ t := by
  unfold number at h
  split at h
  case h_1 a b after =>
    split at h
    · cases h
    · split at h
      · cases h
        exact (List.suffix_cons b _).trans (List.suffix_cons a _)
      · split at h
        · cases h
          exact List.suffix_cons a _
        · cases h
  case h_2 a =>
    split at h
    · cases h
      exact List.nil_suffix
    · cases h
  case h_3 => cases h

theorem bounds_of_readFraction (t : Text) :
    (readFraction t).1 < 10 ^ 9 ∧ (readFraction t).2 <:+ t := by
  unfold readFraction
  split
  case h_2 => exact ⟨by decide, List.suffix_rfl⟩
  case h_1 p after =>
    dsimp only
    split
    case isFalse => exact ⟨Nat.pos_of_ne_zero (by decide), List.suffix_rfl⟩
    case isTrue =>
      refine ⟨?_, (List.dropWhile_suffix _).trans (List.suffix_cons p after)⟩
      -- Nine digits are left of those that were read and the zeros behind them.
      have hdigits : IsDigits ((after.takeWhile isDigitByte ++
          List.replicate 9 (byte '0')).take 9) := by
        intro b hb
        rcases List.mem_append.mp (List.mem_of_mem_take hb) with hb | hb
        · exact List.all_eq_true.mp List.all_takeWhile b hb
        · exact isDigits_zeros 9 b hb
      refine (digitsToNat_lt hdigits).trans_le ?_
      exact Nat.pow_le_pow_right (by decide) (List.length_take_le 9 _)

/-- What the zone of a text is read as: universal time, or hours and minutes in their bounds. -/
theorem readZone_cases {offset : Int} (h : readZone t = .ok (offset, rest)) :
    t = byte 'Z' :: rest ∧ offset = 0 ∨
    ∃ sign h₁ h₂ m₁ m₂ hour minute, t = sign :: h₁ :: h₂ :: byte ':' :: m₁ :: m₂ :: rest ∧
      toNat? [h₁, h₂] = some hour ∧ toNat? [m₁, m₂] = some minute ∧ hour ≤ 24 ∧ minute ≤ 60 ∧
      offset.natAbs = (hour * 60 + minute) * 60 := by
  unfold readZone at h
  split at h
  case isTrue hzulu =>
    cases h
    obtain ⟨after, rfl⟩ := List.head?_eq_some_iff.mp hzulu
    exact .inl ⟨rfl, rfl⟩
  case isFalse hzulu =>
    split at h
    case h_2 => cases h
    case h_1 sign h₁ h₂ colon m₁ m₂ after =>
      split at h
      · cases h
      next hcolon =>
      obtain rfl : colon = byte ':' := by simpa using hcolon
      cases hhours : toNat? [h₁, h₂] with
      | none => simp [hhours] at h
      | some hour =>
        cases hminutes : toNat? [m₁, m₂] with
        | none =>
          simp only [hhours, hminutes, Option.isSome_some, if_true, Option.getD_some,
            Option.getD_none, Option.isNone_none, Bool.or_true, Nat.not_lt_zero, if_false] at h
          split at h <;> cases h
        | some minute =>
          simp only [hhours, hminutes, Option.isSome_some, if_true, Option.getD_some,
            Option.isNone_some, Bool.or_self, Bool.false_eq_true, if_false] at h
          split at h
          · cases h
          next hminute =>
          split at h
          · cases h
          next hhour =>
          have hoffset : after = rest ∧ offset.natAbs = (hour * 60 + minute) * 60 := by
            split at h
            · cases h
              exact ⟨rfl, by omega⟩
            · split at h
              · cases h
                exact ⟨rfl, by omega⟩
              · cases h
          obtain ⟨rfl, hoffset⟩ := hoffset
          exact .inr ⟨sign, h₁, h₂, m₁, m₂, hour, minute, rfl, hhours, hminutes,
            Nat.not_lt.mp hhour, Nat.not_lt.mp hminute, hoffset⟩

/-- The two digits of a number. -/
theorem digits_of_toNat? {a b : UInt8} (h : toNat? [a, b] = some n) :
    a.toNat = 48 + n / 10 ∧ b.toNat = 48 + n % 10 := by
  obtain ⟨-, hdigits, rfl⟩ := toNat?_eq_some_iff.mp h
  have ha := hdigits a (by simp)
  have hb := hdigits b (by simp)
  simp only [isDigitByte, Bool.and_eq_true, decide_eq_true_eq, UInt8.le_iff_toNat_le] at ha hb
  have hnine : (byte '9').toNat = 57 := by decide
  have hzero : (byte '0').toNat = 48 := by decide
  simp only [digitsToNat, List.foldl_cons, List.foldl_nil]
  omega

/-- A zone is 25 hours off exactly if it is spelled as 24 hours and 60 minutes. -/
theorem readZone_eq_most_iff {offset : Int} (h : readZone t = .ok (offset, [])) (hs : t <:+ s) :
    offset.natAbs = 90000 ↔ Text.ofString "24:60" <:+ s := by
  rcases readZone_cases h with ⟨rfl, rfl⟩ | ⟨sign, h₁, h₂, m₁, m₂, hour, minute, rfl, hhours,
    hminutes, hhour, hminute, hoffset⟩
  · -- Universal time does not end with a digit.
    constructor
    · intro hzero
      cases hzero
    · intro hspelled
      have hends : [byte 'Z'] <:+ Text.ofString "24:60" :=
        List.suffix_of_suffix_length_le hs hspelled (by decide)
      exact absurd hends (by decide)
  · obtain ⟨ha, hb⟩ := digits_of_toNat? hhours
    obtain ⟨hc, hd⟩ := digits_of_toNat? hminutes
    have hspelled : Text.ofString "24:60" <:+ s ↔
        Text.ofString "24:60" = [h₁, h₂, byte ':', m₁, m₂] := by
      constructor
      · intro hspelled
        have hends : Text.ofString "24:60" <:+ [sign, h₁, h₂, byte ':', m₁, m₂] :=
          List.suffix_of_suffix_length_le hspelled hs (Nat.le_succ 5)
        rcases List.suffix_cons_iff.mp hends with heq | hends
        · cases congrArg List.length heq
        · exact hends.eq_of_length rfl
      · intro heq
        rw [heq]
        exact (List.suffix_cons sign _).trans hs
    have hdigits : Text.ofString "24:60" = [byte '2', byte '4', byte ':', byte '6', byte '0'] := rfl
    rw [hspelled, hdigits, hoffset]
    simp only [List.cons.injEq, and_true, true_and, ← UInt8.toNat_inj, ha, hb, hc, hd]
    have htwo : (byte '2').toNat = 50 := by decide
    have hfour : (byte '4').toNat = 52 := by decide
    have hsix : (byte '6').toNat = 54 := by decide
    have hzero : (byte '0').toNat = 48 := by decide
    omega

/-- What is read is the timestamp of a moment, and its zone is 25 hours off exactly if it is spelled
as 24 hours and 60 minutes. -/
theorem exists_moment {ts : Timestamp} (h : ofText s = .ok ts) :
    ∃ m : Moment, m.timestamp = ts ∧ (m.zone.natAbs = 1500 ↔ Text.ofString "24:60" <:+ s) := by
  simp only [ofText, Outcome.bind_eq_ok, Prod.exists] at h
  obtain ⟨year, t₁, hyear, t₂, hdash, month, t₃, hmonth, _, hmonths, t₄, hdash', day, t₅, hday, t₆,
    hmark, hour, t₇, hhour, _, hhours, t₈, hcolon, minute, t₉, hminute, _, hminutes, t₁₀, hcolon',
    second, t₁₁, hsecond, _, hseconds, offset, t₁₂, hzone, h⟩ := h
  obtain ⟨hyears, hs₁⟩ := bounds_of_readYear hyear
  obtain ⟨hnanos, hs₁₂⟩ := bounds_of_readFraction t₁₁
  -- The zone is what the text ends with.
  have hs : (readFraction t₁₁).2 <:+ s :=
    hs₁₂.trans <| (suffix_of_number hsecond).trans <| (suffix_of_literal hcolon').trans <|
      (suffix_of_number hminute).trans <| (suffix_of_literal hcolon).trans <|
      (suffix_of_number hhour).trans <| (suffix_of_literal hmark).trans <|
      (suffix_of_number hday).trans <| (suffix_of_literal hdash').trans <|
      (suffix_of_number hmonth).trans <| (suffix_of_literal hdash).trans hs₁
  cases t₁₂ with
  | cons b t₁₂ => cases h
  | nil =>
    simp only [List.isEmpty_nil, Bool.not_true, Bool.false_eq_true, if_false,
      Outcome.bind_eq_ok] at h
    obtain ⟨_, hdays, h⟩ := h
    have hminutes' : 60 * (offset / 60) = offset ∧ (offset / 60).natAbs ≤ 1500 := by
      rcases readZone_cases hzone with ⟨-, rfl⟩ |
        ⟨_, _, _, _, _, hours, minutes, -, -, -, hbound, hbound', hoffset⟩
      · decide
      · omega
    let m : Moment :=
      { date := ⟨year, month, day⟩
        hour := hour
        minute := minute
        second := second
        nanos := (readFraction t₁₁).1
        zone := offset / 60
        date_valid := ⟨(within_eq_ok_iff _).mp hmonths, (within_eq_ok_iff _).mp hdays⟩
        year_bounds := ⟨Int.natCast_nonneg year, Int.ofNat_lt.mpr hyears⟩
        hour_le := ((within_eq_ok_iff _).mp hhours).2
        minute_le := ((within_eq_ok_iff _).mp hminutes).2
        second_le := ((within_eq_ok_iff _).mp hseconds).2
        nanos_lt := hnanos
        zone_le := hminutes'.2 }
    refine ⟨m, ?_, ?_⟩
    · rw [← Except.ok.inj h]
      simp only [Moment.timestamp, Moment.inDay, m, hminutes'.1]
    · rw [← readZone_eq_most_iff hzone hs]
      show (offset / 60).natAbs = 1500 ↔ offset.natAbs = 90000
      omega

/-- What is read is written as a text that is read as the same again, unless its zone was spelled
as 24 hours and 60 minutes. -/
theorem ofText_text_iff {ts : Timestamp} (h : ofText s = .ok ts) :
    ofText ts.text = .ok ts ↔ ¬ Text.ofString "24:60" <:+ s := by
  obtain ⟨m, rfl, hzone⟩ := exists_moment h
  rw [m.text_timestamp, m.ofText_text, ← hzone]
  split
  · next hmost => simp [hmost]
  · next hless => simp [hless]

end Accord.Timestamp
