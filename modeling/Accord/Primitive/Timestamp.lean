/-
# Points in time

A point in time with the offset of the zone it was written in. The text form is
`year-month-dayThour:minute:second`, a fraction of any length and `Z` or an offset in
hours and minutes. Reading takes an hour of one digit, a comma for the point of the
fraction, and an offset of up to 24 hours and 60 minutes.

## Main definitions

* `Calendar.days`, `Calendar.ofDays`: day numbers and dates of the proleptic
  Gregorian calendar;
* `Timestamp`: a point in time and an offset;
* `Timestamp.ofText`, `Timestamp.text`: reading and writing.
-/

import Accord.Text.Quoted

namespace Accord

/-- A date of the proleptic Gregorian calendar. -/
structure Calendar where
  year : Int
  month : Nat
  day : Nat
  deriving DecidableEq, Repr

namespace Calendar

/-- Whether a year has a leap day. -/
def isLeap (year : Int) : Bool := year % 4 = 0 && (year % 100 != 0 || year % 400 = 0)

/-- The number of days of a month. -/
def monthLength (year : Int) (month : Nat) : Nat :=
  match month with
  | 2 => if isLeap year then 29 else 28
  | 4 | 6 | 9 | 11 => 30
  | _ => 31

/-- The number of days from 1970-01-01 to a date. Years are counted from March, so that a leap
day is the last day of its year. -/
def days (c : Calendar) : Int :=
  let year : Int := if c.month ≤ 2 then c.year - 1 else c.year
  let shifted : Int := if c.month ≤ 2 then c.month + 9 else (c.month : Int) - 3
  let era := Int.fdiv year 400
  let yearOfEra := year - era * 400
  let dayOfYear := (153 * shifted + 2) / 5 + c.day - 1
  let dayOfEra := yearOfEra * 365 + yearOfEra / 4 - yearOfEra / 100 + dayOfYear
  era * 146097 + dayOfEra - 719468

/-- The date a number of days after 1970-01-01. -/
def ofDays (n : Int) : Calendar :=
  let z := n + 719468
  let era := Int.fdiv z 146097
  let dayOfEra := z - era * 146097
  let yearOfEra :=
    (dayOfEra - dayOfEra / 1460 + dayOfEra / 36524 - dayOfEra / 146096) / 365
  let dayOfYear := dayOfEra - (365 * yearOfEra + yearOfEra / 4 - yearOfEra / 100)
  let shifted := (5 * dayOfYear + 2) / 153
  let day := dayOfYear - (153 * shifted + 2) / 5 + 1
  let month := if shifted < 10 then shifted + 3 else shifted - 9
  let year := yearOfEra + era * 400
  ⟨if month ≤ 2 then year + 1 else year, month.toNat, day.toNat⟩

end Calendar

/-- A point in time: seconds from 1970-01-01T00:00:00Z, nanoseconds past them, and the offset
of the zone from universal time in seconds. -/
structure Timestamp where
  seconds : Int
  nanos : Nat
  offset : Int
  deriving DecidableEq, Repr

namespace Timestamp

/-- The first second of the year 1, which stands for no time. -/
def zero : Timestamp := ⟨-62135596800, 0, 0⟩

instance : Inhabited Timestamp := ⟨zero⟩

/-- Whether two timestamps are the same point in time. -/
def equal (a b : Timestamp) : Bool := a.seconds = b.seconds && a.nanos = b.nanos

/-- The same point in time in universal time. -/
def universal (t : Timestamp) : Timestamp := { t with offset := 0 }

/-! ### Writing -/

/-- A number with a sign if it is negative, and leading zeros up to a width. -/
def padded (width : Nat) (n : Int) : Text :=
  if n < 0 then Text.byte '-' :: Text.ofNatPadded width n.natAbs
  else Text.ofNatPadded width n.natAbs

/-- The fraction of a second, without trailing zeros. -/
def fraction (nanos : Nat) : Text :=
  let digits := Text.dropRightWhile (· = Text.byte '0') (Text.ofNatPadded 9 nanos)
  if digits.isEmpty then [] else Text.byte '.' :: digits

/-- The offset of a zone: its whole minutes with their sign, which is a plus if there are none. -/
def zone (offset : Int) : Text :=
  if offset = 0 then "Z"
  else
    let minutes := Int.tdiv offset 60
    let sign : Text := if minutes < 0 then "-" else "+"
    sign ++ Text.ofNatPadded 2 (minutes.natAbs / 60) ++ ":" ++
      Text.ofNatPadded 2 (minutes.natAbs % 60)

/-- The text form. -/
def text (t : Timestamp) : Text :=
  let seconds := t.seconds + t.offset
  let date := Calendar.ofDays (Int.fdiv seconds 86400)
  let inDay := (Int.fmod seconds 86400).toNat
  padded 4 date.year ++ "-" ++ Text.ofNatPadded 2 date.month ++ "-" ++
    Text.ofNatPadded 2 date.day ++ "T" ++ Text.ofNatPadded 2 (inDay / 3600) ++ ":" ++
    Text.ofNatPadded 2 (inDay / 60 % 60) ++ ":" ++ Text.ofNatPadded 2 (inDay % 60) ++
    fraction t.nanos ++ zone t.offset

/-! ### Reading -/

/-- Why a text is no timestamp. -/
inductive Error where
  /-- What is left of the text does not begin with an element of the form. -/
  | mismatch (rest element : Text)
  /-- A number is out of its range. -/
  | outOfRange (field : Text)
  /-- The text goes on after the form. -/
  | extra (rest : Text)
  deriving DecidableEq, Repr

/-- The form of a timestamp, as messages show it. -/
def form : Text := "2006-01-02T15:04:05.999999999Z07:00"

/-- A byte of a text as messages on timestamps show it: in hexadecimal unless it is a visible
ASCII character. -/
def shownByte (b : UInt8) : Text :=
  if b < 0x20 || 0x80 ≤ b then "\\x" ++ Text.hex 2 b.toNat
  else if b = Text.byte '"' || b = Text.byte '\\' then [Text.byte '\\', b]
  else [b]

/-- A text between quotes, byte by byte. -/
def shown (t : Text) : Text := "\"" ++ t.flatMap shownByte ++ "\""

/-- The message of an error, for the text that was read. -/
def Error.message (input : Text) (e : Error) : Text :=
  let what : Text := match e with
    | mismatch rest element =>
      " as " ++ shown form ++ ": cannot parse " ++ shown rest ++ " as " ++ shown element
    | outOfRange field => ": " ++ field ++ " out of range"
    | extra rest => ": extra text: " ++ shown rest
  "invalid datetime " ++ input.quote ++ ": parsing time " ++ shown input ++ what

/-- Reads a fixed text. -/
def literal (element t : Text) : Except Error Text :=
  let rec go (whole : Text) : Text → Text → Except Error Text
    | [], t => .ok t
    | _ :: _, [] => .error (.mismatch [] whole)
    | a :: element, b :: t =>
      if a = b then go whole element t else .error (.mismatch (b :: t) whole)
  go element element t

/-- Reads a number of two digits, or of one where that is allowed. -/
def number (element : Text) (oneDigit : Bool) (t : Text) : Except Error (Nat × Text) :=
  match t with
  | a :: b :: rest =>
    if !Text.isDigitByte a then .error (.mismatch t element)
    else if Text.isDigitByte b then .ok ((a.toNat - 48) * 10 + (b.toNat - 48), rest)
    else if oneDigit then .ok (a.toNat - 48, b :: rest)
    else .error (.mismatch t element)
  | [a] =>
    if Text.isDigitByte a && oneDigit then .ok (a.toNat - 48, [])
    else .error (.mismatch t element)
  | [] => .error (.mismatch t element)

/-- Requires a number to lie in a range. -/
def within (field : Text) (least most n : Nat) : Except Error Unit :=
  if least ≤ n && n ≤ most then .ok () else .error (.outOfRange field)

/-- Reads a year of four digits. -/
def readYear (t : Text) : Except Error (Nat × Text) :=
  match Text.toNat? (t.take 4) with
  | some n => if t.length < 4 then .error (.mismatch t "2006") else .ok (n, t.drop 4)
  | none => .error (.mismatch t "2006")

/-- Reads a fraction of a second, if there is one; digits past nanoseconds are dropped. -/
def readFraction (t : Text) : Nat × Text :=
  match t with
  | p :: rest =>
    let digits := rest.takeWhile Text.isDigitByte
    if (p = Text.byte '.' || p = Text.byte ',') && !digits.isEmpty then
      let nanos := (digits ++ List.replicate 9 (Text.byte '0')).take 9
      (Text.digitsToNat nanos, rest.dropWhile Text.isDigitByte)
    else (0, t)
  | [] => (0, t)

/-- Reads the offset of a zone. -/
def readZone (t : Text) : Except Error (Int × Text) :=
  let bad : Except Error (Int × Text) := .error (.mismatch t "Z07:00")
  if t.head? = some (Text.byte 'Z') then .ok (0, t.drop 1)
  else match t with
    | sign :: h₁ :: h₂ :: colon :: m₁ :: m₂ :: rest =>
      if colon != Text.byte ':' then bad
      else
        let hour? := Text.toNat? [h₁, h₂]
        let minute? := Text.toNat? [m₁, m₂]
        let hour := hour?.getD 0
        let minute := if hour?.isSome then minute?.getD 0 else 0
        if 60 < minute then .error (.outOfRange "time zone offset minute")
        else if 24 < hour then .error (.outOfRange "time zone offset hour")
        else if hour?.isNone || minute?.isNone then bad
        else
          let offset : Int := (hour * 60 + minute) * 60
          if sign = Text.byte '+' then .ok (offset, rest)
          else if sign = Text.byte '-' then .ok (-offset, rest)
          else bad
    | _ => bad

/-- Reads a timestamp. -/
def ofText (t : Text) : Except Error Timestamp := do
  let (year, t) ← readYear t
  let t ← literal "-" t
  let (month, t) ← number "01" false t
  within "month" 1 12 month
  let t ← literal "-" t
  let (day, t) ← number "02" false t
  let t ← literal "T" t
  let (hour, t) ← number "15" true t
  within "hour" 0 23 hour
  let t ← literal ":" t
  let (minute, t) ← number "04" false t
  within "minute" 0 59 minute
  let t ← literal ":" t
  let (second, t) ← number "05" false t
  within "second" 0 59 second
  let (nanos, t) := readFraction t
  let (offset, t) ← readZone t
  if !t.isEmpty then throw (.extra t)
  within "day" 1 (Calendar.monthLength year month) day
  let days := Calendar.days ⟨year, month, day⟩
  let inDay := (hour * 60 + minute) * 60 + second
  return ⟨days * 86400 + inDay - offset, nanos, offset⟩

end Timestamp

end Accord
