/-
  LoggingOperator.Time.Instant — POINTS IN TIME AND THEIR TEXT.

  An instant is a second of UTC and how many nanoseconds of it have passed.  A
  leap second has no number of its own: it continues the second before it, with
  more than a thousand million nanoseconds.  So instants are ordered by their
  second and then by their nanoseconds (`rank`), and the whole of a leap second
  comes before the second that follows.

  The text of an instant is a timestamp of RFC 3339.  It is written in UTC, to
  the second in object metadata and to the microsecond in leases.  Reading takes
  any offset and is lenient: numbers may lack leading zeros, blanks may stand
  around them, and a year with a sign may have any number of digits.

  Dates are those of the Gregorian calendar; the day number of a date is
  computed from years that start in March, so that a leap day is the last of
  its year.
-/
import LoggingOperator.Text.Blank
import LoggingOperator.Text.Numeral

namespace LoggingOperator

/-- A point in time. -/
structure Instant where
  /-- Seconds since the start of 1970 in UTC. -/
  seconds : Int
  /-- Nanoseconds of that second; from 1000000000 on they are those of the leap
      second after it. -/
  nanos : Nat
  nanos_lt : nanos < 2000000000 := by decide
deriving DecidableEq, Repr

namespace Instant

instance : Inhabited Instant := ⟨{ seconds := 0, nanos := 0 }⟩

/-- The place of an instant among all instants. -/
def rank (t : Instant) : Int :=
  t.seconds * 2000000000 + t.nanos

instance : LT Instant := ⟨fun a b => a.rank < b.rank⟩

instance : LE Instant := ⟨fun a b => a.rank ≤ b.rank⟩

instance (a b : Instant) : Decidable (a < b) := inferInstanceAs (Decidable (a.rank < b.rank))

instance (a b : Instant) : Decidable (a ≤ b) := inferInstanceAs (Decidable (a.rank ≤ b.rank))

/-- Is the instant within a leap second? -/
def isLeap (t : Instant) : Bool :=
  1000000000 ≤ t.nanos

/-- The instant so many seconds later.  Leaving a leap second, it counts as the
    second before it on the way forward, and as the one after it on the way
    back. -/
def addSeconds (t : Instant) (seconds : Int) : Instant :=
  if t.isLeap && seconds ≠ 0 then
    { seconds := t.seconds + seconds + (if seconds < 0 then 1 else 0)
      nanos := t.nanos - 1000000000
      nanos_lt := by have := t.nanos_lt; omega }
  else { t with seconds := t.seconds + seconds }

/-! ## §1. The calendar -/

/-- Days from the start of 1970 to a date. -/
def dayNumber (year : Int) (month day : Nat) : Int :=
  let year := if month ≤ 2 then year - 1 else year
  let era := year.fdiv 400
  let yearOfEra := year - era * 400
  let monthFromMarch : Int := if month ≤ 2 then month + 9 else month - 3
  let dayOfYear := (153 * monthFromMarch + 2) / 5 + day - 1
  let dayOfEra := yearOfEra * 365 + yearOfEra / 4 - yearOfEra / 100 + dayOfYear
  era * 146097 + dayOfEra - 719468

/-- The date of a day number: year, month and day. -/
def dateOf (days : Int) : Int × Int × Int :=
  let shifted := days + 719468
  let era := shifted.fdiv 146097
  let dayOfEra := shifted - era * 146097
  let yearOfEra := (dayOfEra - dayOfEra / 1460 + dayOfEra / 36524 - dayOfEra / 146096) / 365
  let dayOfYear := dayOfEra - (365 * yearOfEra + yearOfEra / 4 - yearOfEra / 100)
  let monthFromMarch := (5 * dayOfYear + 2) / 153
  let day := dayOfYear - (153 * monthFromMarch + 2) / 5 + 1
  let month := if monthFromMarch < 10 then monthFromMarch + 3 else monthFromMarch - 9
  let year := yearOfEra + era * 400
  (if month ≤ 2 then year + 1 else year, month, day)

/-- Does the year have a leap day? -/
def hasLeapDay (year : Int) : Bool :=
  year % 4 == 0 && (year % 100 != 0 || year % 400 == 0)

/-- How many days a month has. -/
def daysIn (year : Int) (month : Nat) : Nat :=
  match month with
  | 2 => if hasLeapDay year then 29 else 28
  | 4 | 6 | 9 | 11 => 30
  | _ => 31

/-- The years that have dates. -/
def isYear (year : Int) : Bool :=
  -262143 ≤ year && year ≤ 262142

/-- Is it a date? -/
def isDate (year : Int) (month day : Nat) : Bool :=
  isYear year && 1 ≤ month && month ≤ 12 && 1 ≤ day && day ≤ daysIn year month

/-! ## §2. Reading a timestamp -/

/-- A number of at most `width` digits after any blanks, and what follows it. -/
def number? (width : Nat) (cs : List Char) : Option (Nat × List Char) :=
  let cs := cs.dropWhile Text.isBlank
  match (Text.spanDigits (cs.take width)).1 with
  | [] => none
  | digits => some (Text.numeral digits, cs.drop digits.length)

/-- A number with all its digits, and what follows it. -/
def digits? (cs : List Char) : Option (Nat × List Char) :=
  match Text.spanDigits cs with
  | ([], _) => none
  | (digits, rest) => some (Text.numeral digits, rest)

/-- A year after any blanks: up to four digits, or a sign and any number of
    them. -/
def year? (cs : List Char) : Option (Int × List Char) :=
  match cs.dropWhile Text.isBlank with
  | '-' :: cs => (digits? cs).map fun (n, rest) => (-(n : Int), rest)
  | '+' :: cs => (digits? cs).map fun (n, rest) => ((n : Int), rest)
  | cs => (number? 4 cs).map fun (n, rest) => ((n : Int), rest)

/-- What follows a mark, which may have blanks before it. -/
def mark? (mark : Char) (cs : List Char) : Option (List Char) :=
  match cs.dropWhile Text.isBlank with
  | c :: cs => if c = mark then some cs else none
  | [] => none

/-- What follows the letter or the space between the date and the time. -/
def timeMark? : List Char → Option (List Char)
  | 'T' :: cs | 't' :: cs | ' ' :: cs => some cs
  | _ => none

/-- The nanoseconds of a fraction of a second, and what follows it.  Digits
    after the ninth are ignored. -/
def fraction? : List Char → Option (Nat × List Char)
  | '.' :: cs =>
    let (digits, rest) := Text.spanDigits cs
    if digits = [] then none
    else
      let kept := digits.take 9
      some (Text.numeral kept * Nat.pow 10 (9 - kept.length), rest)
  | cs => some (0, cs)

/-- Exactly two digits, and what follows them. -/
def pair? : List Char → Option (Nat × List Char)
  | a :: b :: cs => do return ((← Text.digit? a) * 10 + (← Text.digit? b), cs)
  | _ => none

/-- The seconds in hours and minutes, which colons and blanks may separate, and
    what follows them. -/
def clockOffset? (cs : List Char) : Option (Nat × List Char) := do
  let (hours, cs) ← pair? cs
  let (minutes, cs) ← pair? (cs.dropWhile fun c => c == ':' || Text.isBlank c)
  if hours < 24 ∧ minutes < 60 then some ((hours * 60 + minutes) * 60, cs) else none

/-- The seconds by which local time is ahead of UTC, and what follows.  The
    minus sign may be the mathematical one. -/
def offset? (cs : List Char) : Option (Int × List Char) :=
  match cs.dropWhile Text.isBlank with
  | 'Z' :: cs | 'z' :: cs => some (0, cs)
  | '+' :: cs => (clockOffset? cs).map fun (n, rest) => ((n : Int), rest)
  | '-' :: cs | '−' :: cs => (clockOffset? cs).map fun (n, rest) => (-(n : Int), rest)
  | u :: t :: c :: cs =>
    if [u, t, c].map Text.lowerAscii = ['u', 't', 'c'] then some (0, cs) else none
  | _ => none

/-- The instant at a local time of a day.  Second 60 is a leap second. -/
def ofLocal? (days : Int) (hour minute second nanos : Nat) (offset : Int) : Option Instant :=
  let leap := second = 60
  let seconds : Int :=
    days * 86400 + hour * 3600 + minute * 60 + (if leap then 59 else second) - offset
  let nanos := if leap then nanos + 1000000000 else nanos
  if h : nanos < 2000000000 then
    if hour < 24 ∧ minute < 60 ∧ second ≤ 60 ∧ dayNumber (-262143) 1 1 ≤ seconds.fdiv 86400
        ∧ seconds.fdiv 86400 ≤ dayNumber 262142 12 31 then
      some { seconds, nanos, nanos_lt := h }
    else none
  else none

/-- The instant that a timestamp stands for. -/
def ofText? (s : String) : Option Instant := do
  let (year, cs) ← year? s.toList
  let (month, cs) ← number? 2 (← mark? '-' cs)
  let (day, cs) ← number? 2 (← mark? '-' cs)
  let (hour, cs) ← number? 2 (← timeMark? cs)
  let (minute, cs) ← number? 2 (← mark? ':' cs)
  let (second, cs) ← number? 2 (← mark? ':' cs)
  let (nanos, cs) ← fraction? cs
  let (offset, cs) ← offset? cs
  if isDate year month day ∧ cs.all Text.isBlank then
    ofLocal? (dayNumber year month day) hour minute second nanos offset
  else none

/-! ## §3. Writing a timestamp -/

/-- A year has four digits; it has a sign if it needs more or is below zero. -/
def yearText (year : Int) : List Char :=
  if 0 ≤ year ∧ year ≤ 9999 then Text.padded 4 year.natAbs
  else (if year < 0 then '-' else '+') :: Text.padded 4 year.natAbs

/-- The timestamp up to the second, without the final `Z`. -/
def secondsText (t : Instant) : List Char :=
  let days := t.seconds.fdiv 86400
  let ofDay := (t.seconds - days * 86400).toNat
  let second := if t.isLeap then ofDay % 60 + 1 else ofDay % 60
  let (year, month, day) := dateOf days
  yearText year ++ '-' :: Text.padded 2 month.toNat ++ '-' :: Text.padded 2 day.toNat
    ++ 'T' :: Text.padded 2 (ofDay / 3600) ++ ':' :: Text.padded 2 (ofDay / 60 % 60)
    ++ ':' :: Text.padded 2 second

/-- The timestamp to the second, as object metadata has it. -/
def text (t : Instant) : String :=
  String.ofList (t.secondsText ++ ['Z'])

/-- The timestamp to the microsecond, as leases have it. -/
def microText (t : Instant) : String :=
  String.ofList (t.secondsText ++ '.' :: Text.padded 6 (t.nanos % 1000000000 / 1000) ++ ['Z'])

end Instant

end LoggingOperator
