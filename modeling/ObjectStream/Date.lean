/-
  ObjectStream.Date

  Instants and their date text in message heads, as in
  `Sun, 06 Nov 1994 08:49:37 GMT`.
-/

namespace ObjectStream

/-- A point in time, in nanoseconds since the start of 1970. -/
structure Instant where
  nanoseconds : Int
deriving DecidableEq, Repr

namespace Instant

/-- The instant some seconds and nanoseconds after the start of 1970. -/
def ofSeconds (seconds : Int) (nanoseconds : Nat) : Instant :=
  ⟨seconds * 1000000000 + nanoseconds⟩

end Instant

/-- A moment of the calendar, to the second. -/
structure Date where
  year : Nat
  month : Nat
  day : Nat
  /-- Days since Sunday. -/
  weekday : Nat
  /-- Seconds since midnight. -/
  second : Nat
deriving DecidableEq, Repr

namespace Date

/-- The first second, counted from 1970, that is in the year 10000. -/
def secondsLimit : Nat := 253402300800

/-- The year, month and day that lie `days` days after 1 January 1970. Days are counted from
1 March of the year 0, so that the leap day ends a year; eras have 400 years. -/
def civil (days : Nat) : Nat × Nat × Nat :=
  let shifted := days + 719468
  let era := shifted / 146097
  let dayOfEra := shifted % 146097
  let yearOfEra := (dayOfEra - dayOfEra / 1460 + dayOfEra / 36524 - dayOfEra / 146096) / 365
  let dayOfYear := dayOfEra - (365 * yearOfEra + yearOfEra / 4 - yearOfEra / 100)
  let monthFromMarch := (5 * dayOfYear + 2) / 153
  let day := dayOfYear - (153 * monthFromMarch + 2) / 5 + 1
  let month := if monthFromMarch < 10 then monthFromMarch + 3 else monthFromMarch - 9
  let year := yearOfEra + era * 400 + (if month ≤ 2 then 1 else 0)
  (year, month, day)

/-- The date that many seconds after the start of 1970, which was a Thursday. -/
def ofSeconds (seconds : Nat) : Date :=
  let days := seconds / 86400
  let (year, month, day) := civil days
  { year, month, day, weekday := (days + 4) % 7, second := seconds % 86400 }

/-- The date of an instant from 1970 to 9999; a part of a second is dropped. -/
def ofInstant? (at_ : Instant) : Option Date :=
  if at_.nanoseconds < 0 then none
  else
    let seconds := at_.nanoseconds.toNat / 1000000000
    if seconds < secondsLimit then some (ofSeconds seconds) else none

/-- The names of the days, from Sunday. -/
def weekdayNames : List String := ["Sun", "Mon", "Tue", "Wed", "Thu", "Fri", "Sat"]

/-- The names of the months. -/
def monthNames : List String :=
  ["Jan", "Feb", "Mar", "Apr", "May", "Jun", "Jul", "Aug", "Sep", "Oct", "Nov", "Dec"]

/-- The last `width` decimal digits of a number. -/
def digits : Nat → Nat → List Char
  | 0, _ => []
  | width + 1, n => digits width (n / 10) ++ [Char.ofNat (48 + n % 10)]

/-- The date as the text of a `Date` field. -/
def text (date : Date) : String :=
  let pair n := String.ofList (digits 2 n)
  weekdayNames.getD date.weekday "" ++ ", " ++ pair date.day ++ " " ++
    monthNames.getD (date.month - 1) "" ++ " " ++ String.ofList (digits 4 date.year) ++ " " ++
    pair (date.second / 3600) ++ ":" ++ pair (date.second / 60 % 60) ++ ":" ++
    pair (date.second % 60) ++ " GMT"

end Date

/-- The text of a `Date` field for an instant, if it has one. -/
def Instant.httpDate? (at_ : Instant) : Option String :=
  (Date.ofInstant? at_).map Date.text

end ObjectStream
