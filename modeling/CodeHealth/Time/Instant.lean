import CodeHealth.Decimal.Power
import CodeHealth.Text.Class

/-!
# Instants

An instant is a number of seconds since the start of 1970 and nanoseconds. A leap second is told as
the second before it with a full second of nanoseconds more.

* `Instant.daysSince` is the number of whole days between two instants;
* `Instant.parse?` reads a date with a time and its distance to universal time.
-/

namespace CodeHealth

/-- A point in time, counted in `seconds` and `nanos`, which tell leap seconds apart (`isLeap`). -/
structure Instant where
  /-- Seconds since the start of 1970. -/
  seconds : Int
  /-- Nanoseconds after that; a second or more of them in a leap second. -/
  nanos : Nat
  deriving DecidableEq, Repr

namespace Instant

/-- The seconds of a day, without a leap second. `secondOfDay` counts up to it. -/
def secondsPerDay : Int := 86400

/-- The nanoseconds of a second, from which on `nanos` are those of a leap second. -/
def nanosPerSecond : Int := 1000000000

/-- The second of the day at `t`. -/
def secondOfDay (t : Instant) : Int := t.seconds % secondsPerDay

/-- Whether the instant `t` lies in a leap second. -/
def isLeap (t : Instant) : Bool := nanosPerSecond ≤ t.nanos

/-- The second that a leap second adds to a difference. It counts when the other instant is at a
different time of day (`secondOfDay`), on the far side of it. -/
def leapAdjustment (later earlier : Instant) : Int :=
  if earlier.secondOfDay < later.secondOfDay then if earlier.isLeap then 1 else 0
  else if later.secondOfDay < earlier.secondOfDay then if later.isLeap then -1 else 0
  else 0

/-- The nanoseconds from the instant `earlier` to `later`, leap seconds included by
`leapAdjustment`. -/
def nanosSince (later earlier : Instant) : Int :=
  (later.seconds - earlier.seconds + leapAdjustment later earlier) * nanosPerSecond +
    ((later.nanos : Int) - earlier.nanos)

/-- The whole days from the instant `earlier` to `later`, toward zero. -/
def daysSince (later earlier : Instant) : Int :=
  (later.nanosSince earlier).tdiv (secondsPerDay * nanosPerSecond)

/-! ### Dates -/

/-- Whether a `year` has a leap day. -/
def isLeapYear (year : Nat) : Bool := year % 4 == 0 && (year % 100 != 0 || year % 400 == 0)

/-- The number of days of the `month` of a `year`. -/
def daysOfMonth (year month : Nat) : Nat :=
  if month == 2 then if isLeapYear year then 29 else 28
  else if month == 4 || month == 6 || month == 9 || month == 11 then 30
  else 31

/-- The days before a `year`, counted from the start of year 0. -/
def daysBeforeYear (year : Nat) : Nat :=
  if year == 0 then 0
  else year * 365 + ((year - 1) / 4 + 1) - ((year - 1) / 100 + 1) + ((year - 1) / 400 + 1)

/-- The days of a `year` before a `month`. -/
def daysBeforeMonth (year month : Nat) : Nat :=
  (List.range (month - 1)).foldr (fun m days => daysOfMonth year (m + 1) + days) 0

/-- The days from the start of 1970 to a date, negative before (`daysBeforeYear`). -/
def dayNumber (year month day : Nat) : Int :=
  (daysBeforeYear year + daysBeforeMonth year month + (day - 1) : Nat) - (daysBeforeYear 1970 : Int)

/-! ### Reading -/

open CodeHealth.Text

/-- Reads exactly `count` digits as a number from `low` to `high`. -/
def number? (count low high : Nat) (text : List Char) : Option (Nat × List Char) :=
  let digits := text.take count
  let value := numeral 10 digits
  if digits.length == count && digits.all isDigit && low ≤ value && value ≤ high then
    some (value, text.drop count)
  else none

/-- Reads a fraction of a second that may be missing, in nanoseconds. Further digits are cut off, so
`parse?` takes any number of them. -/
def fraction? : List Char → Option (Nat × List Char)
  | '.' :: rest =>
    match rest.takeWhile isDigit with
    | [] => none
    | digits =>
      let first := digits.take 9
      let value := numeral 10 first
      some (value * tenTo (9 - first.length), rest.drop digits.length)
  | text => some (0, text)

/-- Reads the distance to universal time, in seconds: `Z`, or hours and minutes with a sign. -/
def offset? : List Char → Option (Int × List Char)
  | [] => none
  | c :: rest =>
    if c == 'Z' || c == 'z' then some (0, rest)
    else if c == '+' || c == '-' || c == '−' then do
      let (hours, rest) ← number? 2 0 23 rest
      let (minutes, rest) ← number? 2 0 59 (← mark? [':'] rest)
      let distance : Int := hours * 3600 + minutes * 60
      some (if c == '+' then distance else -distance, rest)
    else none

/-- Reads a date, a time and the distance to universal time (`offset?`), and nothing else. -/
def parse? (text : List Char) : Option Instant := do
  let (year, rest) ← number? 4 0 9999 text
  let (month, rest) ← number? 2 1 12 (← mark? ['-'] rest)
  let (day, rest) ← number? 2 1 (daysOfMonth year month) (← mark? ['-'] rest)
  let (hour, rest) ← number? 2 0 23 (← mark? ['T', 't', ' '] rest)
  let (minute, rest) ← number? 2 0 59 (← mark? [':'] rest)
  let (second, rest) ← number? 2 0 60 (← mark? [':'] rest)
  let (nanos, rest) ← fraction? rest
  let (offset, rest) ← offset? rest
  if !rest.isEmpty then none
  else
    -- A leap second is the second before it, with a second more of nanoseconds.
    let leap := second == 60
    let second := if leap then 59 else second
    let ofDay : Int := hour * 3600 + minute * 60 + second
    some ⟨dayNumber year month day * secondsPerDay + ofDay - offset,
      if leap then nanos + 1000000000 else nanos⟩

end Instant

end CodeHealth
