/-
  Instants of UTC time and their RFC 3339 form.

  An instant is a count of seconds since 1970-01-01T00:00:00Z (negative before) and the
  nanoseconds into that second.  Dates come from the day count by the proleptic Gregorian
  calendar (`civil`).  The written form is `YYYY-MM-DDThh:mm:ss[.fff[fff[fff]]]Z`: the
  fraction is left out when zero and otherwise given to the milli-, micro- or nanosecond,
  whichever is the shortest exact one.  The calendar reaches from -262143-01-01 to
  262142-12-31; `inRange` tells whether an instant lies within it.
-/

namespace Storefront.Time

/-- An instant: seconds since the epoch and nanoseconds into the second. -/
structure Instant where
  seconds : Int
  nanos : Nat
  deriving DecidableEq, Repr

/-- A calendar date. -/
structure Date where
  year : Int
  month : Nat
  day : Nat
  deriving DecidableEq, Repr

/-- The date `days` days after 1970-01-01, proleptic Gregorian. -/
def civil (days : Int) : Date :=
  let z := days + 719468
  let era := z / 146097
  let doe := z - era * 146097
  let yoe := (doe - doe / 1460 + doe / 36524 - doe / 146096) / 365
  let y := yoe + era * 400
  let doy := doe - (365 * yoe + yoe / 4 - yoe / 100)
  let mp := (5 * doy + 2) / 153
  let d := doy - (153 * mp + 2) / 5 + 1
  let m := if mp < 10 then mp + 3 else mp - 9
  ⟨if m ≤ 2 then y + 1 else y, m.toNat, d.toNat⟩

/-- Seconds since the epoch of the first instant after the calendar's last day,
262142-12-31. -/
def endOfCalendar : Int := 8210266876800

/-- Seconds since the epoch of the calendar's first day, -262143-01-01. -/
def startOfCalendar : Int := -8334601228800

namespace Instant

/-- Whether the instant lies within the calendar's years. -/
def inRange (t : Instant) : Bool := startOfCalendar ≤ t.seconds && t.seconds < endOfCalendar

/-- The instant `s` seconds later. -/
def addSeconds (t : Instant) (s : Int) : Instant := { t with seconds := t.seconds + s }

/-- `n` written with at least `w` digits. -/
def padded (w : Nat) (n : Nat) : String :=
  let s := toString n
  String.ofList (List.replicate (w - s.length) '0') ++ s

/-- A year: four digits at least, a sign before a negative one or one past 9999. -/
def writeYear (y : Int) : String :=
  if y < 0 then "-" ++ padded 4 y.natAbs
  else if y > 9999 then "+" ++ toString y
  else padded 4 y.toNat

/-- The fraction of a second: none, or 3, 6 or 9 digits. -/
def writeFraction (nanos : Nat) : String :=
  if nanos = 0 then ""
  else if nanos % 1000000 = 0 then "." ++ padded 3 (nanos / 1000000)
  else if nanos % 1000 = 0 then "." ++ padded 6 (nanos / 1000)
  else "." ++ padded 9 nanos

/-- The RFC 3339 form of the instant, in UTC. -/
def rfc3339 (t : Instant) : String :=
  let days := t.seconds / 86400
  let secs := (t.seconds - days * 86400).toNat
  let d := civil days
  writeYear d.year ++ "-" ++ padded 2 d.month ++ "-" ++ padded 2 d.day ++ "T" ++
    padded 2 (secs / 3600) ++ ":" ++ padded 2 (secs / 60 % 60) ++ ":" ++ padded 2 (secs % 60) ++
    writeFraction t.nanos ++ "Z"

end Instant

end Storefront.Time
