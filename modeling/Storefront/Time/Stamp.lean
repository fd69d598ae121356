/-
  Recognising RFC 3339 time stamps.

  A stamp is `YYYY-MM-DD`, then `T`, `t` or a blank, then `hh:mm:ss`, an optional fraction
  of one or more digits, and `Z`, `z` or an offset `+hh:mm` / `-hh:mm`.  The fields must make
  a real date and time: months 1 to 12, days within the month, hours below 24, minutes below
  60, seconds up to 60 (a leap second), offsets below 24 hours.
-/

namespace Storefront.Time

/-- The value of `n` decimal digits at the front of a list, and the rest. -/
def takeDigits (n : Nat) (cs : List Char) : Option (Nat × List Char) :=
  let ds := cs.take n
  if ds.length = n && ds.all Char.isDigit then
    some (ds.foldl (fun v c => 10 * v + (c.toNat - 48)) 0, cs.drop n)
  else none

/-- Whether a year is a leap year of the Gregorian calendar. -/
def isLeapYear (y : Nat) : Bool :=
  y % 4 = 0 && (y % 100 ≠ 0 || y % 400 = 0)

/-- The number of days of a month. -/
def daysInMonth (y m : Nat) : Nat :=
  if m = 2 then (if isLeapYear y then 29 else 28)
  else if m = 4 || m = 6 || m = 9 || m = 11 then 30
  else 31

/-- Whether the rest of a stamp after the seconds is a fraction, if any, and a zone. -/
def isZoneTail (cs : List Char) : Bool :=
  let afterFraction := match cs with
    | '.' :: rest =>
      let ds := rest.takeWhile Char.isDigit
      if ds.isEmpty then none else some (rest.drop ds.length)
    | _ => some cs
  match afterFraction with
  | some ['Z'] | some ['z'] => true
  | some (sign :: rest) =>
    (sign = '+' || sign = '-') &&
      match takeDigits 2 rest with
      | some (h, ':' :: rest') =>
        match takeDigits 2 rest' with
        | some (m, []) => h < 24 && m < 60
        | _ => false
      | _ => false
  | _ => false

/-- Whether a text is an RFC 3339 time stamp. -/
def isStamp (s : String) : Bool :=
  let cs := s.toList
  match takeDigits 4 cs with
  | some (y, '-' :: r1) =>
    match takeDigits 2 r1 with
    | some (mo, '-' :: r2) =>
      match takeDigits 2 r2 with
      | some (d, sep :: r3) =>
        (sep = 'T' || sep = 't' || sep = ' ') && 1 ≤ mo && mo ≤ 12 && 1 ≤ d &&
          d ≤ daysInMonth y mo &&
          match takeDigits 2 r3 with
          | some (h, ':' :: r4) =>
            match takeDigits 2 r4 with
            | some (mi, ':' :: r5) =>
              match takeDigits 2 r5 with
              | some (se, rest) => h < 24 && mi < 60 && se ≤ 60 && isZoneTail rest
              | none => false
            | _ => false
          | _ => false
      | _ => false
    | _ => false
  | _ => false

example : isStamp "2026-11-13T10:20:30.123Z" = true := by decide
example : isStamp "2026-02-29T10:20:30Z" = false := by decide

end Storefront.Time
