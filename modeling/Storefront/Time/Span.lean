/-
  Written lengths of time.

  A length of whole milliseconds is written in the largest unit that leaves a whole part:
  seconds when it is at least one second (`1.5s`, `30s`), else milliseconds (`20ms`), and
  `0ns` for nothing.  A fraction is written with its trailing zeros removed.
-/

namespace Storefront.Time

/-- The digits of a fraction `n / 10 ^ width`, without trailing zeros. -/
def fractionDigits (n width : Nat) : String :=
  let s := toString n
  let padded := String.ofList (List.replicate (width - s.length) '0') ++ s
  String.ofList (padded.toList.reverse.dropWhile (· = '0')).reverse

/-- The written form of a length of time in milliseconds. -/
def spanText (ms : Nat) : String :=
  if ms ≥ 1000 then
    let frac := ms % 1000
    toString (ms / 1000) ++ (if frac = 0 then "" else "." ++ fractionDigits frac 3) ++ "s"
  else if ms = 0 then "0ns"
  else toString ms ++ "ms"

example : spanText 20 = "20ms" ∧ spanText 1500 = "1.5s" ∧ spanText 30000 = "30s" := by
  decide +kernel

end Storefront.Time
