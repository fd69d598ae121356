import Storefront.Number.Binary64

/-
  The shortest decimal that reads back as a given binary64, and its written form.

  A binary64 `x = m · 2^q` stands for every real that rounds to it: the interval between the
  midpoints to its two neighbours, ends included exactly when `m` is even (a tie on reading
  goes to the even significand).  `shortest` tries 1, 2, … 17 significant digits; on each grid
  it takes the two grid points around `x`, keeps those inside the interval, and of two the
  nearer (an exact tie to the even digit string).  The first grid with a point wins, so the
  digits are the fewest that read back, and of those the nearest to `x`.  Seventeen digits
  always suffice.

  `Decimal.write` gives the written form used for JSON numbers and in messages: positional
  with a `.0` when the decimal point falls within the first seventeen places, `0.000ddd` down
  to four zeros after the point, and `d.ddde±k` beyond, the exponent always signed.
-/

namespace Storefront.Number

/-- A positive decimal `digits · 10^exp`, `digits` without trailing zeros. -/
structure Decimal where
  digits : Nat
  exp : Int
  deriving DecidableEq, Repr

namespace Decimal

/-- Compares `a · 10^i · 2^j` with `b · 10^k · 2^l`, all exponents integers, exactly. -/
def compareScaled (a : Nat) (i j : Int) (b : Nat) (k l : Int) : Ordering :=
  let pos (z : Int) : Nat := z.toNat
  let lhs :=
    a * Nat.pow 10 (pos i) * Nat.pow 2 (pos j) * Nat.pow 10 (pos (-k)) * Nat.pow 2 (pos (-l))
  let rhs :=
    b * Nat.pow 10 (pos k) * Nat.pow 2 (pos l) * Nat.pow 10 (pos (-i)) * Nat.pow 2 (pos (-j))
  compare lhs rhs

/-- Removes trailing zeros from the digits, moving them into the exponent. -/
def normalize (digits : Nat) (exp : Int) (fuel : Nat) : Decimal :=
  match fuel with
  | 0 => ⟨digits, exp⟩
  | fuel + 1 =>
    if digits ≠ 0 ∧ digits % 10 = 0 then normalize (digits / 10) (exp + 1) fuel
    else ⟨digits, exp⟩

end Decimal

namespace Binary64

/-- The interval of reals that read back as a positive `x`, as `(low, high, inclusive)` in
units of `2^(exponent - 2)`: the point itself is `4 · significand`. -/
def readBackInterval (x : Binary64) : Nat × Nat × Bool :=
  let m := x.significand
  let lowGap := if x.fraction = 0 ∧ x.biased > 1 then 1 else 2
  (4 * m - lowGap, 4 * m + 2, m % 2 == 0)

/-- `⌊log10 x⌋` for a positive `x`, from a bit-length estimate corrected exactly. -/
def decimalExponent (x : Binary64) : Int :=
  let m := x.significand
  let q := x.exponent
  let bits : Int := (Nat.log2 m : Int) + q
  let guess : Int := (bits * 30103) / 100000
  -- `10^e ≤ x` decides each candidate
  let atMost (e : Int) : Bool :=
    Decimal.compareScaled 1 e 0 m 0 q != Ordering.gt
  if !atMost guess then guess - 1
  else if atMost (guess + 1) then guess + 1
  else guess

/-- Whether `d · 10^k` lies in the read-back interval of `x`. -/
def readsBack (x : Binary64) (d : Nat) (k : Int) : Bool :=
  let (lo, hi, incl) := x.readBackInterval
  let q := x.exponent - 2
  let aboveLow := Decimal.compareScaled d k 0 lo 0 q
  let belowHigh := Decimal.compareScaled d k 0 hi 0 q
  let okLow := aboveLow == Ordering.gt || (incl && aboveLow == Ordering.eq)
  let okHigh := belowHigh == Ordering.lt || (incl && belowHigh == Ordering.eq)
  okLow && okHigh

/-- The candidate of the grid `10^k` that is nearest to `x`, among `lower` and `lower + 1`
and only those that read back; a tie goes to the even one. -/
def pickOnGrid (x : Binary64) (lower : Nat) (k : Int) : Option Nat :=
  let m := x.significand
  let q := x.exponent
  let upper := lower + 1
  let okLower := x.readsBack lower k
  let okUpper := x.readsBack upper k
  if okLower && okUpper then
    -- distances `x - lower·10^k` and `upper·10^k - x`, compared as `2x` against the sum
    match Decimal.compareScaled (2 * m) 0 q (lower + upper) k 0 with
    | .lt => some lower
    | .gt => some upper
    | .eq => some (if lower % 2 == 0 then lower else upper)
  else if okLower then some lower
  else if okUpper then some upper
  else none

/-- `⌊x / 10^k⌋` for a positive `x`. -/
def floorOnGrid (x : Binary64) (k : Int) : Nat :=
  let m := x.significand
  let q := x.exponent
  let num := m * Nat.pow 2 q.toNat * Nat.pow 10 (-k).toNat
  let den := Nat.pow 10 k.toNat * Nat.pow 2 (-q).toNat
  num / den

/-- The fewest significant digits, from `p` up to 17, that read back as the positive `x`. -/
def shortestFrom (x : Binary64) (e : Int) (p : Nat) (fuel : Nat) : Decimal :=
  match fuel with
  | 0 =>
    let k := e - 16
    Decimal.normalize (x.floorOnGrid k) k 400
  | fuel + 1 =>
    let k := e - (p : Int) + 1
    match x.pickOnGrid (x.floorOnGrid k) k with
    | some d => Decimal.normalize d k 400
    | none => x.shortestFrom e (p + 1) fuel

/-- The shortest decimal that reads back as the positive, nonzero `x`; of several with that
many digits, the nearest. -/
def shortest (x : Binary64) : Decimal :=
  x.shortestFrom x.decimalExponent 1 17

end Binary64

namespace Decimal

/-- `n` zeros. -/
def zeros (n : Nat) : String := String.ofList (List.replicate n '0')

/-- The written form: the digit string placed by its decimal point `point = length + exp`
(`10^(point-1) ≤ value < 10^point`). -/
def write (d : Decimal) : String :=
  let s := toString d.digits
  let len : Int := s.length
  let point := len + d.exp
  if 0 ≤ d.exp ∧ point ≤ 16 then
    s ++ zeros d.exp.toNat ++ ".0"
  else if 0 < point ∧ point ≤ 16 then
    String.ofList (s.toList.take point.toNat) ++ "." ++ String.ofList (s.toList.drop point.toNat)
  else if -5 < point ∧ point ≤ 0 then
    "0." ++ zeros (-point).toNat ++ s
  else
    let e := point - 1
    let mant :=
      if len = 1 then s
      else String.ofList (s.toList.take 1) ++ "." ++ String.ofList (s.toList.drop 1)
    mant ++ (if 0 ≤ e then "e+" else "e") ++ toString e

end Decimal

namespace Binary64

/-- The written form of a binary64: `0.0` for zero, a leading `-` for the negative sign. -/
def write (x : Binary64) : String :=
  let sign := if x.negative then "-" else ""
  if x.isZero then sign ++ "0.0" else sign ++ x.shortest.write

end Binary64

end Storefront.Number
