/-
  Double-precision binary floating point, computed exactly.

  A finite binary64 number is a sign, a biased exponent and a 52-bit fraction; its magnitude is
  `significand · 2^exponent` with `significand = 2^52 + fraction` (or `fraction` alone when the
  biased exponent is 0, the subnormal range).  Every operation here goes through one rounding
  function, `roundRatio`, which sends an exact positive rational to the nearest binary64, a tie
  going to the even significand, and reports an overflow instead of producing an infinity.
  Products and quotients are rounded from their exact values, so they agree with the IEEE 754
  operations in round-to-nearest mode.

  Main definitions: `Binary64.roundRatio`, `Binary64.ofNat`, `Binary64.mul`, `Binary64.div`,
  `Binary64.pow10`.
-/

namespace Storefront.Number

/-- A finite binary64 number: a sign, a biased exponent below 2047, and a fraction below
`2^52`. -/
structure Binary64 where
  negative : Bool
  biased : Nat
  fraction : Nat
  deriving DecidableEq, Repr

namespace Binary64

/-- Width of the fraction field. -/
def fractionBits : Nat := 52

/-- The hidden leading bit of a normal significand, `2^52`. -/
def hidden : Nat := Nat.pow 2 52

/-- Positive zero. -/
def zero : Binary64 := ⟨false, 0, 0⟩

/-- The integer significand: the fraction with its hidden bit, or the fraction alone for a
subnormal number. -/
def significand (x : Binary64) : Nat :=
  if x.biased = 0 then x.fraction else hidden + x.fraction

/-- The power of two that scales the significand. -/
def exponent (x : Binary64) : Int :=
  if x.biased = 0 then -1074 else (x.biased : Int) - 1075

/-- Zero of either sign. -/
def isZero (x : Binary64) : Bool := x.biased == 0 && x.fraction == 0

/-- The same magnitude with the other sign. -/
def neg (x : Binary64) : Binary64 := { x with negative := !x.negative }

/-- `num / den` rounded to an integer, a tie going to the even neighbour. -/
def roundHalfEven (num den : Nat) : Nat :=
  let q := num / den
  let r := num % den
  if 2 * r > den || (2 * r == den && q % 2 == 1) then q + 1 else q

/-- `num / den` scaled by `2^(-e)`, as an exact pair of naturals. -/
def scaled (num den : Nat) (e : Int) : Nat × Nat :=
  if e ≥ 0 then (num, den * Nat.pow 2 e.toNat) else (num * Nat.pow 2 (-e).toNat, den)

/-- The exponent `e` of the binade of `num / den`: `2^52 ≤ num / den / 2^e < 2^53`, found from
the bit lengths and corrected by one step either way. -/
def binade (num den : Nat) : Int :=
  let guess : Int := (Nat.log2 num : Int) - (Nat.log2 den : Int) - 52
  let below (e : Int) : Bool :=
    let (n, d) := scaled num den e
    n < hidden * d
  if below guess then guess - 1
  else
    let (n, d) := scaled num den (guess + 1)
    if n ≥ hidden * d then guess + 1 else guess

/-- Packs a significand and exponent that already lie in range. -/
def pack (negative : Bool) (m : Nat) (e : Int) : Binary64 :=
  if m < hidden then ⟨negative, 0, m⟩
  else ⟨negative, (e + 1075).toNat, m - hidden⟩

/-- The binary64 nearest to `num / den` (with `den > 0`), carrying the sign `negative`; a tie
goes to the even significand.  `none` when the magnitude rounds to `2^1024` or beyond. -/
def roundRatio (negative : Bool) (num den : Nat) : Option Binary64 :=
  if num = 0 then some ⟨negative, 0, 0⟩
  else
    let e := max (binade num den) (-1074)
    let (n, d) := scaled num den e
    let m := roundHalfEven n d
    let (m, e) := if m = 2 * hidden then (hidden, e + 1) else (m, e)
    if e > 971 then none else some (pack negative m e)

/-- The binary64 nearest to a natural number (always in range below `2^1024`). -/
def ofNat (n : Nat) : Binary64 :=
  (roundRatio false n 1).getD zero

/-- The exact value `significand · 2^exponent` as a fraction `(num, den)`. -/
def ratio (x : Binary64) : Nat × Nat :=
  let e := x.exponent
  if e ≥ 0 then (x.significand * Nat.pow 2 e.toNat, 1) else (x.significand, Nat.pow 2 (-e).toNat)

/-- The correctly rounded product; `none` on overflow. -/
def mul (x y : Binary64) : Option Binary64 :=
  let (a, b) := x.ratio
  let (c, d) := y.ratio
  roundRatio (x.negative != y.negative) (a * c) (b * d)

/-- The correctly rounded quotient by a nonzero divisor; `none` on overflow. -/
def div (x y : Binary64) : Option Binary64 :=
  let (a, b) := x.ratio
  let (c, d) := y.ratio
  if c = 0 then none else roundRatio (x.negative != y.negative) (a * d) (b * c)

/-- The binary64 nearest to `10^n`, for `n ≤ 308`. -/
def pow10 (n : Nat) : Binary64 :=
  (roundRatio false (Nat.pow 10 n) 1).getD zero

end Binary64

end Storefront.Number
