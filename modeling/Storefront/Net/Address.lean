/-
  Textual IP addresses.

  An IPv4 address is four decimal numbers below 256 joined by `.`, none with a leading zero
  and none longer than three digits.  An IPv6 address is eight groups of one to four
  hexadecimal digits joined by `:`, where one run of groups may be replaced by `::` and the
  last two groups may be written as an IPv4 address.  The readers below take an address
  from the front of a text and answer what is left, so that "the whole text is an address"
  is "the rest is empty".
-/

namespace Storefront.Net

/-- The value of a digit in a radix of at most 16. -/
def digitIn (radix : Nat) (c : Char) : Option Nat :=
  let v :=
    if c.isDigit then some (c.toNat - 48)
    else if 'a' ≤ c && c ≤ 'f' then some (c.toNat - 87)
    else if 'A' ≤ c && c ≤ 'F' then some (c.toNat - 55)
    else none
  v.filter (· < radix)

/-- A number at the front of a text: the longest run of digits, which must be non-empty, at
most `maxDigits` long, at most `bound`, and, unless allowed, without a leading zero. -/
def readNumber (radix maxDigits bound : Nat) (zeroPrefix : Bool) (cs : List Char) :
    Option (Nat × List Char) :=
  let ds := cs.takeWhile fun c => (digitIn radix c).isSome
  let value := ds.foldl (fun v c => radix * v + ((digitIn radix c).getD 0)) 0
  if ds.isEmpty || maxDigits < ds.length || bound < value then none
  else if !zeroPrefix && ds.head? = some '0' && 1 < ds.length then none
  else some (value, cs.drop ds.length)

/-- A text after a separator, unless this is the first part. -/
def afterSeparator (sep : Char) (first : Bool) (cs : List Char) : Option (List Char) :=
  if first then some cs
  else match cs with
    | c :: rest => if c = sep then some rest else none
    | [] => none

/-- An IPv4 address at the front of a text, and the rest. -/
def readIpv4 (cs : List Char) : Option (List Char) := do
  let (_, r) ← readNumber 10 3 255 false cs
  let (_, r) ← readNumber 10 3 255 false (← afterSeparator '.' false r)
  let (_, r) ← readNumber 10 3 255 false (← afterSeparator '.' false r)
  let (_, r) ← readNumber 10 3 255 false (← afterSeparator '.' false r)
  return r

/-- Groups of an IPv6 address at the front of a text, at most `limit - i` more: the number
read, whether the last two were an IPv4 address, and the rest. -/
def readGroups (limit i : Nat) (cs : List Char) : Nat × Bool × List Char :=
  if i < limit then
    let start := afterSeparator ':' (i = 0) cs
    match (if i + 1 < limit then start.bind readIpv4 else none) with
    | some rest => (i + 2, true, rest)
    | none =>
      match start.bind (readNumber 16 4 65535 true) with
      | some (_, rest) => readGroups limit (i + 1) rest
      | none => (i, false, cs)
  else (limit, false, cs)
termination_by limit - i

/-- An IPv6 address at the front of a text, and the rest. -/
def readIpv6 (cs : List Char) : Option (List Char) :=
  let (head, embedded, rest) := readGroups 8 0 cs
  if head = 8 then some rest
  else if embedded then none
  else match rest with
    | ':' :: ':' :: r => some (readGroups (8 - (head + 1)) 0 r).2.2
    | _ => none

/-- Whether a text is an IPv4 or an IPv6 address. -/
def isIpAddress (s : String) : Bool :=
  readIpv4 s.toList = some [] || readIpv6 s.toList = some []

example : isIpAddress "127.0.0.1" = true := by decide +kernel
example : isIpAddress "01.2.3.4" = false := by decide +kernel
example : isIpAddress "::1" = true := by decide +kernel
example : isIpAddress "::ffff:1.2.3.4" = true := by decide +kernel
example : isIpAddress "IPv6:::1" = false := by decide +kernel

end Storefront.Net
