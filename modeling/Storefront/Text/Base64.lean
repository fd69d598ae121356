/-
  Base64 with the URL-safe alphabet and no padding.

  Each three bytes become four characters of `A-Z a-z 0-9 - _`; a last group of one or two
  bytes becomes two or three characters.  Reading is strict: only alphabet characters, no
  `=`, no length that leaves a single character over, and the bits that a short last group
  does not use must be zero, so that every text read back is the one that `encode` writes.
-/

namespace Storefront.Text.Base64

/-- The character of a six-bit value. -/
def digitChar (n : Nat) : Char :=
  if n < 26 then Char.ofNat (65 + n)
  else if n < 52 then Char.ofNat (71 + n)
  else if n < 62 then Char.ofNat (n - 4)
  else if n = 62 then '-' else '_'

/-- The six-bit value of a character, if it is in the alphabet. -/
def digitValue (c : Char) : Option Nat :=
  if 'A' ≤ c && c ≤ 'Z' then some (c.toNat - 65)
  else if 'a' ≤ c && c ≤ 'z' then some (c.toNat - 71)
  else if '0' ≤ c && c ≤ '9' then some (c.toNat + 4)
  else if c = '-' then some 62
  else if c = '_' then some 63
  else none

/-- The characters of a group of up to three bytes. -/
def encodeGroup : List Nat → List Char
  | [a] => [digitChar (a / 4), digitChar (a % 4 * 16)]
  | [a, b] => [digitChar (a / 4), digitChar (a % 4 * 16 + b / 16), digitChar (b % 16 * 4)]
  | [a, b, c] =>
    [digitChar (a / 4), digitChar (a % 4 * 16 + b / 16), digitChar (b % 16 * 4 + c / 64),
     digitChar (c % 64)]
  | _ => []

/-- The text of a list of bytes. -/
def encodeList : List Nat → List Char
  | a :: b :: c :: rest => encodeGroup [a, b, c] ++ encodeList rest
  | rest => encodeGroup rest

/-- The text of some bytes. -/
def encode (b : ByteArray) : String :=
  String.ofList (encodeList (b.toList.map UInt8.toNat))

/-- The bytes of a group of two to four six-bit values, if its unused bits are zero. -/
def decodeGroup : List Nat → Option (List Nat)
  | [a, b] => if b % 16 = 0 then some [a * 4 + b / 16] else none
  | [a, b, c] => if c % 4 = 0 then some [a * 4 + b / 16, b % 16 * 16 + c / 4] else none
  | [a, b, c, d] => some [a * 4 + b / 16, b % 16 * 16 + c / 4, c % 4 * 64 + d]
  | _ => none

/-- The bytes of a list of six-bit values. -/
def decodeList : List Nat → Option (List Nat)
  | [] => some []
  | a :: b :: c :: d :: e :: rest => do
    let g ← decodeGroup [a, b, c, d]
    let r ← decodeList (e :: rest)
    return g ++ r
  | rest => decodeGroup rest

/-- The bytes of a text, if it is a strict encoding. -/
def decode (s : String) : Option ByteArray := do
  let values ← s.toList.mapM digitValue
  let bytes ← decodeList values
  return ByteArray.mk (bytes.map Nat.toUInt8).toArray

example : encode "abc?".toUTF8 = "YWJjPw" := by decide +kernel
example : decode "YWJjPw" = some "abc?".toUTF8 := by decide +kernel
example : decode "YWJjPx" = none := by decide +kernel

end Storefront.Text.Base64
