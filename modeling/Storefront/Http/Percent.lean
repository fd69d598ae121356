/-
  Percent-encoding of URL paths.

  Decoding turns each `%` followed by two hexadecimal digits into that byte and leaves every
  other byte, a lone `%` included, as it is.  Encoding writes every byte outside printable
  ASCII, and the characters that may not stand in a path, as `%` and two uppercase digits.
-/

namespace Storefront.Http

/-- The value of a hexadecimal digit. -/
def hexValue (b : Nat) : Option Nat :=
  if 48 ≤ b && b ≤ 57 then some (b - 48)
  else if 65 ≤ b && b ≤ 70 then some (b - 55)
  else if 97 ≤ b && b ≤ 102 then some (b - 87)
  else none

/-- The bytes of a percent-encoded list of bytes. -/
def percentDecodeList : List Nat → List Nat
  | [] => []
  | 37 :: a :: b :: rest =>
    match hexValue a, hexValue b with
    | some x, some y => (16 * x + y) :: percentDecodeList rest
    | _, _ => 37 :: percentDecodeList (a :: b :: rest)
  | c :: rest => c :: percentDecodeList rest

/-- The text of a percent-encoded path segment, if its bytes are UTF-8. -/
def percentDecode (s : String) : Option String :=
  String.fromUTF8? (ByteArray.mk ((percentDecodeList (s.toUTF8.toList.map UInt8.toNat)).map
    Nat.toUInt8).toArray)

/-- Whether a byte is written as it is in a request path. -/
def staysInPath (b : Nat) : Bool :=
  32 < b && b < 127 && !([34, 60, 62, 92, 94, 96, 123, 124, 125].contains b)

/-- The uppercase hexadecimal digit of a value below 16. -/
def upperHex (n : Nat) : Char :=
  if n < 10 then Char.ofNat (48 + n) else Char.ofNat (55 + n)

/-- A path with the bytes that may not stand in it percent-encoded. -/
def percentEncodePath (s : String) : String :=
  String.ofList (s.toUTF8.toList.flatMap fun b =>
    let n := b.toNat
    if staysInPath n then [Char.ofNat n] else ['%', upperHex (n / 16), upperHex (n % 16)])

example : percentDecode "a%20b%E2%9C%93" = some "a b✓" := by decide +kernel
example : percentDecode "%FF" = none := by decide +kernel

end Storefront.Http
