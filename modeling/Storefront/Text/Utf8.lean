/-
  Reading UTF-8 bytes as text, replacing what is not UTF-8.

  A well-formed sequence gives its character.  Every maximal prefix of a sequence that cannot
  be completed gives one replacement character U+FFFD, and the next byte is read afresh: the
  replacement rule of the WHATWG encoding standard.  A byte order mark at the very start is
  dropped.
-/

namespace Storefront.Text

/-- The replacement character. -/
def replacement : Char := Char.ofNat 0xFFFD

/-- The number of continuation bytes a leading byte asks for and the bounds of its second
byte, or nothing for a byte that cannot start a sequence. -/
def leadInfo (b : Nat) : Option (Nat × Nat × Nat) :=
  if 0xC2 ≤ b && b ≤ 0xDF then some (1, 0x80, 0xBF)
  else if b = 0xE0 then some (2, 0xA0, 0xBF)
  else if 0xE1 ≤ b && b ≤ 0xEC then some (2, 0x80, 0xBF)
  else if b = 0xED then some (2, 0x80, 0x9F)
  else if 0xEE ≤ b && b ≤ 0xEF then some (2, 0x80, 0xBF)
  else if b = 0xF0 then some (3, 0x90, 0xBF)
  else if 0xF1 ≤ b && b ≤ 0xF3 then some (3, 0x80, 0xBF)
  else if b = 0xF4 then some (3, 0x80, 0x8F)
  else none

/-- The value bits of a leading byte that asks for `n` continuation bytes. -/
def leadBits (b n : Nat) : Nat :=
  if n = 1 then b % 32 else if n = 2 then b % 16 else b % 8

/-- How many continuation bytes follow a lead byte, up to `n`, the first within
`[lo, hi]` and the others within `[0x80, 0xBF]`. -/
def continuationRun (bs : List Nat) (n lo hi : Nat) : Nat :=
  match bs with
  | [] => 0
  | b :: rest =>
    if n = 0 then 0
    else if lo ≤ b && b ≤ hi then 1 + continuationRun rest (n - 1) 0x80 0xBF
    else 0

/-- The characters of a list of bytes, with replacements. -/
def decodeLossyList (bs : List Nat) : List Char :=
  match bs with
  | [] => []
  | b :: rest =>
    if b < 0x80 then Char.ofNat b :: decodeLossyList rest
    else
      match leadInfo b with
      | none => replacement :: decodeLossyList rest
      | some (n, lo, hi) =>
        let k := continuationRun rest n lo hi
        if k = n then
          let v := (rest.take n).foldl (fun v c => v * 64 + c % 64) (leadBits b n)
          Char.ofNat v :: decodeLossyList (rest.drop n)
        else replacement :: decodeLossyList (rest.drop k)
termination_by bs.length
decreasing_by all_goals simp only [List.length_drop, List.length_cons]; omega

/-- The length of the longest prefix of some bytes that is well-formed UTF-8: the offset of
the first byte that starts no complete sequence. -/
def validPrefixLength (bs : List Nat) : Nat :=
  match bs with
  | [] => 0
  | b :: rest =>
    if b < 0x80 then validPrefixLength rest + 1
    else
      match leadInfo b with
      | none => 0
      | some (n, lo, hi) =>
        if continuationRun rest n lo hi = n then validPrefixLength (rest.drop n) + n + 1 else 0
termination_by bs.length
decreasing_by all_goals simp only [List.length_drop, List.length_cons]; omega

/-- The text of some bytes, with replacements and without a leading byte order mark. -/
def decodeLossy (b : ByteArray) : String :=
  let bs := b.toList.map UInt8.toNat
  let bs := if bs.take 3 = [0xEF, 0xBB, 0xBF] then bs.drop 3 else bs
  String.ofList (decodeLossyList bs)

example : decodeLossy (ByteArray.mk #[0x61, 0xE2, 0x82, 0x62]) = "a�b" := by decide +kernel
example : validPrefixLength [0x61, 0xC3, 0xA9, 0xFF, 0x62] = 3 := by decide +kernel

end Storefront.Text
