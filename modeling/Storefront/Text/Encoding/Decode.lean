import Storefront.Text.Encoding.Label
import Storefront.Text.Encoding.Jis
import Storefront.Text.Encoding.Korean
import Storefront.Text.Encoding.Chinese
import Storefront.Text.Utf8

/-
  Decoding bytes to text with an encoding of the Encoding Standard.

  Each decoder reads the bytes from the front and answers the characters they stand for; a
  byte sequence that stands for nothing gives one replacement character U+FFFD.  When such a
  sequence ends in a byte that could start something else (an ASCII byte after a lead byte,
  say), that byte is read again, afresh: the decoders below put it back in front of the rest.
  Every step takes at least one byte for good, so the number of bytes bounds the steps.

  Before any decoder runs, a byte order mark at the start decides the encoding by itself and
  is dropped: `EF BB BF` for UTF-8, `FE FF` for UTF-16BE, `FF FE` for UTF-16LE.
-/

namespace Storefront.Text.Encoding

/-- The code points of an index, one per pointer. -/
def indexOf (points : String) : Array Char :=
  points.toList.toArray

/-- The JIS X 0208 index. -/
def jis0208 : Array Char := indexOf jis0208Points

/-- The JIS X 0212 index. -/
def jis0212 : Array Char := indexOf jis0212Points

/-- The EUC-KR index. -/
def eucKrIndex : Array Char := indexOf eucKrPoints

/-- The two-byte GB18030 index. -/
def gb18030Index : Array Char := indexOf gb18030Points

/-- The Big5 index. -/
def big5Index : Array Char := indexOf big5Points

/-- The code point of an index at a pointer; `U+FFFF` stands for none. -/
def lookup (index : Array Char) (pointer : Nat) : Option Char :=
  match index[pointer]? with
  | some c => if c.toNat = 0xFFFF then none else some c
  | none => none

/-- Whether `lo ≤ b ≤ hi`. -/
def within (b lo hi : Nat) : Bool :=
  lo ≤ b && b ≤ hi

/-- The character of a code point known to be a scalar value. -/
def point (n : Nat) : Char :=
  Char.ofNat n

/-- The characters of a two-byte sequence whose index lookup gave `found`: the character, or
a replacement followed by the trail byte read again when it is ASCII. -/
def afterLead (found : Option Char) (trail : Nat) (rest : List Nat) (go : List Nat → List Char) :
    List Char :=
  match found with
  | some c => c :: go rest
  | none => replacement :: go (if trail < 0x80 then trail :: rest else rest)

/-! ## UTF-16 -/

/-- The code unit of two bytes in the given byte order. -/
def codeUnit (bigEndian : Bool) (a b : Nat) : Nat :=
  if bigEndian then a * 256 + b else b * 256 + a

/-- UTF-16 in either byte order.  A leading surrogate not followed by a trailing one gives a
replacement and the following unit is read afresh; a lone trailing surrogate, and an odd byte
or a leading surrogate at the end, give one replacement. -/
def decodeUtf16 (bigEndian : Bool) : List Nat → Nat → List Char
  | _, 0 => []
  | [], _ => []
  | [_], _ => [replacement]
  | a :: b :: rest, fuel + 1 =>
    let u := codeUnit bigEndian a b
    if within u 0xD800 0xDBFF then
      match rest with
      | c :: d :: more =>
        let v := codeUnit bigEndian c d
        if within v 0xDC00 0xDFFF then
          point (0x10000 + (u - 0xD800) * 1024 + (v - 0xDC00)) :: decodeUtf16 bigEndian more fuel
        else replacement :: decodeUtf16 bigEndian rest fuel
      | _ => [replacement]
    else if within u 0xDC00 0xDFFF then replacement :: decodeUtf16 bigEndian rest fuel
    else point u :: decodeUtf16 bigEndian rest fuel

/-! ## Single-byte encodings -/

/-- A single-byte encoding: ASCII below 0x80, the table from 0x80 up. -/
def decodeSingleByte (t : SingleByte) (bs : List Nat) : List Char :=
  let upper := indexOf t.upper
  bs.map fun b => if b < 0x80 then point b else (lookup upper (b - 0x80)).getD replacement

/-- The user-defined encoding: ASCII below 0x80, and `U+F780 + (b - 0x80)` from 0x80 up. -/
def decodeUserDefined (bs : List Nat) : List Char :=
  bs.map fun b => if b < 0x80 then point b else point (0xF780 + b - 0x80)

/-! ## Chinese -/

/-- The code point of a four-byte GB18030 pointer. -/
def gb18030RangePoint (pointer : Nat) : Option Char :=
  if (39419 < pointer && pointer < 189000) || 1237575 < pointer then none
  else if pointer = 7457 then some (point 0xE7C7)
  else if 189000 ≤ pointer then some (point (0x10000 + pointer - 189000))
  else
    match (gb18030Ranges.filter fun r => r.1 ≤ pointer).getLast? with
    | some (start, cp) => some (point (cp + pointer - start))
    | none => none

/-- GB18030 (and GBK): ASCII, 0x80 for the euro sign, two-byte sequences from the index and
four-byte sequences (lead, digit, lead, digit) from the ranges. -/
def decodeGb18030 : List Nat → Nat → List Char
  | _, 0 => []
  | [], _ => []
  | b :: rest, fuel + 1 =>
    if b < 0x80 then point b :: decodeGb18030 rest fuel
    else if b = 0x80 then point 0x20AC :: decodeGb18030 rest fuel
    else if b = 0xFF then replacement :: decodeGb18030 rest fuel
    else
      match rest with
      | [] => [replacement]
      | c :: rest2 =>
        if within c 0x30 0x39 then
          match rest2 with
          | [] => [replacement]
          | d :: rest3 =>
            if within d 0x81 0xFE then
              match rest3 with
              | [] => [replacement]
              | e :: rest4 =>
                if within e 0x30 0x39 then
                  let pointer := (((b - 0x81) * 10 + c - 0x30) * 126 + d - 0x81) * 10 + e - 0x30
                  (gb18030RangePoint pointer).getD replacement :: decodeGb18030 rest4 fuel
                else replacement :: decodeGb18030 (c :: d :: e :: rest4) fuel
            else replacement :: decodeGb18030 (c :: d :: rest3) fuel
        else
          let offset := if c < 0x7F then 0x40 else 0x41
          let found :=
            if within c 0x40 0x7E || within c 0x80 0xFE then
              lookup gb18030Index ((b - 0x81) * 190 + c - offset)
            else none
          afterLead found c rest2 (decodeGb18030 · fuel)

/-- Big5: ASCII and two-byte sequences from the index; four pointers stand for a letter with a
combining mark. -/
def decodeBig5 : List Nat → Nat → List Char
  | _, 0 => []
  | [], _ => []
  | b :: rest, fuel + 1 =>
    if b < 0x80 then point b :: decodeBig5 rest fuel
    else if within b 0x81 0xFE then
      match rest with
      | [] => [replacement]
      | c :: rest2 =>
        let offset := if c < 0x7F then 0x40 else 0x62
        if within c 0x40 0x7E || within c 0xA1 0xFE then
          let pointer := (b - 0x81) * 157 + c - offset
          if pointer = 1133 then point 0xCA :: point 0x304 :: decodeBig5 rest2 fuel
          else if pointer = 1135 then point 0xCA :: point 0x30C :: decodeBig5 rest2 fuel
          else if pointer = 1164 then point 0xEA :: point 0x304 :: decodeBig5 rest2 fuel
          else if pointer = 1166 then point 0xEA :: point 0x30C :: decodeBig5 rest2 fuel
          else afterLead (lookup big5Index pointer) c rest2 (decodeBig5 · fuel)
        else afterLead none c rest2 (decodeBig5 · fuel)
    else replacement :: decodeBig5 rest fuel

/-! ## Japanese -/

/-- EUC-JP: ASCII, `8E` before a half-width katakana, `8F` before a JIS X 0212 pair, and
JIS X 0208 pairs. -/
def decodeEucJp : List Nat → Nat → List Char
  | _, 0 => []
  | [], _ => []
  | b :: rest, fuel + 1 =>
    if b < 0x80 then point b :: decodeEucJp rest fuel
    else if b = 0x8E || b = 0x8F || within b 0xA1 0xFE then
      match rest with
      | [] => [replacement]
      | c :: rest2 =>
        if b = 0x8E && within c 0xA1 0xDF then point (0xFF61 - 0xA1 + c) :: decodeEucJp rest2 fuel
        else if b = 0x8F && within c 0xA1 0xFE then
          match rest2 with
          | [] => [replacement]
          | d :: rest3 =>
            let found :=
              if within d 0xA1 0xFE then lookup jis0212 ((c - 0xA1) * 94 + d - 0xA1) else none
            afterLead found d rest3 (decodeEucJp · fuel)
        else
          let found :=
            if within b 0xA1 0xFE && within c 0xA1 0xFE then
              lookup jis0208 ((b - 0xA1) * 94 + c - 0xA1)
            else none
          afterLead found c rest2 (decodeEucJp · fuel)
    else replacement :: decodeEucJp rest fuel

/-- Shift_JIS: ASCII and 0x80, single-byte half-width katakana, private-use pairs, and
JIS X 0208 pairs with the Shift_JIS extensions. -/
def decodeShiftJis : List Nat → Nat → List Char
  | _, 0 => []
  | [], _ => []
  | b :: rest, fuel + 1 =>
    if b ≤ 0x80 then point b :: decodeShiftJis rest fuel
    else if within b 0xA1 0xDF then point (0xFF61 - 0xA1 + b) :: decodeShiftJis rest fuel
    else if within b 0x81 0x9F || within b 0xE0 0xFC then
      match rest with
      | [] => [replacement]
      | c :: rest2 =>
        let offset := if c < 0x7F then 0x40 else 0x41
        let leadOffset := if b < 0xA0 then 0x81 else 0xC1
        if within c 0x40 0x7E || within c 0x80 0xFC then
          let pointer := (b - leadOffset) * 188 + c - offset
          if within pointer 8836 10715 then
            point (0xE000 - 8836 + pointer) :: decodeShiftJis rest2 fuel
          else afterLead (lookup jis0208 pointer) c rest2 (decodeShiftJis · fuel)
        else afterLead none c rest2 (decodeShiftJis · fuel)
    else replacement :: decodeShiftJis rest fuel

/-- The states of the ISO-2022-JP decoder. -/
inductive JisState where
  | ascii
  | roman
  | katakana
  | leadByte
  | trailByte (lead : Nat)
  | escapeStart
  | escape (lead : Nat)
  deriving DecidableEq, Repr

/-- The state an escape sequence `ESC lead b` switches to. -/
def escapeTarget (lead b : Nat) : Option JisState :=
  if lead = 0x28 && b = 0x42 then some .ascii
  else if lead = 0x28 && b = 0x4A then some .roman
  else if lead = 0x28 && b = 0x49 then some .katakana
  else if lead = 0x24 && (b = 0x40 || b = 0x42) then some .leadByte
  else none

/-- ISO-2022-JP: escape sequences switch between ASCII, JIS Roman, half-width katakana and
JIS X 0208 pairs.  `out` is the state text is read in after a broken escape; `escaped` tells
that the last thing read was an escape sequence, so that two in a row give a replacement. -/
def decodeIso2022Jp (state out : JisState) (escaped : Bool) : List Nat → Nat → List Char
  | _, 0 => []
  | bs, fuel + 1 =>
    match state, bs with
    | .ascii, [] | .roman, [] | .katakana, [] | .leadByte, [] => []
    | .ascii, b :: rest =>
      if b = 0x1B then decodeIso2022Jp .escapeStart out escaped rest fuel
      else if b ≤ 0x7F && b != 0x0E && b != 0x0F then
        point b :: decodeIso2022Jp .ascii out false rest fuel
      else replacement :: decodeIso2022Jp .ascii out false rest fuel
    | .roman, b :: rest =>
      if b = 0x1B then decodeIso2022Jp .escapeStart out escaped rest fuel
      else if b = 0x5C then point 0xA5 :: decodeIso2022Jp .roman out false rest fuel
      else if b = 0x7E then point 0x203E :: decodeIso2022Jp .roman out false rest fuel
      else if b ≤ 0x7F && b != 0x0E && b != 0x0F then
        point b :: decodeIso2022Jp .roman out false rest fuel
      else replacement :: decodeIso2022Jp .roman out false rest fuel
    | .katakana, b :: rest =>
      if b = 0x1B then decodeIso2022Jp .escapeStart out escaped rest fuel
      else if within b 0x21 0x5F then
        point (0xFF61 - 0x21 + b) :: decodeIso2022Jp .katakana out false rest fuel
      else replacement :: decodeIso2022Jp .katakana out false rest fuel
    | .leadByte, b :: rest =>
      if b = 0x1B then decodeIso2022Jp .escapeStart out escaped rest fuel
      else if within b 0x21 0x7E then decodeIso2022Jp (.trailByte b) out false rest fuel
      else replacement :: decodeIso2022Jp .leadByte out false rest fuel
    | .trailByte _, [] => [replacement]
    | .trailByte lead, b :: rest =>
      if b = 0x1B then replacement :: decodeIso2022Jp .escapeStart out escaped rest fuel
      else if within b 0x21 0x7E then
        (lookup jis0208 ((lead - 0x21) * 94 + b - 0x21)).getD replacement ::
          decodeIso2022Jp .leadByte out escaped rest fuel
      else replacement :: decodeIso2022Jp .leadByte out escaped rest fuel
    | .escapeStart, [] => replacement :: decodeIso2022Jp out out false [] fuel
    | .escapeStart, b :: rest =>
      if b = 0x24 || b = 0x28 then decodeIso2022Jp (.escape b) out escaped rest fuel
      else replacement :: decodeIso2022Jp out out false (b :: rest) fuel
    | .escape lead, [] => replacement :: decodeIso2022Jp out out false [lead] fuel
    | .escape lead, b :: rest =>
      match escapeTarget lead b with
      | some s =>
        if escaped then replacement :: decodeIso2022Jp s s true rest fuel
        else decodeIso2022Jp s s true rest fuel
      | none => replacement :: decodeIso2022Jp out out false (lead :: b :: rest) fuel

/-! ## Korean -/

/-- EUC-KR: ASCII and two-byte sequences from the index. -/
def decodeEucKr : List Nat → Nat → List Char
  | _, 0 => []
  | [], _ => []
  | b :: rest, fuel + 1 =>
    if b < 0x80 then point b :: decodeEucKr rest fuel
    else if within b 0x81 0xFE then
      match rest with
      | [] => [replacement]
      | c :: rest2 =>
        let found := if within c 0x41 0xFE then lookup eucKrIndex ((b - 0x81) * 190 + c - 0x41)
          else none
        afterLead found c rest2 (decodeEucKr · fuel)
    else replacement :: decodeEucKr rest fuel

/-! ## Decoding -/

/-- The characters of some bytes in an encoding, without looking for a byte order mark. -/
def Charset.decodeBare (e : Charset) (bs : List Nat) : List Char :=
  let fuel := 3 * bs.length + 3
  match e with
  | .utf8 => decodeLossyList bs
  | .utf16be => decodeUtf16 true bs fuel
  | .utf16le => decodeUtf16 false bs fuel
  | .singleByte t => decodeSingleByte t bs
  | .gb18030 => decodeGb18030 bs fuel
  | .big5 => decodeBig5 bs fuel
  | .eucJp => decodeEucJp bs fuel
  | .iso2022Jp => decodeIso2022Jp .ascii .ascii false bs fuel
  | .shiftJis => decodeShiftJis bs fuel
  | .eucKr => decodeEucKr bs fuel
  | .replacement => if bs.isEmpty then [] else [Text.replacement]
  | .userDefined => decodeUserDefined bs

/-- The text of some bytes in an encoding: a leading byte order mark overrides the encoding
and is dropped. -/
def Charset.decode (e : Charset) (b : ByteArray) : String :=
  let bs := b.toList.map UInt8.toNat
  String.ofList <|
    match bs with
    | 0xEF :: 0xBB :: 0xBF :: rest => Charset.utf8.decodeBare rest
    | 0xFE :: 0xFF :: rest => Charset.utf16be.decodeBare rest
    | 0xFF :: 0xFE :: rest => Charset.utf16le.decodeBare rest
    | _ => e.decodeBare bs

/-- The text of some bytes in the encoding a label names, UTF-8 for an unknown label. -/
def decodeLabelled (label : String) (b : ByteArray) : String :=
  ((Charset.forLabel label).getD .utf8).decode b

example : (Charset.forLabel "utf-16").map (·.decodeBare [0x61, 0, 0x62, 0, 0x63]) =
    some ['a', 'b', replacement] := by decide +kernel
example : (Charset.forLabel "iso-2022-kr").map (·.decodeBare [0x61]) = some [replacement] := by
  decide +kernel

end Storefront.Text.Encoding
