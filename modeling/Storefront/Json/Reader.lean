import Storefront.Json.Value
import Storefront.Json.Fault
import Storefront.Text.Utf8

/-
  Reading JSON text, byte by byte, with the offsets of its faults.

  The reader works on the raw bytes of a document and an offset into them.  Each function
  reads one piece (a literal, a string, a number, a whole value) and returns the offset after
  it, or the `Fault` it met.  A fault is reported either at the reading offset or one byte
  ahead of it (`ahead`), depending on whether the byte that revealed it was taken; this fixes
  the column of every message.

  Strings: escapes `\" \\ \/ \b \f \n \r \t \uXXXX`; a `\u` escape of a leading surrogate must
  be followed by a `\u` escape of a trailing one; control characters are refused; the bytes
  must be UTF-8, which is checked when the closing quote is reached.  Numbers: an integer that
  fits 64 bits stays an integer; any other number is scaled to a binary64 from its first
  nineteen or twenty digits by one multiplication or division by a binary64 power of ten,
  each rounded (`Number.scale`), and one too large is refused.  Nesting deeper than 127
  arrays or objects is refused.  Skipping a value (`skip`) checks its form without building
  it and without the nesting limit.
-/

namespace Storefront.Json

open Storefront.Number

namespace Reader

/-- A read piece and the offset after it, or a fault. -/
abbrev Read (α : Type) := Except Fault (α × Nat)

/-- The byte at offset `i`, if any. -/
def byteAt? (b : ByteArray) (i : Nat) : Option UInt8 :=
  if h : i < b.size then some b[i] else none

/-- The offset one byte ahead of `i`, kept within the text. -/
def ahead (b : ByteArray) (i : Nat) : Nat := min b.size (i + 1)

/-- A fault of kind `s` at offset `i`. -/
def fail {α : Type} (s : Defect) (i : Nat) : Except Fault α := .error ⟨s, i⟩

/-- The blanks between tokens: space, line feed, tab, carriage return. -/
def isBlank (c : UInt8) : Bool := c == 0x20 || c == 0x0A || c == 0x09 || c == 0x0D

/-- The offset of the first non-blank byte at or after `i`. -/
def skipBlanks (b : ByteArray) (i : Nat) : Nat :=
  if h : i < b.size then
    if isBlank b[i] then skipBlanks b (i + 1) else i
  else i
termination_by b.size - i

/-- A decimal digit byte. -/
def isDigit (c : UInt8) : Bool := 0x30 ≤ c && c ≤ 0x39

/-- The value of a decimal digit byte. -/
def digitValue (c : UInt8) : Nat := c.toNat - 0x30

/-- The bytes of a literal after its first one, each of which must follow. -/
def expectIdent (b : ByteArray) (i : Nat) : List UInt8 → Except Fault Nat
  | [] => .ok i
  | c :: cs =>
    match byteAt? b i with
    | none => fail .eofInValue i
    | some d => if d == c then expectIdent b (i + 1) cs else fail .expectedIdent (i + 1)

/-! ## Strings -/

/-- The value of a hexadecimal digit byte. -/
def hexValue (c : UInt8) : Option Nat :=
  if 0x30 ≤ c && c ≤ 0x39 then some (c.toNat - 0x30)
  else if 0x41 ≤ c && c ≤ 0x46 then some (c.toNat - 0x41 + 10)
  else if 0x61 ≤ c && c ≤ 0x66 then some (c.toNat - 0x61 + 10)
  else none

/-- Four hexadecimal digits at `i`: all four are taken before they are checked. -/
def readHex4 (b : ByteArray) (i : Nat) : Read Nat :=
  if i + 4 ≤ b.size then
    match (byteAt? b i).bind hexValue, (byteAt? b (i + 1)).bind hexValue,
        (byteAt? b (i + 2)).bind hexValue, (byteAt? b (i + 3)).bind hexValue with
    | some p, some q, some r, some s => .ok (((p * 16 + q) * 16 + r) * 16 + s, i + 4)
    | _, _, _, _ => fail .invalidEscape (i + 4)
  else fail .eofInString b.size

/-- The UTF-8 bytes of a code point that is not a surrogate. -/
def utf8Bytes (n : Nat) : List UInt8 :=
  if n < 0x80 then [n.toUInt8]
  else if n < 0x800 then [(0xC0 + n / 64).toUInt8, (0x80 + n % 64).toUInt8]
  else if n < 0x10000 then
    [(0xE0 + n / 4096).toUInt8, (0x80 + n / 64 % 64).toUInt8, (0x80 + n % 64).toUInt8]
  else
    [(0xF0 + n / 262144).toUInt8, (0x80 + n / 4096 % 64).toUInt8, (0x80 + n / 64 % 64).toUInt8,
      (0x80 + n % 64).toUInt8]

/-- Appends the UTF-8 bytes of a code point. -/
def pushCodePoint (acc : ByteArray) (n : Nat) : ByteArray :=
  (utf8Bytes n).foldl ByteArray.push acc

/-- A `\u` escape after its `u`: a code point outside the surrogates, or a leading surrogate
followed by `\u` and a trailing one. -/
def readUnicodeEscape (b : ByteArray) (i : Nat) (acc : ByteArray) :
    Except Fault (ByteArray × Nat) := do
  let (n, j) ← readHex4 b i
  if 0xDC00 ≤ n ∧ n ≤ 0xDFFF then fail .loneLeadingSurrogate j
  else if n < 0xD800 ∨ n > 0xDBFF then pure (pushCodePoint acc n, j)
  else
    match byteAt? b j with
    | none => fail .eofInString j
    | some c =>
      if c != 0x5C then fail .unexpectedEndOfHexEscape (j + 1)
      else
        match byteAt? b (j + 1) with
        | none => fail .eofInString (j + 1)
        | some d =>
          if d != 0x75 then fail .unexpectedEndOfHexEscape (j + 2)
          else do
            let (m, k) ← readHex4 b (j + 2)
            if 0xDC00 ≤ m ∧ m ≤ 0xDFFF then
              pure (pushCodePoint acc (0x10000 + (n - 0xD800) * 1024 + (m - 0xDC00)), k)
            else fail .loneLeadingSurrogate k

/-- The byte an escape letter stands for. -/
def simpleEscape (c : UInt8) : Option UInt8 :=
  if c == 0x22 then some 0x22
  else if c == 0x5C then some 0x5C
  else if c == 0x2F then some 0x2F
  else if c == 0x62 then some 0x08
  else if c == 0x66 then some 0x0C
  else if c == 0x6E then some 0x0A
  else if c == 0x72 then some 0x0D
  else if c == 0x74 then some 0x09
  else none

/-- An escape after its backslash. -/
def readEscape (b : ByteArray) (i : Nat) (acc : ByteArray) : Read ByteArray :=
  match byteAt? b i with
  | none => fail .eofInString b.size
  | some c =>
    match simpleEscape c with
    | some d => .ok (acc.push d, i + 1)
    | none => if c == 0x75 then readUnicodeEscape b (i + 1) acc else fail .invalidEscape (i + 1)

/-- Where a run of raw string bytes from `start` up to `stop` stops being UTF-8: the offset
just after the first byte that starts no complete sequence, or nothing when the run is
well-formed. -/
def brokenAt (b : ByteArray) (start stop : Nat) : Option Nat :=
  let v := Text.validPrefixLength ((b.extract start stop).toList.map UInt8.toNat)
  if v < stop - start then some (start + v + 1) else none

/-- The body of a string from offset `i` (after the opening quote), its bytes so far in
`acc`.  The raw bytes since the last escape (from `start`) are checked as UTF-8 when the next
escape or the closing quote is reached, so a broken sequence is reported at its first byte. -/
def readStringBody (b : ByteArray) (fuel : Nat) (start i : Nat) (acc : ByteArray) :
    Read String :=
  match fuel with
  | 0 => fail .eofInString b.size
  | fuel + 1 =>
    match byteAt? b i with
    | none => fail .eofInString b.size
    | some c =>
      if c == 0x22 || c == 0x5C then
        match brokenAt b start i with
        | some p => fail .invalidCodePoint p
        | none =>
          if c == 0x22 then
            match String.fromUTF8? acc with
            | some s => .ok (s, i + 1)
            | none => fail .invalidCodePoint i
          else
            match readEscape b (i + 1) acc with
            | .ok (acc', j) => readStringBody b fuel j j acc'
            | .error e => .error e
      else if c < 0x20 then fail .controlCharacter (i + 1)
      else readStringBody b fuel start (i + 1) (acc.push c)

/-- A string whose opening quote was just taken; `i` is the offset after it. -/
def readString (b : ByteArray) (i : Nat) : Read String :=
  readStringBody b (b.size + 1) i i ByteArray.empty

/-- An escape skipped after its backslash: only its form is checked. -/
def skipEscape (b : ByteArray) (i : Nat) : Except Fault Nat :=
  match byteAt? b i with
  | none => fail .eofInString b.size
  | some c =>
    match simpleEscape c with
    | some _ => .ok (i + 1)
    | none =>
      if c == 0x75 then (readHex4 b (i + 1)).map Prod.snd else fail .invalidEscape (i + 1)

/-- A string body skipped from offset `i`: escapes and control characters are checked, the
encoding is not. -/
def skipStringBody (b : ByteArray) (fuel : Nat) (i : Nat) : Except Fault Nat :=
  match fuel with
  | 0 => fail .eofInString b.size
  | fuel + 1 =>
    match byteAt? b i with
    | none => fail .eofInString b.size
    | some c =>
      if c == 0x22 then .ok (i + 1)
      else if c == 0x5C then
        match skipEscape b (i + 1) with
        | .ok j => skipStringBody b fuel j
        | .error e => .error e
      else if c < 0x20 then fail .controlCharacter (i + 1)
      else skipStringBody b fuel (i + 1)

/-! ## Numbers -/

/-- The largest value of 64 bits. -/
def u64Max : Nat := Nat.pow 2 64 - 1

/-- The largest value of a signed 32-bit exponent. -/
def i32Max : Nat := Nat.pow 2 31 - 1

/-- Whether `acc * 10 + d` exceeds `limit`. -/
def overflows (acc d limit : Nat) : Bool :=
  acc ≥ limit / 10 && (acc > limit / 10 || d > limit % 10)

/-- An exponent kept within the signed 32-bit range. -/
def saturate (e : Int) : Int := max (-Int.pow 2 31) (min (Int.pow 2 31 - 1) e)

/-- `f · 10^e`, by one multiplication or division with a binary64 power of ten when
`|e| ≤ 308`, and otherwise by dividing by `10^308` first; `none` when the result is too
large. -/
def scale (f : Binary64) (e : Int) (fuel : Nat) : Option Binary64 :=
  match fuel with
  | 0 => some f
  | fuel + 1 =>
    if e.natAbs ≤ 308 then
      if e ≥ 0 then f.mul (Binary64.pow10 e.toNat) else f.div (Binary64.pow10 e.natAbs)
    else if f.isZero then some f
    else if e ≥ 0 then none
    else
      match f.div (Binary64.pow10 308) with
      | some g => scale g (e + 308) fuel
      | none => none

/-- The number `±significand · 10^e`, read at offset `i`. -/
def fromParts (positive : Bool) (significand : Nat) (e : Int) (i : Nat) : Read Number :=
  match scale (Binary64.ofNat significand) e (e.natAbs / 308 + 2) with
  | some f => .ok (.float (if positive then f else f.neg), i)
  | none => fail .numberOutOfRange i

/-- Digits of an exponent after its first one. -/
def exponentDigits (b : ByteArray) (i : Nat) (acc : Nat) : Except Fault (Option Nat × Nat) :=
  if h : i < b.size then
    let c := b[i]
    if isDigit c then
      if overflows acc (digitValue c) i32Max then .ok (none, i + 1)
      else exponentDigits b (i + 1) (acc * 10 + digitValue c)
    else .ok (some acc, i)
  else .ok (some acc, i)
termination_by b.size - i

/-- Skips the digits at `i`. -/
def skipDigits (b : ByteArray) (i : Nat) : Nat :=
  if h : i < b.size then
    if isDigit b[i] then skipDigits b (i + 1) else i
  else i
termination_by b.size - i

/-- An exponent whose letter is at `i`, applied to `±significand · 10^start`. -/
def readExponent (b : ByteArray) (positive : Bool) (significand : Nat) (start : Int) (i : Nat) :
    Read Number :=
  let i := i + 1
  let (positiveExp, i) :=
    match byteAt? b i with
    | some 0x2B => (true, i + 1)
    | some 0x2D => (false, i + 1)
    | _ => (true, i)
  match byteAt? b i with
  | none => fail .eofInValue i
  | some c =>
    if !isDigit c then fail .invalidNumber (i + 1)
    else
      match exponentDigits b (i + 1) (digitValue c) with
      | .error e => .error e
      | .ok (none, j) =>
        if significand ≠ 0 && positiveExp then fail .numberOutOfRange j
        else
          let k := skipDigits b j
          .ok (.float (if positive then Binary64.zero else Binary64.zero.neg), k)
      | .ok (some e, j) =>
        let final := if positiveExp then saturate (start + e) else saturate (start - e)
        fromParts positive significand final j

/-- Digits after a decimal point once the significand is full: they are skipped. -/
def readDecimalOverflow (b : ByteArray) (positive : Bool) (significand : Nat) (e : Int)
    (i : Nat) : Read Number :=
  let j := skipDigits b i
  match byteAt? b j with
  | some 0x65 | some 0x45 => readExponent b positive significand e j
  | _ => fromParts positive significand e j

/-- Fraction digits from `i`, each taken into the significand and the exponent. -/
def fractionDigits (b : ByteArray) (positive : Bool) (significand : Nat) (before after : Int)
    (i : Nat) : Read Number :=
  if h : i < b.size then
    let c := b[i]
    if isDigit c then
      if overflows significand (digitValue c) u64Max then
        readDecimalOverflow b positive significand (before + after) i
      else fractionDigits b positive (significand * 10 + digitValue c) before (after - 1) (i + 1)
    else finishFraction b positive significand before after i
  else finishFraction b positive significand before after i
termination_by b.size - i
where
  /-- After the fraction digits: at least one is required. -/
  finishFraction (b : ByteArray) (positive : Bool) (significand : Nat) (before after : Int)
      (i : Nat) : Read Number :=
    if after = 0 then
      match byteAt? b i with
      | some _ => fail .invalidNumber (ahead b i)
      | none => fail .eofInValue (ahead b i)
    else
      match byteAt? b i with
      | some 0x65 | some 0x45 => readExponent b positive significand (before + after) i
      | _ => fromParts positive significand (before + after) i

/-- A fraction whose point is at `i`. -/
def readFraction (b : ByteArray) (positive : Bool) (significand : Nat) (before : Int) (i : Nat) :
    Read Number :=
  fractionDigits b positive significand before 0 (i + 1)

/-- An integer too long for 64 bits: its further digits only raise the exponent. -/
def readLongInteger (b : ByteArray) (positive : Bool) (significand : Nat) (e : Int) (i : Nat) :
    Read Number :=
  if h : i < b.size then
    let c := b[i]
    if isDigit c then readLongInteger b positive significand (e + 1) (i + 1)
    else if c == 0x2E then readFraction b positive significand e i
    else if c == 0x65 || c == 0x45 then readExponent b positive significand e i
    else fromParts positive significand e i
  else fromParts positive significand e i
termination_by b.size - i

/-- What follows the integer digits: a fraction, an exponent, or the end of the number. -/
def readNumberTail (b : ByteArray) (positive : Bool) (significand : Nat) (i : Nat) :
    Read Number :=
  match byteAt? b i with
  | some 0x2E => readFraction b positive significand 0 i
  | some 0x65 | some 0x45 => readExponent b positive significand 0 i
  | _ =>
    if positive then .ok (.nat significand, i)
    else if 1 ≤ significand ∧ significand ≤ Nat.pow 2 63 then .ok (.neg (-(significand : Int)), i)
    else .ok (.float (Binary64.ofNat significand).neg, i)

/-- Integer digits after the first one. -/
def integerDigits (b : ByteArray) (positive : Bool) (significand : Nat) (i : Nat) :
    Read Number :=
  if h : i < b.size then
    let c := b[i]
    if isDigit c then
      if overflows significand (digitValue c) u64Max then
        readLongInteger b positive significand 0 i
      else integerDigits b positive (significand * 10 + digitValue c) (i + 1)
    else readNumberTail b positive significand i
  else readNumberTail b positive significand i
termination_by b.size - i

/-- A number from its first digit at `i` (after the minus sign of a negative one). -/
def readNumber (b : ByteArray) (positive : Bool) (i : Nat) : Read Number :=
  match byteAt? b i with
  | none => fail .eofInValue i
  | some c =>
    if c == 0x30 then
      match byteAt? b (i + 1) with
      | some d => if isDigit d then fail .invalidNumber (ahead b (i + 1))
                  else readNumberTail b positive 0 (i + 1)
      | none => readNumberTail b positive 0 (i + 1)
    else if isDigit c then integerDigits b positive (digitValue c) (i + 1)
    else fail .invalidNumber (i + 1)

/-- An exponent skipped: its letter is at `i`. -/
def skipExponent (b : ByteArray) (i : Nat) : Except Fault Nat :=
  let i := i + 1
  let i := match byteAt? b i with
    | some 0x2B | some 0x2D => i + 1
    | _ => i
  match byteAt? b i with
  | some c => if isDigit c then .ok (skipDigits b (i + 1)) else fail .invalidNumber (i + 1)
  | none => fail .invalidNumber i

/-- A number skipped from its first digit at `i`: only its form is checked. -/
def skipNumber (b : ByteArray) (i : Nat) : Except Fault Nat := do
  let j ← match byteAt? b i with
    | some 0x30 =>
      match byteAt? b (i + 1) with
      | some d => if isDigit d then fail .invalidNumber (ahead b (i + 1)) else pure (i + 1)
      | none => pure (i + 1)
    | some c => if isDigit c then pure (skipDigits b (i + 1)) else fail .invalidNumber (i + 1)
    | none => fail .invalidNumber i
  match byteAt? b j with
  | some 0x2E =>
    let k := skipDigits b (j + 1)
    if k = j + 1 then fail .invalidNumber (ahead b k)
    else
      match byteAt? b k with
      | some 0x65 | some 0x45 => skipExponent b k
      | _ => pure k
  | some 0x65 | some 0x45 => skipExponent b j
  | _ => pure j

/-! ## Skipping a whole value -/

mutual

/-- Skips values with an explicit stack of open containers (`[` or `{` bytes): reads the next
value at `i`, inside `enclosing`, with the outer containers in `stack`. -/
def skipLoop (b : ByteArray) (fuel : Nat) (i : Nat) (enclosing : Option UInt8)
    (stack : List UInt8) : Except Fault Nat :=
  match fuel with
  | 0 => fail .eofInValue b.size
  | fuel + 1 =>
    let i := skipBlanks b i
    let opened (c : UInt8) : Except Fault Nat :=
      let stack := match enclosing with
        | some e => e :: stack
        | none => stack
      skipClose b fuel (i + 1) false c none stack
    let scalar (r : Except Fault Nat) : Except Fault Nat :=
      match r with
      | .error e => .error e
      | .ok j =>
        match enclosing with
        | some e => skipClose b fuel j true e none stack
        | none =>
          match stack with
          | e :: rest => skipClose b fuel j true e none rest
          | [] => .ok j
    match byteAt? b i with
    | none => fail .eofInValue (ahead b i)
    | some c =>
      if c == 0x6E then scalar (expectIdent b (i + 1) [0x75, 0x6C, 0x6C])
      else if c == 0x74 then scalar (expectIdent b (i + 1) [0x72, 0x75, 0x65])
      else if c == 0x66 then scalar (expectIdent b (i + 1) [0x61, 0x6C, 0x73, 0x65])
      else if c == 0x2D then scalar (skipNumber b (i + 1))
      else if isDigit c then scalar (skipNumber b i)
      else if c == 0x22 then scalar (skipStringBody b (b.size + 1) (i + 1))
      else if c == 0x5B || c == 0x7B then opened c
      else fail .expectedValue (ahead b i)

/-- After a value inside the container `frame`: a comma (when `acceptComma`), the closing
bracket, or, in a fresh container, the next value or key. -/
def skipClose (b : ByteArray) (fuel : Nat) (i : Nat) (acceptComma : Bool) (frame : UInt8)
    (enclosing : Option UInt8) (stack : List UInt8) : Except Fault Nat :=
  match fuel with
  | 0 => fail .eofInValue b.size
  | fuel + 1 =>
    let i := skipBlanks b i
    let closer : UInt8 := if frame == 0x5B then 0x5D else 0x7D
    let next (j : Nat) : Except Fault Nat :=
      -- the next value of `frame`; an object member starts with its key and colon
      if frame == 0x7B then
        let j := skipBlanks b j
        match byteAt? b j with
        | none => fail .eofInObject (ahead b j)
        | some 0x22 =>
          match skipStringBody b (b.size + 1) (j + 1) with
          | .error e => .error e
          | .ok k =>
            let k := skipBlanks b k
            match byteAt? b k with
            | some 0x3A => skipLoop b fuel (k + 1) (some frame) (enclosing.toList ++ stack)
            | some _ => fail .expectedColon (ahead b k)
            | none => fail .eofInObject (ahead b k)
        | some _ => fail .keyMustBeString (ahead b j)
      else skipLoop b fuel j (some frame) (enclosing.toList ++ stack)
    match byteAt? b i with
    | some c =>
      if c == 0x2C && acceptComma then next (i + 1)
      else if c == closer then
        match stack with
        | e :: rest => skipClose b fuel (i + 1) true e none rest
        | [] => .ok (i + 1)
      else if acceptComma then
        fail (if frame == 0x5B then .expectedListCommaOrEnd else .expectedObjectCommaOrEnd)
          (ahead b i)
      else next i
    | none => fail (if frame == 0x5B then .eofInList else .eofInObject) (ahead b i)

end

/-- Skips one whole value at `i`, checking its form. -/
def skip (b : ByteArray) (i : Nat) : Except Fault Nat :=
  skipLoop b (2 * b.size + 2) i none []

/-! ## Reading a whole value -/

mutual

/-- A value at `i`; `depth` is the nesting still allowed. -/
def readValue (b : ByteArray) (fuel depth : Nat) (i : Nat) : Read Value :=
  match fuel with
  | 0 => fail .eofInValue b.size
  | fuel + 1 =>
    let i := skipBlanks b i
    match byteAt? b i with
    | none => fail .eofInValue (ahead b i)
    | some c =>
      if c == 0x6E then (expectIdent b (i + 1) [0x75, 0x6C, 0x6C]).map (fun j => (.null, j))
      else if c == 0x74 then
        (expectIdent b (i + 1) [0x72, 0x75, 0x65]).map (fun j => (.bool true, j))
      else if c == 0x66 then
        (expectIdent b (i + 1) [0x61, 0x6C, 0x73, 0x65]).map (fun j => (.bool false, j))
      else if c == 0x2D then (readNumber b false (i + 1)).map (fun (n, j) => (.num n, j))
      else if isDigit c then (readNumber b true i).map (fun (n, j) => (.num n, j))
      else if c == 0x22 then (readString b (i + 1)).map (fun (s, j) => (.str s, j))
      else if c == 0x5B then
        if depth ≤ 1 then fail .recursionLimit (ahead b i)
        else
          match readItems b fuel (depth - 1) (i + 1) true [] with
          | .ok (items, j) => .ok (.arr items, j + 1)
          | .error e => .error e
      else if c == 0x7B then
        if depth ≤ 1 then fail .recursionLimit (ahead b i)
        else
          match readMembers b fuel (depth - 1) (i + 1) true [] with
          | .ok (members, j) => .ok (.obj members, j + 1)
          | .error e => .error e
      else fail .expectedValue (ahead b i)

/-- Array items from `i` up to the closing bracket, whose offset is returned. -/
def readItems (b : ByteArray) (fuel depth : Nat) (i : Nat) (first : Bool) (acc : List Value) :
    Read (List Value) :=
  match fuel with
  | 0 => fail .eofInList b.size
  | fuel + 1 =>
    let i := skipBlanks b i
    let item (j : Nat) : Read (List Value) :=
      match byteAt? b j with
      | some 0x5D => fail .trailingComma (ahead b j)
      | some _ =>
        match readValue b fuel depth j with
        | .ok (v, k) => readItems b fuel depth k false (v :: acc)
        | .error e => .error e
      | none => fail .eofInValue (ahead b j)
    match byteAt? b i with
    | some 0x5D => .ok (acc.reverse, i)
    | some 0x2C => if first then item i else item (skipBlanks b (i + 1))
    | some _ => if first then item i else fail .expectedListCommaOrEnd (ahead b i)
    | none => fail .eofInList (ahead b i)

/-- Object members from `i` up to the closing brace, whose offset is returned. -/
def readMembers (b : ByteArray) (fuel depth : Nat) (i : Nat) (first : Bool)
    (acc : List (String × Value)) : Read (List (String × Value)) :=
  match fuel with
  | 0 => fail .eofInObject b.size
  | fuel + 1 =>
    let i := skipBlanks b i
    let member (j : Nat) : Read (List (String × Value)) :=
      match byteAt? b j with
      | some 0x22 =>
        match readString b (j + 1) with
        | .error e => .error e
        | .ok (key, k) =>
          let k := skipBlanks b k
          match byteAt? b k with
          | some 0x3A =>
            match readValue b fuel depth (k + 1) with
            | .ok (v, l) => readMembers b fuel depth l false ((key, v) :: acc)
            | .error e => .error e
          | some _ => fail .expectedColon (ahead b k)
          | none => fail .eofInObject (ahead b k)
      | some 0x7D => fail .trailingComma (ahead b j)
      | some _ => fail .keyMustBeString (ahead b j)
      | none => fail .eofInValue (ahead b j)
    match byteAt? b i with
    | some 0x7D => .ok (acc.reverse, i)
    | some 0x2C => if first then member i else member (skipBlanks b (i + 1))
    | some _ => if first then member i else fail .expectedObjectCommaOrEnd (ahead b i)
    | none => fail .eofInObject (ahead b i)

end

/-- The nesting allowed at the top: 127 arrays or objects inside each other. -/
def maxDepth : Nat := 128

/-- One value at `i` and the offset after it. -/
def value (b : ByteArray) (i : Nat) : Read Value :=
  readValue b (2 * b.size + 2) maxDepth i

end Reader

/-- A whole document: one value with only blanks after it. -/
def parse (b : ByteArray) : Except Fault Value :=
  match Reader.value b 0 with
  | .error e => .error e
  | .ok (v, i) =>
    let j := Reader.skipBlanks b i
    if j < b.size then .error ⟨.trailingCharacters, Reader.ahead b j⟩ else .ok v

/-- A whole document given as text. -/
def parseString (s : String) : Except Fault Value := parse s.toUTF8

end Storefront.Json
