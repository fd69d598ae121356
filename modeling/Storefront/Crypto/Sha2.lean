/-
  The SHA-2 hash functions SHA-256, SHA-384 and SHA-512, and HMAC over them.

  All three share one compression scheme and differ in word size (32 or 64 bits), number of
  rounds, rotation amounts, round constants and initial state.  The constants are not typed
  in: the round constants are the first bits of the fractional parts of the cube roots of the
  first primes, and the initial states those of square roots, both computed exactly with
  integer roots.  Words are natural numbers kept below `2 ^ bits`.
-/

namespace Storefront.Crypto

/-- The integer `k`-th root of `n`: the largest `r` with `r ^ k ≤ n`, found by bisection over
`[lo, hi)`. -/
def rootBetween (k n lo hi : Nat) (fuel : Nat) : Nat :=
  match fuel with
  | 0 => lo
  | fuel + 1 =>
    if hi ≤ lo + 1 then lo
    else
      let mid := (lo + hi) / 2
      if Nat.pow mid k ≤ n then rootBetween k n mid hi fuel else rootBetween k n lo mid fuel

/-- The integer `k`-th root of `n`. -/
def intRoot (k n : Nat) : Nat :=
  rootBetween k n 0 (n + 2) (Nat.log2 n + 2)

/-- Whether `n` is a prime. -/
def isPrime (n : Nat) : Bool :=
  2 ≤ n && (List.range (n - 2)).all fun i => n % (i + 2) ≠ 0

/-- The first `count` primes. -/
def primes (count : Nat) : List Nat :=
  ((List.range 420).filter isPrime).take count

/-- The first `bits` bits of the fractional part of the `k`-th root of `p`. -/
def fractionBits (k bits p : Nat) : Nat :=
  intRoot k (p * Nat.pow 2 (k * bits)) % Nat.pow 2 bits

/-- The parameters of one SHA-2 function. -/
structure Variant where
  /-- Bits per word. -/
  bits : Nat
  /-- Number of rounds, one round constant each. -/
  rounds : Nat
  /-- Rotations of the big sigma of the first working word. -/
  bigSigma0 : Nat × Nat × Nat
  /-- Rotations of the big sigma of the fifth working word. -/
  bigSigma1 : Nat × Nat × Nat
  /-- Two rotations and a shift of the first message-schedule sigma. -/
  smallSigma0 : Nat × Nat × Nat
  /-- Two rotations and a shift of the second message-schedule sigma. -/
  smallSigma1 : Nat × Nat × Nat
  /-- Round constants. -/
  constants : Array Nat
  /-- Initial state: eight words. -/
  initial : Array Nat
  /-- Bytes of the digest. -/
  digestBytes : Nat

/-- SHA-256. -/
def sha256 : Variant where
  bits := 32
  rounds := 64
  bigSigma0 := (2, 13, 22)
  bigSigma1 := (6, 11, 25)
  smallSigma0 := (7, 18, 3)
  smallSigma1 := (17, 19, 10)
  constants := ((primes 64).map (fractionBits 3 32)).toArray
  initial := ((primes 8).map (fractionBits 2 32)).toArray
  digestBytes := 32

/-- SHA-512. -/
def sha512 : Variant where
  bits := 64
  rounds := 80
  bigSigma0 := (28, 34, 39)
  bigSigma1 := (14, 18, 41)
  smallSigma0 := (1, 8, 7)
  smallSigma1 := (19, 61, 6)
  constants := ((primes 80).map (fractionBits 3 64)).toArray
  initial := ((primes 8).map (fractionBits 2 64)).toArray
  digestBytes := 64

/-- SHA-384: SHA-512 from the ninth to sixteenth primes' roots, cut to 48 bytes. -/
def sha384 : Variant :=
  { sha512 with initial := (((primes 16).drop 8).map (fractionBits 2 64)).toArray
                digestBytes := 48 }

namespace Variant

/-- Bytes per word. -/
def wordBytes (v : Variant) : Nat := v.bits / 8

/-- Bytes per block: sixteen words. -/
def blockBytes (v : Variant) : Nat := 16 * v.wordBytes

/-- A number cut to a word. -/
def word (v : Variant) (x : Nat) : Nat := x % Nat.pow 2 v.bits

/-- Rotation of a word to the right. -/
def rotr (v : Variant) (x n : Nat) : Nat :=
  v.word ((x >>> n) ||| (x <<< (v.bits - n)))

/-- A big sigma: the exclusive or of three rotations. -/
def bigSigma (v : Variant) (r : Nat × Nat × Nat) (x : Nat) : Nat :=
  v.rotr x r.1 ^^^ v.rotr x r.2.1 ^^^ v.rotr x r.2.2

/-- A small sigma: the exclusive or of two rotations and a shift. -/
def smallSigma (v : Variant) (r : Nat × Nat × Nat) (x : Nat) : Nat :=
  v.rotr x r.1 ^^^ v.rotr x r.2.1 ^^^ (x >>> r.2.2)

/-- A message with its padding: a one bit, zeros, and the length in bits in two words, up to
a whole number of blocks. -/
def pad (v : Variant) (msg : ByteArray) : ByteArray :=
  let lenField := 2 * v.wordBytes
  let total := msg.size + 1 + lenField
  let zeros := (v.blockBytes - total % v.blockBytes) % v.blockBytes
  let bitLen := 8 * msg.size
  let lenBytes := (List.range lenField).map fun i => (bitLen >>> (8 * (lenField - 1 - i))).toUInt8
  msg ++ ByteArray.mk #[0x80] ++ ByteArray.mk (Array.replicate zeros 0) ++ ByteArray.mk lenBytes.toArray

/-- The big-endian word at byte offset `i`. -/
def wordAt (v : Variant) (b : ByteArray) (i : Nat) : Nat :=
  (List.range v.wordBytes).foldl (fun acc k => acc * 256 + (b.get! (i + k)).toNat) 0

/-- The message schedule of the block at byte offset `off`. -/
def schedule (v : Variant) (b : ByteArray) (off : Nat) : Array Nat :=
  let first := (List.range 16).toArray.map fun j => v.wordAt b (off + j * v.wordBytes)
  (List.range (v.rounds - 16)).foldl
    (fun w j =>
      let t := j + 16
      w.push (v.word (v.smallSigma v.smallSigma1 (w.getD (t - 2) 0) + w.getD (t - 7) 0 +
        v.smallSigma v.smallSigma0 (w.getD (t - 15) 0) + w.getD (t - 16) 0)))
    first

/-- One round on the eight working words. -/
def round (v : Variant) (w : Array Nat) (s : Array Nat) (t : Nat) : Array Nat :=
  let g (i : Nat) := s.getD i 0
  let e := g 4
  let choose := (e &&& g 5) ^^^ ((Nat.pow 2 v.bits - 1 - e) &&& g 6)
  let a := g 0
  let majority := (a &&& g 1) ^^^ (a &&& g 2) ^^^ (g 1 &&& g 2)
  let t1 := v.word (g 7 + v.bigSigma v.bigSigma1 e + choose + v.constants.getD t 0 + w.getD t 0)
  let t2 := v.word (v.bigSigma v.bigSigma0 a + majority)
  #[v.word (t1 + t2), a, g 1, g 2, v.word (g 3 + t1), e, g 5, g 6]

/-- The state after the block at byte offset `off`. -/
def compress (v : Variant) (b : ByteArray) (h : Array Nat) (off : Nat) : Array Nat :=
  let w := v.schedule b off
  let s := (List.range v.rounds).foldl (v.round w) h
  (List.range 8).toArray.map fun i => v.word (h.getD i 0 + s.getD i 0)

/-- The digest of a message. -/
def hash (v : Variant) (msg : ByteArray) : ByteArray :=
  let b := v.pad msg
  let h := (List.range (b.size / v.blockBytes)).foldl
    (fun h k => v.compress b h (k * v.blockBytes)) v.initial
  let bytes := h.toList.flatMap fun x =>
    (List.range v.wordBytes).map fun i => (x >>> (8 * (v.wordBytes - 1 - i))).toUInt8
  (ByteArray.mk bytes.toArray).extract 0 v.digestBytes

/-- The keyed digest HMAC of a message. -/
def hmac (v : Variant) (key msg : ByteArray) : ByteArray :=
  let key := if key.size > v.blockBytes then v.hash key else key
  let key := key ++ ByteArray.mk (Array.replicate (v.blockBytes - key.size) 0)
  let inner := ByteArray.mk (key.data.map (· ^^^ 0x36))
  let outer := ByteArray.mk (key.data.map (· ^^^ 0x5c))
  v.hash (outer ++ v.hash (inner ++ msg))

end Variant

end Storefront.Crypto
