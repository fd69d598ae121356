/-
  Punycode: a Unicode label written with ASCII letters, digits and `-` (RFC 3492).

  The basic (ASCII) characters of the label are copied first, followed by `-` if there were
  any.  The other code points are then taken in increasing order; for each, the number of
  steps from the previous state of the decoder to the insertion of the code point at its
  place is written as a variable-length number in base 36, least significant digit first,
  with digit thresholds that adapt to the numbers written so far.

  Decoding reverses this.  The basic characters are those before the last `-` (lowercased);
  each number read after it moves the insertion point and, past the end, the code point to
  insert.  Arithmetic is on 32-bit words: a number, a weight or a code point that does not fit
  in one makes the text no Punycode, and so does a code point that is no Unicode scalar value.
-/

namespace Storefront.Text.Punycode

/-- The character of a base-36 digit: `a` to `z`, then `0` to `9`. -/
def digitChar (d : Nat) : Char :=
  if d < 26 then Char.ofNat (97 + d) else Char.ofNat (22 + d)

/-- The threshold of the digit at position `k` (a multiple of 36) under `bias`: between 1
and 26. -/
def threshold (k bias : Nat) : Nat :=
  if k ≤ bias then 1 else if bias + 26 ≤ k then 26 else k - bias

theorem threshold_pos (k bias : Nat) : 1 ≤ threshold k bias := by
  unfold threshold; split <;> (try split) <;> omega

theorem threshold_le (k bias : Nat) : threshold k bias ≤ 26 := by
  unfold threshold; split <;> (try split) <;> omega

/-- The digits of `q`, starting at position `k`: a digit below the threshold ends the
number. -/
def digitsOf (bias k q : Nat) : List Char :=
  let t := threshold k bias
  if q < t then [digitChar q]
  else digitChar (t + (q - t) % (36 - t)) :: digitsOf bias (k + 36) ((q - t) / (36 - t))
termination_by q
decreasing_by
  have := threshold_pos k bias
  have := threshold_le k bias
  exact Nat.lt_of_le_of_lt (Nat.div_le_self _ _) (by omega)

/-- `delta` divided by 35 until it is at most 455, and 36 added to `k` for each division. -/
def shrink (delta k : Nat) : Nat × Nat :=
  if 455 < delta then shrink (delta / 35) (k + 36) else (delta, k)
termination_by delta
decreasing_by exact Nat.div_lt_self (by omega) (by omega)

/-- The bias after writing `delta` for the `points`-th code point. -/
def adapt (delta points : Nat) (first : Bool) : Nat :=
  let d := if first then delta / 700 else delta / 2
  let (d, k) := shrink (d + d / points) 0
  k + 36 * d / (d + 38)

/-- The state of the encoder: digits written, the pending step count, the bias and the
number of code points handled. -/
structure State where
  out : List Char
  delta : Nat
  bias : Nat
  handled : Nat

/-- One character of the label seen while inserting code point `m`; `basic` is the number
of basic characters. -/
def visit (basic m : Nat) (s : State) (c : Char) : State :=
  if c.toNat < m then { s with delta := s.delta + 1 }
  else if c.toNat = m then
    { out := s.out ++ digitsOf s.bias 36 s.delta
      delta := 0
      bias := adapt s.delta (s.handled + 1) (s.handled = basic)
      handled := s.handled + 1 }
  else s

/-- The digits for the code points `ms`, in increasing order, starting from code point
`n`. -/
def insertAll (label : List Char) (basic : Nat) : List Nat → Nat → State → State
  | [], _, s => s
  | m :: ms, n, s =>
    let s := { s with delta := s.delta + (m - n) * (s.handled + 1) }
    let s := label.foldl (visit basic m) s
    insertAll label basic ms (m + 1) { s with delta := s.delta + 1 }

/-- A number put into an increasing list without repeats. -/
def insertPoint (x : Nat) : List Nat → List Nat
  | [] => [x]
  | y :: ys => if x < y then x :: y :: ys else if x = y then y :: ys else y :: insertPoint x ys

/-- The non-basic code points of a label, each once, in increasing order. -/
def extendedPoints (label : List Char) : List Nat :=
  ((label.map Char.toNat).filter (128 ≤ ·)).foldr insertPoint []

/-- The Punycode form of a label, without the `xn--` prefix. -/
def encode (label : List Char) : List Char :=
  let basic := label.filter (·.toNat < 128)
  let s := insertAll label basic.length (extendedPoints label) 128
    { out := [], delta := 0, bias := 72, handled := basic.length }
  basic ++ (if basic.isEmpty then [] else ['-']) ++ s.out

/-- The largest value of a 32-bit word. -/
def wordMax : Nat := 0xFFFFFFFF

/-- The value of a base-36 digit: a letter in either case (0 to 25), or a decimal digit (26 to
35). -/
def digitValue? (c : Char) : Option Nat :=
  if 'a' ≤ c && c ≤ 'z' then some (c.toNat - 97)
  else if 'A' ≤ c && c ≤ 'Z' then some (c.toNat - 65)
  else if '0' ≤ c && c ≤ '9' then some (c.toNat - 22)
  else none

/-- One variable-length number read from the front of `cs` and added, digit times weight, to
`i`, with the digit at position `k`: the new `i` and the rest of the text. -/
def readNumber (bias : Nat) : List Char → Nat → Nat → Nat → Option (Nat × List Char)
  | [], _, _, _ => none
  | c :: rest, i, weight, k =>
    match digitValue? c with
    | none => none
    | some d =>
      let i := i + d * weight
      let t := threshold k bias
      if wordMax < d * weight || wordMax < i then none
      else if d < t then some (i, rest)
      else if wordMax < weight * (36 - t) then none
      else readNumber bias rest i (weight * (36 - t)) (k + 36)

theorem readNumber_shorter (bias : Nat) :
    ∀ (cs : List Char) (i w k : Nat) (i' : Nat) (rest : List Char),
      readNumber bias cs i w k = some (i', rest) → rest.length < cs.length := by
  intro cs
  induction cs with
  | nil => intro i w k i' rest h; simp [readNumber] at h
  | cons c cs ih =>
    intro i w k i' rest h
    simp only [readNumber] at h
    split at h
    · simp at h
    · split at h
      · simp at h
      · split at h
        · simp at h; simp [← h.2]
        · split at h
          · simp at h
          · have := ih _ _ _ _ _ h; simp; omega

/-- Whether a number is a Unicode scalar value. -/
def isScalar (n : Nat) : Bool :=
  n < 0xD800 || (0xDFFF < n && n ≤ 0x10FFFF)

/-- The insertions read from `cs` into `out`: `i` is the insertion point, `n` the code point
and `bias` the bias after the insertions so far. -/
def insertions (cs : List Char) (out : List Char) (i n bias : Nat) : Option (List Char) :=
  if cs.isEmpty then some out
  else
    match hr : readNumber bias cs i 1 36 with
    | none => none
    | some (j, rest) =>
      let size := out.length + 1
      let n := n + j / size
      if wordMax < n || !isScalar n then none
      else
        have : rest.length < cs.length := readNumber_shorter bias cs i 1 36 j rest hr
        insertions rest (out.insertIdx (j % size) (Char.ofNat n)) (j % size + 1) n
          (adapt (j - i) size (i = 0))
termination_by cs.length
decreasing_by exact this

/-- The label written by a Punycode text, without the `xn--` prefix, if the text is one. -/
def decode (code : List Char) : Option (List Char) :=
  match code.reverse.idxOf? '-' with
  | none => insertions code [] 0 128 72
  | some j =>
    let place := code.length - 1 - j
    -- a text whose only `-` is its first character has no basic part and keeps the `-`
    let digits := if place = 0 then code else code.drop (place + 1)
    insertions digits ((code.take place).map Char.toLower) 0 128 72

example : encode "bücher".toList = "bcher-kva".toList := by decide +kernel
example : encode "例え".toList = "r8jz45g".toList := by decide +kernel
example : decode "bcher-kva".toList = some "bücher".toList := by decide +kernel
example : decode "a".toList = some [Char.ofNat 0x80] := by decide +kernel

end Storefront.Text.Punycode
