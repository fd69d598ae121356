import Storefront.Unicode.CombiningClass
import Storefront.Unicode.Decomposition

/-
  Normalization Form C: canonical decomposition, canonical order, canonical composition.

  Text is decomposed code point by code point (Hangul syllables by arithmetic, the others by
  the table of full decompositions); each run of marks with non-zero combining class is
  then sorted by class, stably, so that marks of one class keep their order.  Composition
  walks the result from the front and joins a code point to the last starter before it when
  the pair has a primary composite and nothing in between blocks it: a mark is blocked when
  a code point between it and the starter has class zero or a class at least its own.
-/

namespace Storefront.Unicode

/-- The first Hangul syllable. -/
def hangulFirst : Nat := 0xAC00

/-- The first leading consonant of the conjoining jamo. -/
def leadFirst : Nat := 0x1100

/-- The first vowel of the conjoining jamo. -/
def vowelFirst : Nat := 0x1161

/-- The code point before the first trailing consonant of the conjoining jamo. -/
def trailBefore : Nat := 0x11A7

/-- The number of vowels. -/
def vowelCount : Nat := 21

/-- The number of trailing consonants, "none" included. -/
def trailCount : Nat := 28

/-- The number of Hangul syllables. -/
def syllableCount : Nat := 11172

/-- The full canonical decomposition of one code point. -/
def decompose (n : Nat) : List Nat :=
  if hangulFirst ≤ n && n < hangulFirst + syllableCount then
    let s := n - hangulFirst
    let lv := [leadFirst + s / (vowelCount * trailCount),
      vowelFirst + (s % (vowelCount * trailCount)) / trailCount]
    if s % trailCount = 0 then lv else lv ++ [trailBefore + s % trailCount]
  else if n < 0xC0 then [n]
  else (decompositions.find? n).getD [n]

/-- A run of marks sorted stably by combining class. -/
def sortMarks (marks : List Nat) : List Nat :=
  marks.mergeSort fun a b => decide (combiningClass a ≤ combiningClass b)

/-- Canonical order: `marks` is the run of marks read so far, in reading order. -/
def canonicalOrderFrom (marks : List Nat) : List Nat → List Nat
  | [] => sortMarks marks.reverse
  | n :: rest =>
    if combiningClass n = 0 then sortMarks marks.reverse ++ n :: canonicalOrderFrom [] rest
    else canonicalOrderFrom (n :: marks) rest

/-- Every run of marks sorted stably by combining class. -/
def canonicalOrder (ns : List Nat) : List Nat :=
  canonicalOrderFrom [] ns

/-- The canonical decomposition of a text, in canonical order. -/
def nfd (ns : List Nat) : List Nat :=
  canonicalOrder (ns.flatMap decompose)

/-- The primary composite of a pair, if it has one. -/
def composePair (a b : Nat) : Option Nat :=
  if leadFirst ≤ a && a < leadFirst + 19 && vowelFirst ≤ b && b < vowelFirst + vowelCount then
    some (hangulFirst + ((a - leadFirst) * vowelCount + (b - vowelFirst)) * trailCount)
  else if hangulFirst ≤ a && a < hangulFirst + syllableCount && (a - hangulFirst) % trailCount = 0
      && trailBefore < b && b < trailBefore + trailCount then
    some (a + (b - trailBefore))
  else compositions.find? (pairKey a b)

/-- The state of composition: the code points kept, the place of the last starter among
them, and the combining class of the last code point kept. -/
structure Composer where
  kept : Array Nat
  starter : Option Nat
  lastClass : Nat

/-- Composition with one more code point: it joins the last starter if the pair composes and
no code point between blocks it; otherwise it is kept, as the new starter if its class is
zero. -/
def Composer.push (s : Composer) (n : Nat) : Composer :=
  let cls := combiningClass n
  let keep : Composer :=
    { kept := s.kept.push n
      starter := if cls = 0 then some s.kept.size else s.starter
      lastClass := cls }
  match s.starter with
  | none => keep
  | some i =>
    if s.lastClass < cls || s.lastClass = 0 then
      match s.kept[i]?.bind (composePair · n) with
      | some c => { s with kept := s.kept.setIfInBounds i c }
      | none => keep
    else keep

/-- The canonical composition of a text in canonical order. -/
def compose (ns : List Nat) : List Nat :=
  (ns.foldl Composer.push ⟨#[], none, 0⟩).kept.toList

/-- Normalization Form C.  A code point below U+0300 is a starter, is normal by itself and is
never the second of a pair that composes, so a text of them is already normal. -/
def nfc (ns : List Nat) : List Nat :=
  if ns.all (· < 0x300) then ns else compose (nfd ns)

example : nfc [0x61, 0x62] = [0x61, 0x62] := by decide
example : decompose 0xAC01 = [0x1100, 0x1161, 0x11A8] := by decide

end Storefront.Unicode
