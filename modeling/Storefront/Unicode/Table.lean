/-
  Properties of code points, kept as tables of runs.

  A table lists runs of consecutive code points that share one value of a property, in
  increasing order and without overlap; a code point in no run has the property's default,
  which the caller supplies.  A table is written as text, one run a word and words separated
  by spaces: the first code point in hexadecimal, then `-` and the last one if the run is
  longer than one code point, then `=` and the text of the value if the property has values.
  The text is read once into an array, which `Table.find?` searches by halving.
-/

namespace Storefront.Unicode

/-- The code points `first` to `last`, both included, with their value. -/
structure Run (α : Type) where
  first : Nat
  last : Nat
  value : α

/-- Runs sorted by first code point, without overlap. -/
structure Table (α : Type) where
  runs : Array (Run α)

/-- The value of a hexadecimal digit, in either case. -/
def hexDigit? (c : Char) : Option Nat :=
  if c.isDigit then some (c.toNat - 48)
  else if 'a' ≤ c && c ≤ 'f' then some (c.toNat - 87)
  else if 'A' ≤ c && c ≤ 'F' then some (c.toNat - 55)
  else none

/-- The number written by hexadecimal digits; other characters count as zero. -/
def hexValue (cs : List Char) : Nat :=
  cs.foldl (fun v c => 16 * v + (hexDigit? c).getD 0) 0

/-- The numbers of hexadecimal numbers joined by `.`. -/
def hexList (cs : List Char) : List Nat :=
  (cs.splitOn '.').map hexValue

/-- A run read from its word, with `decode` reading the value's text (empty if none). -/
def Run.ofWord {α : Type} (decode : List Char → α) (word : List Char) : Run α :=
  let (span, value) :=
    match word.splitOn '=' with
    | s :: v :: _ => (s, v)
    | _ => (word, [])
  match span.splitOn '-' with
  | a :: b :: _ => ⟨hexValue a, hexValue b, decode value⟩
  | _ => ⟨hexValue span, hexValue span, decode value⟩

/-- The table written by a text of words. -/
def Table.ofText {α : Type} (decode : List Char → α) (text : String) : Table α :=
  ⟨((text.toList.splitOn ' ').filter (!·.isEmpty)).toArray.map (Run.ofWord decode)⟩

/-- The number of runs, from index `lo` on and below `hi`, whose first code point is at most
`n`, added to `lo`: the runs are sorted, so these form a prefix, found by halving. -/
def Table.countUpTo {α : Type} (t : Table α) (n lo hi : Nat) : Nat :=
  if lo < hi then
    let mid := (lo + hi) / 2
    if (t.runs[mid]?.map (·.first)).getD 0 ≤ n then t.countUpTo n (mid + 1) hi
    else t.countUpTo n lo mid
  else lo
termination_by hi - lo

/-- The value of the run holding `n`, if one does: the last run that starts at or before
`n` holds it exactly when it ends at or after `n`. -/
def Table.find? {α : Type} (t : Table α) (n : Nat) : Option α :=
  match t.countUpTo n 0 t.runs.size with
  | 0 => none
  | i + 1 =>
    match t.runs[i]? with
    | some r => if n ≤ r.last then some r.value else none
    | none => none

/-- Whether some run holds `n`. -/
def Table.contains {α : Type} (t : Table α) (n : Nat) : Bool :=
  (t.find? n).isSome

example : (Table.ofText (fun _ => ()) "30-39 41 61-7a").contains 0x35 = true := by decide +kernel
example : (Table.ofText (fun _ => ()) "30-39 41 61-7a").contains 0x42 = false := by decide +kernel
example : (Table.ofText hexValue "300-314=e6 315=e8").find? 0x315 = some 0xe8 := by decide +kernel

end Storefront.Unicode
