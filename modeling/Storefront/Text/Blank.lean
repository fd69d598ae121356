/-
  Blank characters: the Unicode property White_Space.

  Trimming a configuration value or a file name removes these characters from both ends.  The
  set is wider than the ASCII blanks: it has the next line mark, the no-break spaces, the
  typographic spaces, the line and paragraph separators and the ideographic space.
-/

namespace Storefront.Text

/-- The code point ranges, inclusive, of the White_Space property. -/
def blankRanges : List (Nat × Nat) :=
  [(0x09, 0x0D), (0x20, 0x20), (0x85, 0x85), (0xA0, 0xA0), (0x1680, 0x1680),
   (0x2000, 0x200A), (0x2028, 0x2029), (0x202F, 0x202F), (0x205F, 0x205F),
   (0x3000, 0x3000)]

/-- Whether a character has the White_Space property. -/
def isBlank (c : Char) : Bool :=
  blankRanges.any fun (lo, hi) => lo ≤ c.toNat && c.toNat ≤ hi

/-- The characters of a list without blanks at either end. -/
def trimBlanks (cs : List Char) : List Char :=
  ((cs.dropWhile isBlank).reverse.dropWhile isBlank).reverse

/-- A string without blanks at either end. -/
def trim (s : String) : String :=
  String.ofList (trimBlanks s.toList)

/-- Whether a string is empty once trimmed. -/
def isBlankText (s : String) : Bool :=
  s.toList.all isBlank

/-- The pieces of a list of characters between the occurrences of `sep`; there is one piece
more than there are separators. -/
def splitChars (sep : Char) : List Char → List (List Char)
  | [] => [[]]
  | c :: rest =>
    match splitChars sep rest with
    | [] => [[c]]
    | p :: ps => if c = sep then [] :: p :: ps else (c :: p) :: ps

example : trim "\u3000a b\u00A0" = "a b" := by decide
example : isBlankText " \t\n" = true := by decide
example : splitChars ' ' "a  b".toList = ["a".toList, [], "b".toList] := by decide

end Storefront.Text
