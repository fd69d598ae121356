/-
  What can go wrong while reading JSON text, and where.

  A `Defect` fault is a defect of the text itself; a `Mismatch` is well-formed text that does
  not have the shape a record asks for.  Each carries the byte offset it is reported at, and
  `Position.ofOffset` turns an offset into a line (from 1) and a column (bytes since the last
  line feed).  A fault found inside a member or an item also records the path to it.
-/

namespace Storefront.Json

/-- Defects of JSON text. -/
inductive Defect where
  | eofInList
  | eofInObject
  | eofInString
  | eofInValue
  | expectedColon
  | expectedListCommaOrEnd
  | expectedObjectCommaOrEnd
  | expectedIdent
  | expectedValue
  | invalidEscape
  | invalidNumber
  | numberOutOfRange
  | invalidCodePoint
  | controlCharacter
  | keyMustBeString
  | loneLeadingSurrogate
  | trailingComma
  | trailingCharacters
  | unexpectedEndOfHexEscape
  | recursionLimit
  deriving DecidableEq, Repr

namespace Defect

/-- The message of a defect. -/
def message : Defect → String
  | .eofInList => "EOF while parsing a list"
  | .eofInObject => "EOF while parsing an object"
  | .eofInString => "EOF while parsing a string"
  | .eofInValue => "EOF while parsing a value"
  | .expectedColon => "expected `:`"
  | .expectedListCommaOrEnd => "expected `,` or `]`"
  | .expectedObjectCommaOrEnd => "expected `,` or `\x7d`"
  | .expectedIdent => "expected ident"
  | .expectedValue => "expected value"
  | .invalidEscape => "invalid escape"
  | .invalidNumber => "invalid number"
  | .numberOutOfRange => "number out of range"
  | .invalidCodePoint => "invalid unicode code point"
  | .controlCharacter => "control character (\\u0000-\\u001F) found while parsing a string"
  | .keyMustBeString => "key must be a string"
  | .loneLeadingSurrogate => "lone leading surrogate in hex escape"
  | .trailingComma => "trailing comma"
  | .trailingCharacters => "trailing characters"
  | .unexpectedEndOfHexEscape => "unexpected end of hex escape"
  | .recursionLimit => "recursion limit exceeded"

end Defect

/-- A defect at a byte offset. -/
structure Fault where
  defect : Defect
  offset : Nat
  deriving DecidableEq, Repr

/-- A line (from 1) and column (bytes since the last line feed). -/
structure Position where
  line : Nat
  column : Nat
  deriving DecidableEq, Repr

namespace Position

/-- The position after counting the bytes of `b` from `j` up to `stop`. -/
def countFrom (b : ByteArray) (stop j : Nat) (p : Position) : Position :=
  if hs : j < stop then
    if hb : j < b.size then
      countFrom b stop (j + 1) (if b[j] == 10 then ⟨p.line + 1, 0⟩ else ⟨p.line, p.column + 1⟩)
    else p
  else p
termination_by stop - j

/-- The position of byte offset `i` of `b`, counting the bytes before it. -/
def ofOffset (b : ByteArray) (i : Nat) : Position :=
  countFrom b i 0 ⟨1, 0⟩

/-- The suffix ` at line L column C` of a located message. -/
def suffix (p : Position) : String :=
  s!" at line {p.line} column {p.column}"

end Position

/-- One step of a path into a document: a member key or an item index. -/
inductive Step where
  | key (k : String)
  | index (i : Nat)
  deriving DecidableEq, Repr

/-- The written form of a path: keys joined by `.`, indices as `[i]`. -/
def writePath : List Step → String
  | [] => ""
  | steps =>
    (steps.foldl
      (fun (acc : String × Bool) s =>
        match s with
        | .key k => (acc.1 ++ (if acc.2 then "." else "") ++ k, true)
        | .index i => (acc.1 ++ "[" ++ toString i ++ "]", true))
      ("", false)).1

end Storefront.Json
