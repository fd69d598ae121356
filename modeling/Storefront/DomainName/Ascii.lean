import Storefront.DomainName.Mapping
import Storefront.Unicode.Normalization
import Storefront.Unicode.Category
import Storefront.Unicode.Bidi
import Storefront.Unicode.Joining
import Storefront.Text.Punycode

/-
  The ASCII form of an internationalized domain name (UTS 46).

  The processing is not transitional, refuses no ASCII character, allows hyphens anywhere
  and sets no length limit.  The name is mapped code point by code point and brought to
  Normalization Form C, then split into labels at `.`.  A label that starts with `xn--` must
  be ASCII, must not end in `-`, and must be the Punycode of a label in Normalization Form C
  made of valid code points other than `.`; that label takes its place.  No label may start
  with a mark, and a joiner needs a virama before it, or, for the zero-width non-joiner, a
  letter that joins to the right before it and one that joins to the left after it (marks
  between them do not count).  If some code point is right-to-left or an Arabic digit, every
  label must keep the bidi rule of RFC 5893.  The ASCII form writes each label that is not
  ASCII as `xn--` and its Punycode.
-/

namespace Storefront.DomainName

open Storefront.Unicode

/-- Why a domain name has no ASCII form. -/
inductive Fault where
  /-- A code point that the mapping disallows. -/
  | disallowed
  /-- A label behind `xn--` that is not the Punycode of a valid label. -/
  | punycode
  /-- A label that starts with a mark. -/
  | leadingMark
  /-- A joiner out of its context. -/
  | joiner
  /-- A label that breaks the bidi rule. -/
  | bidi
  deriving DecidableEq, Repr

/-- The code points that one code point maps to. -/
def mapPoint (n : Nat) : Except Fault (List Nat) :=
  match status n with
  | .valid | .deviation => .ok [n]
  | .ignored => .ok []
  | .mapped ps => .ok ps
  | .disallowed => .error .disallowed

/-- A name mapped and brought to Normalization Form C. -/
def mapName (name : List Char) : Except Fault (List Char) := do
  let mapped ← name.mapM fun c => mapPoint c.toNat
  return (nfc mapped.flatten).map Char.ofNat

/-- Whether a code point may stand in a label decoded from Punycode: valid or a deviation,
and not the full stop. -/
def isValidPoint (n : Nat) : Bool :=
  n != 0x2E &&
    match status n with
    | .valid | .deviation => true
    | _ => false

/-- Whether a label starts with `xn--`. -/
def hasAcePrefix (label : List Char) : Bool :=
  label.take 4 == ['x', 'n', '-', '-']

/-- The label written behind `xn--`: ASCII, not ending in `-`, the Punycode of a label in
Normalization Form C made of valid code points. -/
def decodeAce (label : List Char) : Except Fault (List Char) :=
  if !label.all (·.toNat < 0x80) || label.getLast? == some '-' then .error .punycode
  else
    match Text.Punycode.decode (label.drop 4) with
    | none => .error .punycode
    | some decoded =>
      let ns := decoded.map Char.toNat
      if nfc ns == ns && ns.all isValidPoint then .ok decoded else .error .punycode

/-- The zero-width joiner. -/
def zeroWidthJoiner : Char := Char.ofNat 0x200D

/-- The zero-width non-joiner. -/
def zeroWidthNonJoiner : Char := Char.ofNat 0x200C

/-- Whether the nearest code point that is not transparent to joining, among `near` (the
nearest first), has one of the joining types `types`. -/
def joinsFrom (types : List JoiningType) (near : List Char) : Bool :=
  match near.dropWhile (fun c => joiningType c.toNat == .transparent) with
  | c :: _ => types.contains (joiningType c.toNat)
  | [] => false

/-- Whether a joiner `c` stands in context, with `before` the code points before it (the
nearest first) and `after` those after it. -/
def joinerInContext (before : List Char) (c : Char) (after : List Char) : Bool :=
  (match before with
    | b :: _ => combiningClass b.toNat == viramaClass
    | [] => false) ||
  (c == zeroWidthNonJoiner && joinsFrom [.leftJoining, .dualJoining] before &&
    joinsFrom [.rightJoining, .dualJoining] after)

/-- Whether every joiner of `label` stands in context; `before` holds the code points already
passed, the nearest first. -/
def joinersInContext (before : List Char) : List Char → Bool
  | [] => true
  | c :: after =>
    (!(c == zeroWidthJoiner || c == zeroWidthNonJoiner) || joinerInContext before c after) &&
      joinersInContext (c :: before) after

/-- The checks on each label: no mark first, every joiner in context. -/
def checkLabel (label : List Char) : Except Fault (List Char) :=
  match label with
  | c :: _ =>
    if isMark c.toNat then .error .leadingMark
    else if joinersInContext [] label then .ok label else .error .joiner
  | [] => .ok label

/-- A label of the mapped name, decoded if it is written in Punycode, and checked. -/
def processLabel (label : List Char) : Except Fault (List Char) :=
  if hasAcePrefix label then decodeAce label >>= checkLabel else checkLabel label

/-- Whether a name has a right-to-left code point or an Arabic digit; none is below U+0590. -/
def isBidiName (labels : List (List Char)) : Bool :=
  labels.any fun l => l.any fun c => 0x590 ≤ c.toNat && (bidiClass c.toNat).isRightToLeft

/-- The classes allowed inside a left-to-right label. -/
def ltrInner : List BidiClass :=
  [.leftToRight, .europeanNumber, .europeanSeparator, .commonSeparator, .europeanTerminator,
    .otherNeutral, .boundaryNeutral, .nonspacingMark]

/-- The classes allowed inside a right-to-left label. -/
def rtlInner : List BidiClass :=
  [.rightToLeft, .arabicLetter, .arabicNumber, .europeanNumber, .europeanSeparator,
    .commonSeparator, .europeanTerminator, .otherNeutral, .boundaryNeutral, .nonspacingMark]

/-- The bidi rule for one label: it starts with a left-to-right or right-to-left letter; the
last code point before any trailing marks is a letter of the same direction or a digit;
all code points between are of the classes its direction allows; and a right-to-left label
does not mix European and Arabic digits. -/
def keepsBidiRule (label : List Char) : Bool :=
  match label.map fun c => bidiClass c.toNat with
  | [] => true
  | first :: rest =>
    let body := (rest.reverse.dropWhile (· == .nonspacingMark)).reverse
    match body.getLast? with
    | none => [.leftToRight, .rightToLeft, .arabicLetter].contains first
    | some last =>
      let inner := body.dropLast
      if first == .leftToRight then
        [.leftToRight, .europeanNumber].contains last && inner.all ltrInner.contains
      else if first == .rightToLeft || first == .arabicLetter then
        [.rightToLeft, .arabicLetter, .europeanNumber, .arabicNumber].contains last &&
          inner.all rtlInner.contains &&
          !(body.contains .europeanNumber && body.contains .arabicNumber)
      else false

/-- A label as written in the ASCII form. -/
def asciiLabel (label : List Char) : List Char :=
  if label.all (·.toNat < 0x80) then label else "xn--".toList ++ Text.Punycode.encode label

/-- The ASCII form of a domain name, or why it has none.  A name of small letters and dots
is its own ASCII form. -/
def toAscii (name : List Char) : Except Fault (List Char) :=
  if name.all fun c => ('a' ≤ c && c ≤ 'z') || c == '.' then .ok name
  else do
    let mapped ← mapName name
    let labels ← (mapped.splitOn '.').mapM processLabel
    if isBidiName labels && !labels.all keepsBidiRule then .error .bidi
    else .ok (['.'].intercalate (labels.map asciiLabel))

example : (toAscii "Example.COM".toList).toOption = some "example.com".toList := by
  decide +kernel
example : (toAscii "xn--.com".toList).toOption = none := by decide +kernel

end Storefront.DomainName
