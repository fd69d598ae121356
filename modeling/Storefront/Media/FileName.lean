import Storefront.Error
import Storefront.Text.Blank

/-
  Safe file names for uploads.

  A name sent by a client may carry a path from either kind of file system, blanks and any
  character at all.  `sanitize` keeps the last path segment, trims blanks, turns every
  character outside `A-Z a-z 0-9 . _ -` into `_` and cuts the result to at most 100
  characters, keeping an extension of up to 16 characters (dot included).  A name of dots
  only, or nothing at all, is refused.
-/

namespace Storefront.Media

/-- The longest name kept. -/
def maxNameLength : Nat := 100

/-- The longest extension, dot included, that survives a cut. -/
def maxExtensionLength : Nat := 16

/-- Whether a character may stay in a file name. -/
def isNameChar (c : Char) : Bool :=
  c.isAlphanum || c = '.' || c = '_' || c = '-'

/-- The part after the last `/` or `\`. -/
def lastSegment (cs : List Char) : List Char :=
  (cs.reverse.takeWhile fun c => c ≠ '/' && c ≠ '\\').reverse

/-- The extension kept by a cut: from the last dot, if the dot is not first and the rest is
short enough. -/
def keptExtension (cs : List Char) : List Char :=
  match cs.reverse.findIdx? (· = '.') with
  | some j =>
    let dot := cs.length - 1 - j
    if 0 < dot && cs.length - dot ≤ maxExtensionLength then cs.drop dot else []
  | none => []

/-- A name cut to `maxNameLength` characters, its extension kept. -/
def cut (cs : List Char) : List Char :=
  if cs.length ≤ maxNameLength then cs
  else
    let ext := keptExtension cs
    cs.take (maxNameLength - ext.length) ++ ext

/-- The safe form of a client's file name, or the refusal of an empty one. -/
def sanitize (raw : String) : Except Error String :=
  let base := Text.trimBlanks (lastSegment raw.toList)
  let name := cut (base.map fun c => if isNameChar c then c else '_')
  if name.all (· = '.') then .error (.invalidRequest "file name is empty")
  else .ok (String.ofList name)

example : sanitize "C:\\Users\\me\\my cat (1).jpg" = .ok "my_cat__1_.jpg" := by rfl
example : sanitize "a/.." = .error (.invalidRequest "file name is empty") := by
  rfl

end Storefront.Media
