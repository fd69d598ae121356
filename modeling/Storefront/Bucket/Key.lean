import Storefront.Bucket.Error
import Storefront.Text.Blank

/-
  Object keys: where a product's image lives, and where a key lives on disk.

  An image url ends in the object's name; `imageKeyOfUrl` recovers the key `images/<name>`
  from it, ignoring a query and a fragment.  A key is safe on disk when every segment of it
  is a plain name: it is not empty, does not start at the root, does not start with `.` as a
  segment and has no `..` segment.  Empty segments and inner `.` segments are skipped when the
  segments are read, so they do not make a key unsafe.
-/

namespace Storefront.Bucket

/-- The url up to its first `?` or `#`. -/
def urlPath (url : List Char) : List Char :=
  url.takeWhile fun c => c ≠ '?' && c ≠ '#'

/-- The text after the last `/`. -/
def lastPathSegment (cs : List Char) : List Char :=
  (cs.reverse.takeWhile (· ≠ '/')).reverse

/-- The key of the image at a url: `images/` and the url's last path segment, unless that
segment is empty, `.` or `..`. -/
def imageKeyOfUrl (url : String) : Option String :=
  let name := String.ofList (lastPathSegment (urlPath url.toList))
  if name = "" || name = "." || name = ".." then none else some ("images/" ++ name)

/-- A text without the `/` characters at its end. -/
def trimSlashes (s : String) : String :=
  String.ofList (s.toList.reverse.dropWhile (· = '/')).reverse

/-- One segment of a path as it is read: a plain name, the current or the parent folder. -/
inductive Segment where
  | root
  | current
  | parent
  | name (s : String)
  deriving DecidableEq, Repr

/-- The segment named by a non-empty part of a path. -/
def Segment.ofPart (p : List Char) : Segment :=
  if p = ['.'] then .current else if p = ['.', '.'] then .parent else .name (String.ofList p)

/-- The segments of a path: the root if it starts with `/`, a leading `.`, then every
non-empty part between slashes except an inner `.`. -/
def segments (path : String) : List Segment :=
  match Text.splitChars '/' path.toList with
  | [] => []
  | first :: rest =>
    let head : List Segment :=
      if first = [] then (if rest.isEmpty then [] else [.root]) else [Segment.ofPart first]
    let tail := rest.filterMap fun p =>
      if p = [] || p = ['.'] then none else some (Segment.ofPart p)
    head ++ tail

/-- Whether a segment is a plain name. -/
def Segment.isName : Segment → Bool
  | .name _ => true
  | _ => false

/-- Whether a key is safe to store below a root. -/
def isSafeKey (key : String) : Bool :=
  key ≠ "" && (segments key).all Segment.isName

/-- A path joined with a relative one: a `/` between them unless the first is empty or
already ends with `/`. -/
def joinPath (root rel : String) : String :=
  if root.toList.getLast? = some '/' || root = "" then root ++ rel else root ++ "/" ++ rel

/-- The file of a key below a root, or the refusal of an unsafe key. -/
def resolve (root key : String) : Except Error String :=
  if isSafeKey key then .ok (joinPath root key) else .error (.invalidKey key)

example : imageKeyOfUrl "https://cdn.example.com/images/abc.png?v=2#top" = some "images/abc.png" := by
  decide
example : resolve "/srv/bucket" "a/./b" = .ok "/srv/bucket/a/./b" := by rfl
example : resolve "/srv/bucket" "a/.." = .error (.invalidKey "a/..") := by rfl

end Storefront.Bucket
