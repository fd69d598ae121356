import Storefront.Bucket.Key

/-
  A bucket on a local disk, as a tree of folders and files below its root.

  Files and folders are kept by their path below the root, a list of plain names.  A key names
  the file at the path of its plain segments (empty and inner `.` segments are skipped), and the
  system is given the root joined with the key.  It refuses a path with a NUL byte in it before
  it looks at the disk, and one of `pathMax` bytes or more; walking down a path it refuses a
  name longer than a folder holds (`nameMax` bytes), once it reaches the name.  Storing a file
  first makes the folders above it, which stay when the file is removed; it fails when a file
  stands where a folder should, or when the path is a folder.  Removing a missing file is no
  error.  An object's url is the public url, `/uploads/`, and the key.  The failures carry the
  system's own texts.
-/
namespace Storefront.Bucket

/-- A bucket on disk. -/
structure Disk where
  /-- The folder the files are kept in, as the system names it. -/
  root : String
  /-- The public url, without a trailing `/`. -/
  publicUrl : String
  files : List (List String × ByteArray) := []
  /-- Every folder made below the root. -/
  folders : List (List String) := []

/-- What a path names in a disk bucket. -/
inductive Node where
  /-- A file, with its contents. -/
  | file (data : ByteArray)
  /-- A folder: some file lies below it. -/
  | folder
  /-- A file lies on the way: the path cannot be reached. -/
  | blocked
  /-- The name the walk down the path stops at is longer than a folder holds. -/
  | overlong
  /-- Nothing. -/
  | missing

/-- The text of a failed call for a path that passes through a file. -/
def notAFolder : String := "Not a directory (os error 20)"

/-- The text of a failed call for a path that is a folder. -/
def isAFolder : String := "Is a directory (os error 21)"

/-- The text of a failed folder creation where a file stands. -/
def fileExists : String := "File exists (os error 17)"

/-- The text of a failed call for a path with a NUL byte in it, which is never passed on. -/
def nulInPath : String := "file name contained an unexpected NUL byte"

/-- The text of a failed call for a path, or a name on it, longer than the system takes. -/
def nameTooLong : String := "File name too long (os error 36)"

/-- The most bytes a name in a folder may have. -/
def nameMax : Nat := 255

/-- The bytes a path given to the system stays below, its closing NUL byte counted. -/
def pathMax : Nat := 4096

/-- Whether a name has more bytes than a folder holds. -/
def overlong (name : String) : Bool :=
  nameMax < name.utf8ByteSize

/-- Whether a text has a NUL byte in it. -/
def hasNul (text : String) : Bool :=
  text.toList.contains (Char.ofNat 0)

/-- Why the system refuses a path before it looks at the disk: a NUL byte in it, or `pathMax`
bytes or more. -/
def pathFault (path : String) : Option String :=
  if hasNul path then some nulInPath
  else if pathMax ≤ path.utf8ByteSize then some nameTooLong
  else none

/-- The plain names of a safe key. -/
def keyPath (key : String) : List String :=
  (segments key).filterMap fun
    | .name s => some s
    | _ => none

namespace Disk

/-- An empty bucket in a folder, under a public url. -/
def empty (root publicUrl : String) : Disk :=
  { root, publicUrl := trimSlashes publicUrl }

/-- The first name of `rest` whose path, below the folder `done`, is no folder: where a walk
down the path stops. -/
def stopBelow (d : Disk) (done : List String) : List String → Option String
  | [] => none
  | n :: rest => if d.folders.contains (done ++ [n]) then d.stopBelow (done ++ [n]) rest else some n

/-- What a path names. -/
def node (d : Disk) (path : List String) : Node :=
  match d.files.find? (·.1 == path) with
  | some (_, data) => .file data
  | none =>
    if path = [] || d.folders.contains path then .folder
    else if d.files.any fun (p, _) => p.length < path.length && path.take p.length == p then .blocked
    else if (d.stopBelow [] path).any overlong then .overlong
    else .missing

/-- The folders above a path, outermost first. -/
def foldersAbove (path : List String) : List (List String) :=
  ((List.range path.length).map path.take).filter (· ≠ [])

/-- Makes the folders above a path, outermost first, as far as it can, with the system's text of
why it stops: a NUL byte in their names (`nulInPath`) or a file where a folder should be
(`fileExists` for the innermost, `notAFolder` above it), before any is made; or a name longer
than a folder holds (`nameTooLong`), once the folders above that name are made. -/
def makeFolders (d : Disk) (path : List String) : Disk × Except String Unit :=
  let wanted := foldersAbove path
  if path.dropLast.any hasNul then (d, .error nulInPath)
  else
    match wanted.find? fun f => (d.files.find? (·.1 == f)).isSome with
    | some f => (d, .error (if wanted.getLast? = some f then fileExists else notAFolder))
    | none =>
      let fit := wanted.takeWhile fun f => !(f.getLast?.any overlong)
      ({ d with folders := d.folders ++ fit.filter fun f => !d.folders.contains f },
        if fit.length = wanted.length then .ok () else .error nameTooLong)

/-- The url of a key. -/
def url (d : Disk) (key : String) : String :=
  d.publicUrl ++ "/uploads/" ++ key

/-- Stores a file under a key, making its folders, and answers its url. -/
def upload (d : Disk) (key : String) (body : ByteArray) : Disk × Except Error String :=
  match resolve d.root key with
  | .error e => (d, .error e)
  | .ok file =>
    let path := keyPath key
    match d.makeFolders path with
    | (d, .error text) => (d, .error (.io text))
    | (d, .ok ()) =>
      match pathFault file with
      | some text => (d, .error (.io text))
      | none =>
        match d.node path with
        | .folder => (d, .error (.io isAFolder))
        | .blocked => (d, .error (.io notAFolder))
        | .overlong => (d, .error (.io nameTooLong))
        | _ =>
          ({ d with files := (d.files.filter (·.1 != path)) ++ [(path, body)] }, .ok (d.url key))

/-- Removes the file of a key; a missing one is no error. -/
def delete (d : Disk) (key : String) : Disk × Except Error Unit :=
  match resolve d.root key with
  | .error e => (d, .error e)
  | .ok file =>
    match pathFault file with
    | some text => (d, .error (.io text))
    | none =>
      let path := keyPath key
      match d.node path with
      | .file _ => ({ d with files := d.files.filter (·.1 != path) }, .ok ())
      | .folder => (d, .error (.io isAFolder))
      | .blocked => (d, .error (.io notAFolder))
      | .overlong => (d, .error (.io nameTooLong))
      | .missing => (d, .ok ())

/-- The files below the root, by path, with their sizes. -/
def listing (d : Disk) : List (String × Nat) :=
  (d.files.map fun (p, data) => ("/".intercalate p, data.size)).mergeSort fun a b => a.1 ≤ b.1

end Disk

end Storefront.Bucket
