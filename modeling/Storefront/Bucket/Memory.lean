import Storefront.Bucket.Key

/-
  A bucket held in memory that records every call made to it.

  Each upload and each delete is recorded, in order, before anything else happens; the bucket
  can be told to refuse uploads, deletes or both, and a refused call changes nothing but the
  record.  An object's url is the bucket's base url, a `/`, and the key.
-/

namespace Storefront.Bucket

/-- A call made to a bucket. -/
inductive Call where
  | upload (key contentType : String) (size : Nat)
  | delete (key : String)
  deriving DecidableEq, Repr

/-- A bucket in memory. -/
structure Memory where
  /-- The base url, without a trailing `/`. -/
  baseUrl : String
  objects : List (String × ByteArray) := []
  calls : List Call := []
  refuseUploads : Bool := false
  refuseDeletes : Bool := false
  /-- How long an upload waits before it is carried out, in milliseconds. -/
  stall : Option Nat := none

namespace Memory

/-- An empty bucket under a base url. -/
def empty (baseUrl : String) : Memory :=
  { baseUrl := trimSlashes baseUrl }

/-- Whether an object is stored under a key. -/
def contains (m : Memory) (key : String) : Bool :=
  m.objects.any (·.1 == key)

/-- Stores an object, replacing one under the same key, and answers its url. -/
def upload (m : Memory) (key contentType : String) (body : ByteArray) :
    Memory × Except Error String :=
  let m : Memory := { m with calls := m.calls ++ [.upload key contentType body.size] }
  if m.refuseUploads then (m, .error (.rejected s!"upload of {key} refused"))
  else
    ({ m with objects := (m.objects.filter (·.1 != key)) ++ [(key, body)] },
      .ok (m.baseUrl ++ "/" ++ key))

/-- Removes an object; removing a missing key is no error. -/
def delete (m : Memory) (key : String) : Memory × Except Error Unit :=
  let m : Memory := { m with calls := m.calls ++ [.delete key] }
  if m.refuseDeletes then (m, .error (.rejected s!"delete of {key} refused"))
  else ({ m with objects := m.objects.filter (·.1 != key) }, .ok ())

end Memory

end Storefront.Bucket
