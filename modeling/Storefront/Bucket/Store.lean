import Storefront.Bucket.Memory
import Storefront.Bucket.Disk

/-
  The bucket a shop keeps its images in: one in memory or one on disk.
-/

namespace Storefront.Bucket

/-- A bucket of either kind. -/
inductive Store where
  | memory (m : Memory)
  | disk (d : Disk)

namespace Store

/-- Stores an object under a key and answers its url. -/
def upload (s : Store) (key contentType : String) (body : ByteArray) :
    Store × Except Error String :=
  match s with
  | .memory m => let (m, r) := m.upload key contentType body; (.memory m, r)
  | .disk d => let (d, r) := d.upload key body; (.disk d, r)

/-- Removes the object under a key. -/
def delete (s : Store) (key : String) : Store × Except Error Unit :=
  match s with
  | .memory m => let (m, r) := m.delete key; (.memory m, r)
  | .disk d => let (d, r) := d.delete key; (.disk d, r)

/-- How long uploads wait before they are carried out, in milliseconds. -/
def stall (s : Store) : Option Nat :=
  match s with
  | .memory m => m.stall
  | .disk _ => none

end Store

end Storefront.Bucket
