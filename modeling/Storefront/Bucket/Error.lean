/-
  Why an object bucket refuses a call.

  A key that would leave the bucket's root, a failure of the disk underneath, or a refusal by
  the provider.  Each has one written form, which `Storefront.Error.ofBucket` wraps when a
  service passes the failure on.
-/

namespace Storefront.Bucket

/-- A failed bucket call. -/
inductive Error where
  /-- The key names no object inside the bucket. -/
  | invalidKey (key : String)
  /-- The file system failed; the text is the system's own. -/
  | io (text : String)
  /-- The provider refused the call. -/
  | rejected (reason : String)
  deriving DecidableEq, Repr

/-- The written form of a failed bucket call. -/
def Error.message : Error → String
  | .invalidKey key => "invalid object key: " ++ key
  | .io text => text
  | .rejected reason => "provider rejected the request: " ++ reason

end Storefront.Bucket
