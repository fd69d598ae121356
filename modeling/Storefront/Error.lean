import Storefront.Bucket.Error

/-
  The ways a request to the shop can fail.

  Each failure has a cause, an HTTP status and two texts: `message` for the log and
  `publicMessage` for the client.  Only an internal failure hides its text from the client.
-/

namespace Storefront

/-- A failed request, by cause. -/
inductive Error where
  /-- The request is malformed or incomplete. -/
  | invalidRequest (message : String)
  /-- The caller is not signed in, or may not do this. -/
  | unauthorized (message : String)
  /-- The named thing does not exist. -/
  | notFound (message : String)
  /-- The thing to be created exists already. -/
  | conflict (message : String)
  /-- An upload is larger than `limit` bytes. -/
  | payloadTooLarge (limit : Nat)
  /-- An upload has a content type that is not accepted. -/
  | unsupportedMediaType (mime : String)
  /-- Something below the service failed. -/
  | internal (message : String)
  deriving DecidableEq, Repr

namespace Error

/-- The full text of a failure. -/
def message : Error → String
  | .invalidRequest m | .unauthorized m | .notFound m | .conflict m | .internal m => m
  | .payloadTooLarge limit => s!"file is too large, the limit is {limit} bytes"
  | .unsupportedMediaType mime => "file type is not supported: " ++ mime

/-- The name of the cause of a failure. -/
def kind : Error → String
  | .invalidRequest _ => "InvalidRequest"
  | .unauthorized _ => "Unauthorized"
  | .notFound _ => "NotFound"
  | .conflict _ => "Conflict"
  | .payloadTooLarge _ => "PayloadTooLarge"
  | .unsupportedMediaType _ => "UnsupportedMediaType"
  | .internal _ => "Internal"

/-- The HTTP status of a failure. -/
def status : Error → Nat
  | .invalidRequest _ => 400
  | .unauthorized _ => 401
  | .notFound _ => 404
  | .conflict _ => 409
  | .payloadTooLarge _ => 413
  | .unsupportedMediaType _ => 415
  | .internal _ => 500

/-- The text shown to the client: the message, except for internal failures. -/
def publicMessage : Error → String
  | .internal _ => "internal server error"
  | e => e.message

/-- A bucket failure passed on by a service. -/
def ofBucket (e : Bucket.Error) : Error :=
  .internal ("storage error: " ++ e.message)

/-- A file system failure met by a service itself. -/
def ofIo (text : String) : Error :=
  .internal ("io error: " ++ text)

end Error

end Storefront
