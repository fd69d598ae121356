import Storefront.Json.Value
import Storefront.Time.Instant

/-
  Records of uploaded files.

  One record per image that reached the bucket: which product it belongs to, its kind, its
  detected content type, its safe name, its size, how far its upload got, when the upload
  started and its public url.  Kinds and statuses are stored and written as their texts.
-/

namespace Storefront.Media

open Storefront.Json Storefront.Time

/-- The kinds of file a shop stores. -/
inductive FileType
  | image
  deriving DecidableEq, Repr

/-- The text of a kind of file. -/
def FileType.text : FileType → String
  | .image => "image"

/-- How far the upload of a file has got: the client's part first, then the bucket's. -/
inductive FileStatus
  | clientUploadInProgress
  | uploadedByClient
  | clientUploadError
  | storageUploadInProgress
  | uploadedToStorage
  | storageUploadError
  deriving DecidableEq, Repr

/-- The text of an upload status. -/
def FileStatus.text : FileStatus → String
  | .clientUploadInProgress => "client-upload-in-progress"
  | .uploadedByClient => "uploaded-by-client"
  | .clientUploadError => "client-upload-error"
  | .storageUploadInProgress => "storage-upload-in-progress"
  | .uploadedToStorage => "uploaded-to-storage"
  | .storageUploadError => "storage-upload-error"

/-- An uploaded file. -/
structure FileRecord where
  id : String
  productId : String
  kind : FileType
  contentType : String
  name : String
  size : Nat
  status : FileStatus
  uploadStartedAt : Instant
  url : String
  deriving DecidableEq, Repr

/-- The record of an uploaded file as a JSON object. -/
def FileRecord.toJson (f : FileRecord) : Value :=
  .obj [("id", .str f.id), ("product_id", .str f.productId), ("type", .str f.kind.text),
    ("content_type", .str f.contentType), ("name", .str f.name), ("size", .num (.nat f.size)),
    ("status", .str f.status.text), ("upload_started_at", .str f.uploadStartedAt.rfc3339),
    ("url", .str f.url)]

end Storefront.Media
