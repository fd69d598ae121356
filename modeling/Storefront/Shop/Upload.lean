import Storefront.Shop.Inventory
import Storefront.Media.Sniff
import Storefront.Media.FileName
import Storefront.Text.Blank
import Storefront.Time.Span

/-
  Uploading a product image.

  An upload names a product and carries a file.  The file must be at most 5 MiB and must be
  a JPEG, PNG or WebP image by its content, whatever its name says.  It is stored in the
  bucket under `images/<id>.<safe name>` and then becomes the product's image; the image it
  replaces is removed from the bucket.

  The file is first written to the staging folder as `<id>.<safe name>`, and the bucket reads
  it from there.  The staged file is removed again however the upload ends, once it is written
  or a write of it has failed part way.

  The bucket is given a fixed time for the upload.  When the time runs out first, nothing is
  stored.  When the bucket refuses the upload nothing else happens; when a later step fails,
  the new object is removed again, and a failure of that removal is ignored.
-/

namespace Storefront.Shop

open Storefront.Media

/-- The largest file an upload may carry, in bytes. -/
def maxUploadSize : Nat := 5 * Nat.pow 2 20

/-- What an upload carries: each part may be missing. -/
structure UploadForm where
  productId : Option String := none
  fileName : Option String := none
  data : Option ByteArray := none

/-- Stores the staged file `staged` in the bucket as an object within the configured time,
answering its url.

Giving up on a late upload does not stop a write to the disk bucket that is already under way,
so a timed-out disk upload can still leave its object behind, with no removal of it to follow.
The disk bucket never stalls here, and that race is left out. -/
def ship (key contentType staged : String) : Service String := do
  let sh ← get
  let limit := sh.settings.uploadTimeoutMs
  let late := match sh.bucket.stall with
    | some ms => limit ≤ ms
    | none => false
  if limit = 0 || late then
    throw (.internal s!"upload of {key} timed out after {Time.spanText limit}")
  let some data := sh.staging.read? staged
    | throw (Error.ofBucket (.io noSuchFile))
  match ← withBucket (·.upload key contentType data) with
  | .ok url => pure url
  | .error e => throw (Error.ofBucket e)

/-- Removes an object that is no longer wanted, ignoring a failure. -/
def discard (key : String) : Service Unit := do
  let _ ← withBucket (·.delete key)

/-- Removes a staged file; a missing one is no error. -/
def unstage (name : String) : Service Unit :=
  withStaging fun st => (st.remove name, ())

/-- Writes an upload's file to the staging folder.  A write that fails removes what it wrote
before the failure is passed on. -/
def stage (name : String) (data : ByteArray) : Service Unit := do
  if let .error text ← withStaging (·.write name data) then
    unstage name
    throw (Error.ofIo text)

/-- A step taken while a file is staged: when it fails, the staged file is removed before the
failure is passed on. -/
def orUnstage {α : Type} (name : String) (x : Service α) : Service α :=
  tryCatch x fun e => do
    unstage name
    throw e

/-- What a form that passes every check carries: the product id, the file, the type its
bytes show and its safe name. -/
structure CheckedForm where
  productId : String
  data : ByteArray
  contentType : String
  name : String

/-- The checks of an upload form, in the order they are made: the size of the file, the
product id, the presence of the file, the type its bytes show and its name.  The first that
fails gives the answer. -/
def UploadForm.check (form : UploadForm) : Except Error CheckedForm := do
  if let some data := form.data then
    unless data.size ≤ maxUploadSize do throw (.payloadTooLarge maxUploadSize)
  let some productId := form.productId.filter fun p => !Text.isBlankText p
    | throw (.invalidRequest "select product id")
  let some data := form.data
    | throw (.invalidRequest "file is required")
  let contentType ← sniffImage data
  let name ← sanitize (form.fileName.getD "")
  pure { productId, data, contentType, name }

/-- An upload whose file is in the bucket. -/
structure ShippedUpload where
  form : CheckedForm
  fileId : String
  startedAt : Time.Instant
  url : String

/-- The key an upload stores its file under: `images/<file id>.<safe name>`. -/
def ShippedUpload.key (u : ShippedUpload) : String :=
  "images/" ++ u.fileId ++ "." ++ u.form.name

/-- The name an upload stages its file under: `<file id>.<safe name>`. -/
def ShippedUpload.staged (u : ShippedUpload) : String :=
  u.fileId ++ "." ++ u.form.name

/-- The record an upload writes for its file: an image, with the status its upload reached
once the file was in the bucket. -/
def ShippedUpload.record (u : ShippedUpload) : FileRecord :=
  { id := u.fileId, productId := u.form.productId, kind := .image,
    contentType := u.form.contentType, name := u.form.name, size := u.form.data.size,
    status := .uploadedToStorage, uploadStartedAt := u.startedAt, url := u.url }

/-- Checks the form, takes a file id, stages the file, takes a start time and ships the staged
file to the bucket.  When shipping fails, the staged file is removed. -/
def shipUpload (form : UploadForm) : Service ShippedUpload := do
  let checked ← ofExcept form.check
  let fileId ← freshId
  let staged := fileId ++ "." ++ checked.name
  stage staged checked.data
  let startedAt ← now
  let url ← orUnstage staged
    (ship ("images/" ++ fileId ++ "." ++ checked.name) checked.contentType staged)
  pure { form := checked, fileId, startedAt, url }

/-- The key of the object a product's image names, read from the product, which must exist. -/
def previousImage (productId : String) : Service (Option String) := do
  match (← get).tables.productById productId with
  | some p => pure (Bucket.imageKeyOfUrl p.image)
  | none => throw (productNotFound productId)

/-- Removes the object of a product's previous image, if its url names one. -/
def removePrevious : Option String → Service Unit
  | none => pure ()
  | some old => do
    if let .error e ← withBucket (·.delete old) then throw (Error.ofBucket e)

/-- Points the product at the uploaded file and records the file, both or neither. -/
def recordUpload (u : ShippedUpload) : Service Unit := do
  match (← get).tables.attachFile u.record with
  | some t => modify fun s => { s with tables := t }
  | none => throw (productNotFound u.form.productId)

/-- Undoes an upload whose file is stored: the object is discarded and the staged file
removed. -/
def ShippedUpload.undo (u : ShippedUpload) : Service Unit := do
  discard u.key
  unstage u.staged

/-- A step taken once the file is stored: when it fails, the upload is undone before the
failure is passed on. -/
def orUndo {α : Type} (u : ShippedUpload) (x : Service α) : Service α :=
  tryCatch x fun e => do
    u.undo
    throw e

/-- Uploads a product image, answering its url.  Each step after the first is one call on the
bucket or one access to the tables; the staged file is removed at the end. -/
def uploadImage (form : UploadForm) : Service String := do
  let u ← shipUpload form
  let old ← orUndo u (previousImage u.form.productId)
  orUndo u (removePrevious old)
  orUndo u (recordUpload u)
  unstage u.staged
  pure u.url

end Storefront.Shop
