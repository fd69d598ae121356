import Storefront.Proofs.ServiceRun

/-
  What one image upload can do, and what it leaves behind.

  `uploadImage` checks its form, takes a file id, stages the file, takes a start time, ships the
  staged file to the bucket, removes the product's previous image, records the upload, and
  removes the staged file.  `UploadRun` lists every way a
  run can end, phase by phase, with the answer and the state after; `uploadImage_run` says
  every run ends in one of them.  The statements about uploads are read off that list, and
  none of them unfolds `uploadImage` again.

  Main statement: a failed upload leaves every table as it was, and a successful one changes
  exactly the product's image and adds exactly one file record (`uploadImage_tables`).  The calls
  an upload makes to the bucket, replayed by `Store.perform`, are the subject of
  `Storefront.Proofs.UploadCalls`.
-/

namespace Storefront.Bucket

/-! ## Calls to a bucket -/

/-- The bucket after making `calls` in order, each upload carrying `body`. -/
def Store.perform (b : Store) (body : ByteArray) : List Call → Store
  | [] => b
  | .upload key contentType _ :: rest => (b.upload key contentType body).1.perform body rest
  | .delete key :: rest => (b.delete key).1.perform body rest

namespace Memory

/-- An in-memory bucket records an upload, refused or not. -/
@[simp] theorem upload_calls (m : Memory) (key contentType : String) (body : ByteArray) :
    (m.upload key contentType body).1.calls = m.calls ++ [.upload key contentType body.size] := by
  simp only [upload]
  split <;> rfl

/-- An in-memory bucket records a delete, refused or not. -/
@[simp] theorem delete_calls (m : Memory) (key : String) :
    (m.delete key).1.calls = m.calls ++ [.delete key] := by
  simp only [delete]
  split <;> rfl

@[simp] theorem upload_refuseDeletes (m : Memory) (key contentType : String) (body : ByteArray) :
    (m.upload key contentType body).1.refuseDeletes = m.refuseDeletes := by
  simp only [upload]
  split <;> rfl

@[simp] theorem delete_refuseDeletes (m : Memory) (key : String) :
    (m.delete key).1.refuseDeletes = m.refuseDeletes := by
  simp only [delete]
  split <;> rfl

/-- A delete that is not refused leaves no object under its key. -/
theorem contains_delete (m : Memory) (key : String) (h : m.refuseDeletes = false) :
    (m.delete key).1.contains key = false := by
  simp [delete, contains, h]

end Memory

/-- Making calls on an in-memory bucket keeps it in memory and records the calls, in order. -/
theorem Store.perform_memory (m : Memory) (body : ByteArray) (calls : List Call)
    (hsize : ∀ key contentType size, Call.upload key contentType size ∈ calls → size = body.size) :
    ∃ m', (Store.memory m).perform body calls = .memory m' ∧ m'.calls = m.calls ++ calls ∧
      m'.refuseDeletes = m.refuseDeletes := by
  induction calls generalizing m with
  | nil => exact ⟨m, rfl, by simp, rfl⟩
  | cons call rest ih =>
    have hrest : ∀ key contentType size, Call.upload key contentType size ∈ rest →
        size = body.size := fun k c n h => hsize k c n (List.mem_cons_of_mem _ h)
    cases call with
    | upload key contentType size =>
      obtain ⟨m', hperf, hcalls, hflag⟩ := ih (m.upload key contentType body).1 hrest
      have hsz : size = body.size := hsize key contentType size List.mem_cons_self
      refine ⟨m', hperf, ?_, by simpa using hflag⟩
      simp [hcalls, hsz]
    | delete key =>
      obtain ⟨m', hperf, hcalls, hflag⟩ := ih (m.delete key).1 hrest
      exact ⟨m', hperf, by simp [hcalls], by simpa using hflag⟩

theorem Store.perform_append (b : Store) (body : ByteArray) (calls more : List Call) :
    b.perform body (calls ++ more) = (b.perform body calls).perform body more := by
  induction calls generalizing b with
  | nil => rfl
  | cons call rest ih => cases call <;> exact ih _

/-- Calls that end with a delete that an in-memory bucket does not refuse leave no object under
its key. -/
theorem Store.perform_delete_last (m m' : Memory) (body : ByteArray) (calls : List Call)
    (key : String)
    (hsize : ∀ key contentType size, Call.upload key contentType size ∈ calls → size = body.size)
    (hperf : (Store.memory m).perform body (calls ++ [.delete key]) = .memory m')
    (hkeep : m.refuseDeletes = false) : m'.contains key = false := by
  obtain ⟨m₁, h₁, -, hflag⟩ := perform_memory m body calls hsize
  rw [perform_append, h₁] at hperf
  cases hperf
  exact Memory.contains_delete m₁ key (hflag.trans hkeep)

end Storefront.Bucket

namespace Storefront.Shop

open Storefront.Media Storefront.Catalog Storefront.Sql

/-! ## The phases of an upload -/

/-- The checks of an upload form that pass, and what they give: the product id, the file, its
sniffed content type and its safe name. -/
structure UploadForm.Accepted (form : UploadForm) (productId : String) (data : ByteArray)
    (contentType name : String) : Prop where
  givesProduct : form.productId.filter (fun p => !Text.isBlankText p) = some productId
  givesFile : form.data = some data
  small : data.size ≤ maxUploadSize
  sniffed : sniffImage data = .ok contentType
  named : sanitize (form.fileName.getD "") = .ok name

/-- The state once an upload has taken its file id and its start time. -/
def State.stamped (s : State) : State :=
  { s with issued := s.issued + 1, clock := s.clock + 1 }

/-- The key an upload from `s` stores a file of safe name `name` under: `images/<id>.<name>`,
with the next file id. -/
def uploadKey (s : State) (name : String) : String :=
  "images/" ++ idNumbered (s.issued + 1) ++ "." ++ name

/-- The name an upload from `s` stages a file of safe name `name` under: `<id>.<name>`, with
the next file id. -/
def stagedName (s : State) (name : String) : String :=
  idNumbered (s.issued + 1) ++ "." ++ name

/-- The record an upload from `s` writes for its file: an image uploaded to storage. -/
def uploadRecord (s : State) (productId : String) (data : ByteArray) (contentType name url : String) :
    FileRecord :=
  { id := idNumbered (s.issued + 1), productId, kind := .image, contentType, name,
    size := data.size, status := .uploadedToStorage, uploadStartedAt := instantAt s.clock, url }

/-! ## The steps of an upload

One equation per step of `uploadImage`: what a run of it answers and the state it leaves. -/

/-- The checks pass exactly when the form is accepted, and they give what it carries. -/
theorem UploadForm.check_eq_ok {form : UploadForm} {c : CheckedForm} :
    form.check = .ok c ↔ form.Accepted c.productId c.data c.contentType c.name := by
  constructor
  · intro h
    -- every way through the checks but the last ends in a failure
    rcases hd : form.data with _ | d
    · rcases hp : form.productId.filter (fun p => !Text.isBlankText p) with _ | p <;>
        simp [UploadForm.check, hd, hp, throw, throwThe, MonadExceptOf.throw] at h
    rcases hp : form.productId.filter (fun p => !Text.isBlankText p) with _ | p
    · by_cases hs : d.size ≤ maxUploadSize <;>
        simp [UploadForm.check, hd, hp, hs, bind, Except.bind, throw, throwThe, MonadExceptOf.throw] at h
    by_cases hs : d.size ≤ maxUploadSize
    · rcases hct : sniffImage d with e | ct <;> rcases hn : sanitize (form.fileName.getD "") with e' | n <;>
        simp [UploadForm.check, hd, hp, hs, hct, hn, bind, Except.bind, pure, Except.pure] at h
      subst h
      exact ⟨hp, hd, hs, hct, hn⟩
    · simp [UploadForm.check, hd, hs, bind, Except.bind, throw, throwThe, MonadExceptOf.throw] at h
  · rintro ⟨hp, hd, hs, hct, hn⟩
    simp [UploadForm.check, hd, hp, hs, hct, hn, bind, Except.bind, pure, Except.pure]

/-- Shipping checks the form, takes the next file id, stages the file, takes the clock's time
and makes one call on the bucket, unless the write to the staging folder fails or the upload
would outlast its time.  Every failure after the write leaves the staging folder as removing
the staged name from it would. -/
theorem run_shipUpload (form : UploadForm) (s : State) :
    (shipUpload form).run.run s =
      match form.check with
      | .error e => (.error e, s)
      | .ok c =>
        match (s.staging.write (stagedName s c.name) c.data).2 with
        | .error text =>
          (.error (Error.ofIo text),
            { s with issued := s.issued + 1, staging := s.staging.remove (stagedName s c.name) })
        | .ok () =>
          if s.uploadLate then
            (.error (.internal s!"upload of {uploadKey s c.name} timed out after {Time.spanText s.settings.uploadTimeoutMs}"),
              { s.stamped with staging := s.staging.remove (stagedName s c.name) })
          else
            match s.bucket.upload (uploadKey s c.name) c.contentType c.data with
            | (b, .ok url) =>
              (.ok ⟨c, idNumbered (s.issued + 1), instantAt s.clock, url⟩,
                { s.stamped with
                  bucket := b, staging := (s.staging.write (stagedName s c.name) c.data).1 })
            | (b, .error e) =>
              (.error (Error.ofBucket e),
                { s.stamped with bucket := b, staging := s.staging.remove (stagedName s c.name) }) := by
  unfold shipUpload
  simp only [run_bind, run_ofExcept]
  rcases form.check with e | c
  · rfl
  -- unfolding the key and the staged name apart from the branches keeps simp from comparing
  -- texts
  unfold stagedName uploadKey
  simp only [run_freshId, run_stage]
  have hremove := Media.Staging.remove_write s.staging (idNumbered (s.issued + 1) ++ "." ++ c.name)
    c.data
  rcases hw : (s.staging.write (idNumbered (s.issued + 1) ++ "." ++ c.name) c.data).2 with
    text | ⟨⟩
  · rfl
  have hread := Media.Staging.read?_write hw
  simp only [run_now, run_orUnstage, run_ship, State.uploadLate_mk, hread]
  by_cases hlate : s.uploadLate = true
  · simp only [hlate, if_true, hremove]
    rfl
  · simp only [hlate, Bool.false_eq_true, if_false]
    rcases s.bucket.upload ("images/" ++ idNumbered (s.issued + 1) ++ "." ++ c.name) c.contentType
      c.data with ⟨b, e | url⟩
    · simp only [hremove]
      rfl
    · rfl

/-- Reading the previous image reads the tables only. -/
theorem run_previousImage (productId : String) (s : State) :
    (previousImage productId).run.run s =
      match s.tables.productById productId with
      | some p => (.ok (Bucket.imageKeyOfUrl p.image), s)
      | none => (.error (productNotFound productId), s) := by
  unfold previousImage
  simp only [run_bind, run_get]
  rcases s.tables.productById productId with _ | p <;> rfl

/-- Removing the previous image makes one call on the bucket, if its url names an object. -/
theorem run_removePrevious (old : Option String) (s : State) :
    (removePrevious old).run.run s =
      match old with
      | none => (.ok (), s)
      | some key =>
        match s.bucket.delete key with
        | (b, .ok ()) => (.ok (), { s with bucket := b })
        | (b, .error e) => (.error (Error.ofBucket e), { s with bucket := b }) := by
  cases old with
  | none => rfl
  | some key =>
    simp only [removePrevious, run_bind, run_withBucket]
    rcases s.bucket.delete key with ⟨b, e | ⟨⟩⟩ <;> rfl

/-- Recording the upload writes the tables, or fails and changes nothing. -/
theorem run_recordUpload (u : ShippedUpload) (s : State) :
    (recordUpload u).run.run s =
      match s.tables.attachFile u.record with
      | some t => (.ok (), { s with tables := t })
      | none => (.error (productNotFound u.form.productId), s) := by
  unfold recordUpload
  simp only [run_bind, run_get]
  rcases s.tables.attachFile u.record with _ | t <;> rfl

/-- Undoing an upload makes one more call on the bucket, the discard, and removes the staged
file. -/
@[simp] theorem run_undo (u : ShippedUpload) (s : State) :
    u.undo.run.run s =
      (.ok (), { s with bucket := (s.bucket.delete u.key).1, staging := s.staging.remove u.staged }) :=
  rfl

/-- A failure after the file is stored undoes the upload. -/
theorem run_orUndo {α : Type} (u : ShippedUpload) (x : Service α) (s : State) :
    (orUndo u x).run.run s =
      match x.run.run s with
      | (.ok a, s') => (.ok a, s')
      | (.error e, s') =>
        (.error e, { s' with
          bucket := (s'.bucket.delete u.key).1, staging := s'.staging.remove u.staged }) := by
  unfold orUndo
  simp only [run_tryCatch]
  rcases x.run.run s with ⟨e | a, s'⟩
  · simp only [run_bind, run_undo, run_throw]
  · rfl

/-- The bucket once the previous image of a product is removed: untouched when the image's url
names no object, else after one delete that succeeded. -/
def PreviousRemoved (b : Bucket.Store) (image : String) (b' : Bucket.Store) : Prop :=
  (Bucket.imageKeyOfUrl image = none ∧ b' = b) ∨
    ∃ old, Bucket.imageKeyOfUrl image = some old ∧ b.delete old = (b', .ok ())

/-- How one run of `uploadImage form` from `s` can end: its answer and the state after.  Once
the file is staged, every end leaves the staging folder as removing the staged name from it
would. -/
inductive UploadRun (form : UploadForm) (s : State) : Except Error String → State → Prop
  /-- A check of the form fails before anything happens. -/
  | rejected {e} : form.check = .error e → UploadRun form s (.error e) s
  /-- The file cannot be written to the staging folder: what was written is removed, and the
  bucket is not called. -/
  | stagingFailed {productId data contentType name text} :
      form.Accepted productId data contentType name →
      (s.staging.write (stagedName s name) data).2 = .error text →
      UploadRun form s (.error (Error.ofIo text))
        { s with issued := s.issued + 1, staging := s.staging.remove (stagedName s name) }
  /-- The upload would outlast its time: the bucket is not called. -/
  | timedOut {productId data contentType name e} :
      form.Accepted productId data contentType name →
      (s.staging.write (stagedName s name) data).2 = .ok () → s.uploadLate = true →
      UploadRun form s (.error e) { s.stamped with staging := s.staging.remove (stagedName s name) }
  /-- The bucket refuses the file. -/
  | uploadFailed {productId data contentType name b e} :
      form.Accepted productId data contentType name →
      (s.staging.write (stagedName s name) data).2 = .ok () → s.uploadLate = false →
      s.bucket.upload (uploadKey s name) contentType data = (b, .error e) →
      UploadRun form s (.error (Error.ofBucket e))
        { s.stamped with bucket := b, staging := s.staging.remove (stagedName s name) }
  /-- The product does not exist: the new object is discarded. -/
  | productMissing {productId data contentType name b url} :
      form.Accepted productId data contentType name →
      (s.staging.write (stagedName s name) data).2 = .ok () → s.uploadLate = false →
      s.bucket.upload (uploadKey s name) contentType data = (b, .ok url) →
      s.tables.productById productId = none →
      UploadRun form s (.error (productNotFound productId))
        { s.stamped with
          bucket := (b.delete (uploadKey s name)).1, staging := s.staging.remove (stagedName s name) }
  /-- The previous image cannot be removed: the new object is discarded. -/
  | previousKept {productId data contentType name b url p old b' e} :
      form.Accepted productId data contentType name →
      (s.staging.write (stagedName s name) data).2 = .ok () → s.uploadLate = false →
      s.bucket.upload (uploadKey s name) contentType data = (b, .ok url) →
      s.tables.productById productId = some p → Bucket.imageKeyOfUrl p.image = some old →
      b.delete old = (b', .error e) →
      UploadRun form s (.error (Error.ofBucket e))
        { s.stamped with
          bucket := (b'.delete (uploadKey s name)).1, staging := s.staging.remove (stagedName s name) }
  /-- The product cannot be pointed at the file: the new object is discarded. -/
  | attachFailed {productId data contentType name b url p b'} :
      form.Accepted productId data contentType name →
      (s.staging.write (stagedName s name) data).2 = .ok () → s.uploadLate = false →
      s.bucket.upload (uploadKey s name) contentType data = (b, .ok url) →
      s.tables.productById productId = some p → PreviousRemoved b p.image b' →
      s.tables.attachFile (uploadRecord s productId data contentType name url) = none →
      UploadRun form s (.error (productNotFound productId))
        { s.stamped with
          bucket := (b'.delete (uploadKey s name)).1, staging := s.staging.remove (stagedName s name) }
  /-- The file is stored, the previous image removed, and the upload recorded. -/
  | stored {productId data contentType name b url p b' t} :
      form.Accepted productId data contentType name →
      (s.staging.write (stagedName s name) data).2 = .ok () → s.uploadLate = false →
      s.bucket.upload (uploadKey s name) contentType data = (b, .ok url) →
      s.tables.productById productId = some p → PreviousRemoved b p.image b' →
      s.tables.attachFile (uploadRecord s productId data contentType name url) = some t →
      UploadRun form s (.ok url)
        { s.stamped with bucket := b', tables := t, staging := s.staging.remove (stagedName s name) }

/-- **Every run of an upload ends in one of the ways `UploadRun` lists.**  The proof follows
the program: each check, the write to the staging folder, the time limit, the bucket's answer,
the product, its previous image and the final write. -/
theorem uploadImage_run (form : UploadForm) (s : State) :
    UploadRun form s ((uploadImage form).run.run s).1 ((uploadImage form).run.run s).2 := by
  simp only [uploadImage, run_bind, run_shipUpload]
  -- the checks on the form; a failing one answers at once and changes nothing
  rcases hc : form.check with e | c
  · exact .rejected hc
  have hacc := UploadForm.check_eq_ok.1 hc
  dsimp only
  -- the file is staged, or the write fails and what it wrote is removed
  rcases hw : (s.staging.write (stagedName s c.name) c.data).2 with text | ⟨⟩
  · exact .stagingFailed hacc hw
  -- from here on every end removes the staged file, which gives the folder back without it
  have hremove : (s.staging.write (stagedName s c.name) c.data).1.remove
      (idNumbered (s.issued + 1) ++ "." ++ c.name) = s.staging.remove (stagedName s c.name) :=
    Media.Staging.remove_write _ _ _
  -- the file is shipped within its time, or not at all
  by_cases hlate' : s.uploadLate = true
  · simp only [hlate', if_true]
    exact .timedOut hacc hw hlate'
  have hlate : s.uploadLate = false := Bool.eq_false_iff.2 hlate'
  simp only [hlate, Bool.false_eq_true, if_false]
  rcases hup : s.bucket.upload (uploadKey s c.name) c.contentType c.data with ⟨b, e | url⟩
  · exact .uploadFailed hacc hw hlate hup
  -- the product, read from the tables the upload has not touched
  simp only [run_orUndo, run_previousImage, State.stamped, ShippedUpload.staged]
  rcases hp : s.tables.productById c.productId with _ | p
  · simp only [hremove]
    exact .productMissing hacc hw hlate hup hp
  -- the previous image, removed when its url names an object, then the write
  simp only [run_removePrevious]
  rcases hold : Bucket.imageKeyOfUrl p.image with _ | old
  · simp only [run_recordUpload]
    rcases hatt : s.tables.attachFile
      (ShippedUpload.record ⟨c, idNumbered (s.issued + 1), instantAt s.clock, url⟩) with _ | t
    · simp only [hremove]
      exact .attachFailed hacc hw hlate hup hp (.inl ⟨hold, rfl⟩) hatt
    · simp only [run_unstage, run_pure, hremove]
      exact .stored hacc hw hlate hup hp (.inl ⟨hold, rfl⟩) hatt
  dsimp only
  rcases hdel : b.delete old with ⟨b', e | ⟨⟩⟩
  · simp only [hremove]
    exact .previousKept hacc hw hlate hup hp hold hdel
  simp only [run_recordUpload]
  rcases hatt : s.tables.attachFile
    (ShippedUpload.record ⟨c, idNumbered (s.issued + 1), instantAt s.clock, url⟩) with _ | t
  · simp only [hremove]
    exact .attachFailed hacc hw hlate hup hp (.inr ⟨old, hold, hdel⟩) hatt
  · simp only [run_unstage, run_pure, hremove]
    exact .stored hacc hw hlate hup hp (.inr ⟨old, hold, hdel⟩) hatt

/-- The run of an upload, read as one of the ways `UploadRun` lists. -/
theorem UploadRun.of_run {form : UploadForm} {s s' : State} {r : Except Error String}
    (h : (uploadImage form).run.run s = (r, s')) : UploadRun form s r s' := by
  have hrun := uploadImage_run form s
  rw [h] at hrun
  exact hrun

/-! ## What an upload leaves in the tables -/

/-- A sniffed image type is one of the accepted ones. -/
theorem sniffImage_accepted {data : ByteArray} {contentType : String}
    (h : sniffImage data = .ok contentType) : contentType ∈ acceptedImageTypes := by
  unfold sniffImage at h
  split at h
  · split at h
    · rename_i mime hmime
      cases h
      simpa using hmime
    · cases h
  · cases h

/-- **Recording an upload is all or nothing.**  It succeeds exactly when one product has the
file's product id; it then points that product, and no other row, at the file's url, and adds
the file's record; otherwise it changes nothing. -/
theorem Tables.attachFile_eq_some {t t' : Tables} {f : FileRecord} :
    t.attachFile f = some t' ↔
      (t.products.filter (·.id == f.productId)).length = 1 ∧
        t' = { t with
          products := t.products.map fun p => if p.id == f.productId then { p with image := f.url } else p
          files := t.files ++ [f] } := by
  -- the update sets one column, so it is never empty and it counts the rows it hits
  simp only [Tables.attachFile, Tables.updateProduct, Update.isEmpty, Update.set, Update.empty,
    Update.assign, Product.applyUpdate, List.foldl, Product.assign, Product.paramText]
  simp
  exact fun _ => eq_comm

/-- **A failed upload leaves every table as it was; a successful one changes exactly two
things.**  On success the form named a product and carried a file of at most `maxUploadSize`
bytes whose sniffed type is an accepted image type; the bucket stored the file under
`images/<id>.<safe name>` and answered the url; exactly one product had the id; that product's
image is now the url, with its other columns and every other row unchanged; and the files table
gained exactly one record: of kind image and status uploaded-to-storage, with that id, product,
sniffed type, safe name, size, start time and url. -/
theorem uploadImage_tables (form : UploadForm) (s : State) :
    match (uploadImage form).run.run s with
    | (.error _, s') => s'.tables = s.tables
    | (.ok url, s') =>
      ∃ productId data contentType name,
        form.productId = some productId ∧ form.data = some data ∧ data.size ≤ maxUploadSize ∧
        sniffImage data = .ok contentType ∧ contentType ∈ acceptedImageTypes ∧
        sanitize (form.fileName.getD "") = .ok name ∧
        (s.bucket.upload ("images/" ++ idNumbered (s.issued + 1) ++ "." ++ name) contentType
          data).2 = .ok url ∧
        (s.tables.products.filter (·.id == productId)).length = 1 ∧
        s'.tables = { s.tables with
          products := s.tables.products.map fun p =>
            if p.id == productId then { p with image := url } else p
          files := s.tables.files ++
            [{ id := idNumbered (s.issued + 1), productId, kind := .image, contentType, name,
               size := data.size, status := .uploadedToStorage,
               uploadStartedAt := instantAt s.clock, url }] } := by
  rcases hrun : (uploadImage form).run.run s with ⟨r, s'⟩
  cases UploadRun.of_run hrun with
  | rejected | stagingFailed | timedOut | uploadFailed | productMissing | previousKept
  | attachFailed => rfl
  | @stored productId data contentType name b url p b' t hacc _ _ hup _ _ hatt =>
    obtain ⟨hone, rfl⟩ := Tables.attachFile_eq_some.1 hatt
    refine ⟨productId, data, contentType, name, (Option.filter_eq_some_iff.1 hacc.givesProduct).1,
      hacc.givesFile, hacc.small, hacc.sniffed, sniffImage_accepted hacc.sniffed, hacc.named, ?_,
      hone, rfl⟩
    show (s.bucket.upload (uploadKey s name) contentType data).2 = _
    rw [hup]

end Storefront.Shop
