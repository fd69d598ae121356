import Storefront.Proofs.ConcurrentUploads

/-
  What an upload leaves in the staging folder.

  Once its checks pass, an upload writes its file to the staging folder as `<id>.<safe name>`
  and ships it from there; the staged file is removed again however the upload ends, also when
  the write itself failed part way.  So every run of `uploadImage` leaves the folder as it was,
  or as removing that one name would (`uploadImage_staging`), which is the folder as it was
  when it held no file of the run's id.  Removing a staged file always succeeds here.

  Between its steps (`UploadStage.step`), a run holds at most that one file in the folder, a
  direct child of it, since a safe name has no `/` (`StagingAt`, kept by every step).

  Main statement (`upload_leaves_staging_as_found`): for a folder with no file named after the
  next id, every run of an upload leaves the folder as it found it, and at every point of the
  run the folder holds its old files and at most the run's own file, which is gone once the run
  has answered.
-/

namespace Storefront.Shop

open Storefront.Bucket Storefront.Media

/-- The staging folder an upload from `s` leaves: as it was when a check fails, and otherwise
without the name the file was staged under. -/
def stagingAfter (form : UploadForm) (s : State) : Staging :=
  match form.check with
  | .error _ => s.staging
  | .ok c => s.staging.remove (stagedName s c.name)

/-- A form whose checks pass gives what it carries to the checked form. -/
theorem UploadForm.Accepted.check_eq {form : UploadForm} {productId contentType name : String}
    {data : ByteArray} (h : form.Accepted productId data contentType name) :
    form.check = .ok ⟨productId, data, contentType, name⟩ :=
  UploadForm.check_eq_ok.2 h

/-- **The staging folder after an upload**, read off `UploadRun`: every run whose checks pass
removes the staged name, whether it stores the file or fails at any later step. -/
theorem uploadImage_staging (form : UploadForm) (s : State) :
    ((uploadImage form).run.run s).2.staging = stagingAfter form s := by
  rcases hrun : (uploadImage form).run.run s with ⟨r, s'⟩
  cases UploadRun.of_run hrun with
  | rejected hc => simp only [stagingAfter, hc]
  -- past the checks, every end leaves the folder without the staged name
  | stagingFailed hacc _ | timedOut hacc _ _ | uploadFailed hacc _ _ _
  | productMissing hacc _ _ _ _ | previousKept hacc _ _ _ _ _ _ | attachFailed hacc _ _ _ _ _ _
  | stored hacc _ _ _ _ _ _ => simp only [stagingAfter, hacc.check_eq]

/-- With no file named after the next id, removing the staged name removes nothing. -/
theorem stagingAfter_of_fresh {form : UploadForm} {s : State}
    (hfresh : ∀ name, stagedName s name ∉ s.staging.names) : stagingAfter form s = s.staging := by
  unfold stagingAfter
  split
  · rfl
  · exact Staging.remove_of_not_mem (hfresh _)

/-! ## The folder between the steps of a run -/

/-- A run from `s` holds its file `u` in the staging folder of `s'`: the checks passed and gave
`u`'s form, `u` is staged under the next name of `s`, and its write went through and is all
that changed in the folder. -/
structure Holding (form : UploadForm) (s : State) (u : ShippedUpload) (s' : State) : Prop where
  checked : form.check = .ok u.form
  named : u.staged = stagedName s u.form.name
  written : (s.staging.write u.staged u.form.data).2 = .ok ()
  folder : s'.staging = (s.staging.write u.staged u.form.data).1

/-- A step that leaves the staging folder alone keeps a run holding its file. -/
theorem Holding.of_staging_eq {form : UploadForm} {s s' s'' : State} {u : ShippedUpload}
    (h : Holding form s u s') (heq : s''.staging = s'.staging) : Holding form s u s'' :=
  { h with folder := heq.trans h.folder }

/-- Removing the staged file of a run that holds it gives the folder the whole upload leaves. -/
theorem Holding.remove_staged {form : UploadForm} {s s' : State} {u : ShippedUpload}
    (h : Holding form s u s') : s'.staging.remove u.staged = stagingAfter form s := by
  rw [h.folder, Staging.remove_write, stagingAfter, h.checked, h.named]

/-- Shipping leaves the run holding its file, or, when it fails, the folder as the whole upload
leaves it. -/
theorem shipUpload_staging (form : UploadForm) (s : State) :
    match (shipUpload form).run.run s with
    | (.ok u, s') => Holding form s u s'
    | (.error _, s') => s'.staging = stagingAfter form s := by
  rw [run_shipUpload]
  rcases hc : form.check with e | c
  · simp only [stagingAfter, hc]
  dsimp only
  rcases hw : (s.staging.write (stagedName s c.name) c.data).2 with text | ⟨⟩
  · simp only [stagingAfter, hc]
  dsimp only
  by_cases hlate : s.uploadLate = true
  · simp only [hlate, if_true, stagingAfter, hc]
  simp only [hlate, Bool.false_eq_true, if_false]
  rcases s.bucket.upload (uploadKey s c.name) c.contentType c.data with ⟨b, e | url⟩
  · simp only [stagingAfter, hc]
  · exact ⟨hc, rfl, hw, rfl⟩

/-- Reading the previous image leaves the staging folder alone. -/
theorem previousImage_staging (productId : String) (s : State) :
    ((previousImage productId).run.run s).2.staging = s.staging := by
  rw [run_previousImage]
  split <;> rfl

/-- Removing the previous image leaves the staging folder alone. -/
theorem removePrevious_staging (old : Option String) (s : State) :
    ((removePrevious old).run.run s).2.staging = s.staging := by
  rw [run_removePrevious]
  split
  · rfl
  · split <;> rfl

namespace UploadStage

/-- The stage a step leads to, and the shop after it, read off the run of the step's service. -/
theorem after_eq {α : Type} (x : Service α) (next : α → UploadStage)
    (fail : Error → UploadStage) (s : State) :
    after x next fail s =
      (match (x.run.run s).1 with
        | .ok a => next a
        | .error e => fail e, (x.run.run s).2) := by
  unfold after
  rcases x.run.run s with ⟨_ | _, _⟩ <;> rfl

/-- Where the staging folder stands while a run started from `s` is at a stage: the run has not
begun; it holds its file from when the file is shipped until the upload is recorded or undone;
and once it has answered, the folder is as the whole upload leaves it. -/
def StagingAt (form : UploadForm) (s : State) : UploadStage → State → Prop
  | .start form', s' => form' = form ∧ s' = s
  | .shipped u, s' | .found u _, s' | .cleared u, s' | .undoing u _, s' => Holding form s u s'
  | .stored _, s' | .failed _, s' => s'.staging = stagingAfter form s

/-- A run that holds its file and takes a step that leaves the folder alone still holds it,
whether the step leads on or to undoing the upload. -/
theorem StagingAt.after_holding {form : UploadForm} {s s' : State} {u : ShippedUpload}
    {α : Type} {x : Service α} {next : α → UploadStage} (h : Holding form s u s')
    (hx : ((x.run.run s').2).staging = s'.staging)
    (hnext : ∀ a, ∀ s'', Holding form s u s'' → StagingAt form s (next a) s'') :
    StagingAt form s (after x next (.undoing u) s').1 (after x next (.undoing u) s').2 := by
  rw [after_eq]
  split
  · exact hnext _ _ (h.of_staging_eq hx)
  · exact h.of_staging_eq hx

/-- **One step keeps `StagingAt`.**  Shipping stages the file; reading and removing the previous
image leave the folder alone; recording the upload and undoing it both remove the staged file,
which gives the folder back as the upload leaves it. -/
theorem StagingAt.step {form : UploadForm} {s s' : State} {st : UploadStage}
    (h : StagingAt form s st s') : StagingAt form s (st.step s').1 (st.step s').2 := by
  cases st with
  | start form' =>
    obtain ⟨rfl, hs⟩ := h
    rw [hs]
    have hship := shipUpload_staging form' s
    simp only [UploadStage.step, after_eq]
    revert hship
    rcases (shipUpload form').run.run s with ⟨e | u, s''⟩ <;> exact id
  | shipped u =>
    exact StagingAt.after_holding h (previousImage_staging _ s') fun _ _ h' => h'
  | found u old =>
    exact StagingAt.after_holding h (removePrevious_staging old s') fun _ _ h' => h'
  | cleared u =>
    -- recording fails and changes nothing, or goes through and the staged file is removed
    simp only [UploadStage.step, after_eq, run_bind, run_recordUpload]
    rcases s'.tables.attachFile u.record with _ | t
    · exact h
    · exact h.remove_staged
  | undoing u e => exact h.remove_staged
  | stored _ | failed _ => exact h

/-- **A whole run keeps `StagingAt`**, by induction on the number of steps. -/
theorem StagingAt.steps {form : UploadForm} {s : State} :
    ∀ (k : Nat) {st : UploadStage} {s' : State}, StagingAt form s st s' →
      StagingAt form s (st.steps k s').1 (st.steps k s').2
  | 0, _, _, h => h
  | k + 1, _, _, h => StagingAt.steps k h.step

/-- What `StagingAt` says of the folder's files: with no file named after the next id, the folder
holds its old files and, while the run has not answered, at most the run's own file, staged
under the next id and a safe name. -/
theorem StagingAt.names {form : UploadForm} {s s' : State} {st : UploadStage}
    (hfresh : ∀ name, stagedName s name ∉ s.staging.names) (h : StagingAt form s st s') :
    s'.staging = s.staging ∨
      ∃ name, sanitize (form.fileName.getD "") = .ok name ∧ PathName (stagedName s name) ∧
        st.answer = none ∧ s'.staging.names = s.staging.names ++ [stagedName s name] := by
  -- a run that holds its file has the folder as it was, and the file's name last
  have hold : ∀ u, Holding form s u s' →
      ∃ name, sanitize (form.fileName.getD "") = .ok name ∧ PathName (stagedName s name) ∧
        s'.staging.names = s.staging.names ++ [stagedName s name] := by
    intro u hu
    have hname := (UploadForm.check_eq_ok.1 hu.checked).named
    refine ⟨u.form.name, hname,
      (SegmentName.of_sanitize (idNumbered_plain _).1 hname).pathName, ?_⟩
    rw [hu.folder, Staging.names_write, hu.named, Staging.remove_of_not_mem (hfresh _)]
  cases st with
  | start form' => exact .inl (by rw [h.2])
  | shipped u | found u _ | cleared u | undoing u _ =>
    obtain ⟨name, hn, hpath, hnames⟩ := hold u h
    exact .inr ⟨name, hn, hpath, rfl, hnames⟩
  | stored _ | failed _ => exact .inl (h.trans (stagingAfter_of_fresh hfresh))

end UploadStage

/-- **An upload leaves the staging folder as it found it.**  Take a staging folder with no file
named `<id>.<anything>` for the id the upload takes next.  Whatever the form, the bucket and the
tables, and however the run ends (a refused form, a failed write to the folder, a timeout, a
refusing bucket, a missing product, a previous image that cannot be removed, a failed record, or
success), the folder after the upload is the folder before it, with the room left on its disk.
And at every point of the run, taken step by step, the folder is as it was, or the run has not
answered yet and the folder holds its old files and one more: `<id>.<safe name>`, where the safe
name is what `sanitize` makes of the form's file name, a plain path name and so a direct child
of the folder. -/
theorem upload_leaves_staging_as_found (form : UploadForm) (s : State)
    (hfresh : ∀ name, stagedName s name ∉ s.staging.names) :
    ((uploadImage form).run.run s).2.staging = s.staging ∧
      ∀ k, ((UploadStage.start form).steps k s).2.staging = s.staging ∨
        ∃ name, sanitize (form.fileName.getD "") = .ok name ∧ PathName (stagedName s name) ∧
          ((UploadStage.start form).steps k s).1.answer = none ∧
          ((UploadStage.start form).steps k s).2.staging.names =
            s.staging.names ++ [stagedName s name] :=
  ⟨(uploadImage_staging form s).trans (stagingAfter_of_fresh hfresh), fun k =>
    (UploadStage.StagingAt.steps k (show UploadStage.StagingAt form s (.start form) s from
      ⟨rfl, rfl⟩)).names hfresh⟩

/-- An upload to a full disk: the staging folder has room for three bytes and the file has four,
so the write stops part way and the upload fails with the system's text, and the part written
is removed again, giving back the folder and its room. -/
theorem upload_leaves_staging_on_full_disk :
    (let s : State :=
      { bucket := .memory (Memory.empty "https://host"), staging := { room := some 3 },
        settings := ⟨"secret", "pepper", 3600, 30000⟩ }
    let form : UploadForm :=
      { productId := some "p1", fileName := some "cat.png",
        data := some ⟨#[0x89, 0x50, 0x4E, 0x47]⟩ }
    ((uploadImage form).run.run s).1 = .error (Error.ofIo noSpace) ∧
      (∀ name, stagedName s name ∉ s.staging.names) ∧
      ((uploadImage form).run.run s).2.staging = s.staging ∧
      ∀ k, ((UploadStage.start form).steps k s).2.staging = s.staging ∨
        ∃ name, sanitize (form.fileName.getD "") = .ok name ∧ PathName (stagedName s name) ∧
          ((UploadStage.start form).steps k s).1.answer = none ∧
          ((UploadStage.start form).steps k s).2.staging.names =
            s.staging.names ++ [stagedName s name]) := by
  intro s form
  have hfresh : ∀ name, stagedName s name ∉ s.staging.names := fun _ h => by
    simp [s, Staging.names] at h
  exact ⟨by decide +kernel, hfresh, upload_leaves_staging_as_found form s hfresh⟩

end Storefront.Shop
