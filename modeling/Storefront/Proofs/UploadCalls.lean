import Storefront.Proofs.ConcurrentUploads

/-
  The calls an upload makes to the bucket, in order.

  An upload stores its file, reads the product's image, removes the object the image named and
  then writes the tables; after a failure once the file is stored it discards the new object.
  Between two of these steps (`UploadStage.step`) a run has made the calls its stage says
  (`CallsAt`): none before its file is shipped, the upload of the file while it reads the
  product's image, and the removal of the previous object too once it stands before the write to
  the tables.  Every step keeps that (`CallsAt.step`), so a whole run does (`CallsAt.steps`), and
  the write to the tables, the step from `cleared`, comes after the removal of the previous
  object (`tables_written_after_removal`).

  Main statement (`uploadImage_bucket_calls`): the calls of a run, replayed by `Store.perform`
  and recorded by an in-memory bucket, come in one of five shapes; the previous image is removed
  only after the new one is stored, and before the tables are written; and every failure after
  the store ends in a discard of the new object.
-/

namespace Storefront.Shop

open Storefront.Bucket

/-! ## The calls made before each stage -/

/-- The key of the object a product's image names in the tables of `s`, if the product exists
and its url names one. -/
def previousKey (s : State) (productId : String) : Option String :=
  (s.tables.productById productId).bind fun p => imageKeyOfUrl p.image

/-- A run from `s` of an upload of `form` has shipped `u`, leaving the bucket `b`: the checks
gave what `u` carries, `u` has the next file id, and the bucket stored its file. -/
structure ShippedTo (form : UploadForm) (s : State) (u : ShippedUpload) (b : Store) : Prop where
  checked : form.check = .ok u.form
  fileId : u.fileId = idNumbered (s.issued + 1)
  stored : s.bucket.upload (uploadKey s u.form.name) u.form.contentType u.form.data = (b, .ok u.url)

namespace UploadStage

/-- The calls a run from `s` of an upload of `form` has made to the bucket when it stands at a
stage with the shop `s'`: none at the start; the upload of its file once shipped; and, once it
has read the product's image, the removal of the object the image named, with the tables as
they were until the run writes them.  A run that has answered or is undoing a failure owes
nothing. -/
def CallsAt (form : UploadForm) (s : State) : UploadStage → State → Prop
  | .start form', s' => form' = form ∧ s' = s
  | .shipped u, s' => ShippedTo form s u s'.bucket ∧ s'.tables = s.tables
  | .found u old, s' =>
    ShippedTo form s u s'.bucket ∧ s'.tables = s.tables ∧ old = previousKey s u.form.productId
  | .cleared u, s' => ∃ b, ShippedTo form s u b ∧ s'.tables = s.tables ∧
    Removed b (previousKey s u.form.productId) s'.bucket
  | .stored _, _ | .undoing _ _, _ | .failed _, _ => True

/-- A run off its way owes nothing. -/
theorem CallsAt.of_not_onCourse {form : UploadForm} {s s' : State} {st : UploadStage}
    (h : ¬st.OnCourse) : CallsAt form s st s' := by
  cases st with
  | undoing u e => trivial
  | failed e => trivial
  | _ => exact absurd trivial h

/-- **One step keeps `CallsAt`**, read off what a step can do (`step_cases`): shipping stores the
file and stamps the shop, which leaves its tables; reading the product's image reads the key the
tables give; removing that object is the one call between the read and the write. -/
theorem CallsAt.step {form : UploadForm} {s s' : State} {st : UploadStage}
    (h : CallsAt form s st s') : CallsAt form s (st.step s').1 (st.step s').2 := by
  by_cases hon : (st.step s').1.OnCourse
  swap
  · exact CallsAt.of_not_onCourse hon
  rcases step_cases hon with
    ⟨form', c, url, b, rfl, hc, -, hup, hstep⟩ | ⟨u, q, rfl, hq, hstep⟩ |
      ⟨u, old, b, rfl, hremoved, hstep⟩ | ⟨u, t, rfl, -, hstep⟩ | ⟨u, rfl, hstep⟩
  · -- shipped: the file is in the bucket under the next id
    obtain ⟨rfl, rfl⟩ := h
    rw [hstep]
    exact ⟨⟨hc, rfl, hup⟩, rfl⟩
  · -- found: the tables are those of the start, so the image read is the start's
    obtain ⟨hship, htables⟩ := h
    rw [hstep]
    refine ⟨hship, htables, ?_⟩
    simp [previousKey, ← htables, hq]
  · -- cleared: the removal of the object read is the only call since the upload
    obtain ⟨hship, htables, rfl⟩ := h
    rw [hstep]
    exact ⟨s'.bucket, hship, htables, hremoved⟩
  · rw [hstep]
    trivial
  · rw [hstep]
    trivial

/-- **A whole run keeps `CallsAt`**, by induction on the number of steps. -/
theorem CallsAt.steps {form : UploadForm} {s : State} :
    ∀ (k : Nat) {st : UploadStage} {s' : State}, CallsAt form s st s' →
      CallsAt form s (st.steps k s').1 (st.steps k s').2
  | 0, _, _, h => h
  | k + 1, _, _, h => CallsAt.steps k h.step

end UploadStage

/-- **The tables are written after the previous object is removed.**  A run of an accepted form
that stands before its write to the tables, at `cleared`, has stored the file under the next
key and removed the object the product's image named, if any, and has not touched the tables. -/
theorem tables_written_after_removal {form : UploadForm} {s s₁ : State} {n : Nat}
    {u : ShippedUpload} {productId contentType name : String} {data : ByteArray}
    (hacc : form.Accepted productId data contentType name)
    (h : (UploadStage.start form).steps n s = (.cleared u, s₁)) :
    s₁.tables = s.tables ∧
      Removed (s.bucket.upload (uploadKey s name) contentType data).1 (previousKey s productId)
        s₁.bucket := by
  have hcalls := UploadStage.CallsAt.steps n
    (show UploadStage.CallsAt form s (.start form) s from ⟨rfl, rfl⟩)
  rw [h] at hcalls
  obtain ⟨b, hship, htables, hremoved⟩ := hcalls
  -- the checks give the accepted form's parts, so the bucket is the one the upload left
  have hform : u.form = ⟨productId, data, contentType, name⟩ :=
    Except.ok.inj (hship.checked.symm.trans (UploadForm.check_eq_ok.2 hacc))
  have hstored := hship.stored
  simp only [hform] at hstored hremoved
  rw [hstored]
  exact ⟨htables, hremoved⟩

/-! ## What an upload asks of the bucket -/

/-- **The calls an upload makes to the bucket.**  For every bucket, the bucket after the run is
the bucket after a list of calls made in order, and an in-memory bucket records exactly those
calls.  There are none, or the upload of the file under `images/<id>.<safe name>` with its
sniffed type and size, followed by the removal of the new object, of the previous one, or of
both in that order.  A removal follows only an upload the bucket stored, and the previous object
is removed only when the product exists and its image url names an object, and before the
tables are written: a run that stands before its write to the tables has made the upload and
that removal, and left the tables as they were.  A success answers the bucket's url, after the
previous object was removed and the record written, with no discard.  Every failure after a
stored upload ends with the discard of the new object, which an in-memory bucket that does not
refuse deletes then no longer holds. -/
theorem uploadImage_bucket_calls (form : UploadForm) (s : State) :
    ∃ calls : List Bucket.Call,
      ((uploadImage form).run.run s).2.bucket = s.bucket.perform (form.data.getD .empty) calls ∧
      (∀ m, s.bucket = .memory m → ∃ m', ((uploadImage form).run.run s).2.bucket = .memory m' ∧
        m'.calls = m.calls ++ calls) ∧
      ((calls = [] ∧ ∃ e, ((uploadImage form).run.run s).1 = .error e) ∨
        ∃ productId data contentType name, form.Accepted productId data contentType name ∧
          let key := uploadKey s name
          let up := Bucket.Call.upload key contentType data.size
          let stored := s.bucket.upload key contentType data
          let old := (s.tables.productById productId).bind fun p => Bucket.imageKeyOfUrl p.image
          (calls = [up] ∨
            (∃ url, stored.2 = .ok url) ∧
              (calls = [up, .delete key] ∨
                ∃ o, old = some o ∧ (calls = [up, .delete o] ∨ calls = [up, .delete o, .delete key]))) ∧
          (∀ url, ((uploadImage form).run.run s).1 = .ok url →
            stored.2 = .ok url ∧
            ((old = none ∧ calls = [up]) ∨
              ∃ o, old = some o ∧ (stored.1.delete o).2 = .ok () ∧ calls = [up, .delete o]) ∧
            s.tables.attachFile (uploadRecord s productId data contentType name url) =
              some ((uploadImage form).run.run s).2.tables) ∧
          (∀ e, ((uploadImage form).run.run s).1 = .error e → (∃ url, stored.2 = .ok url) →
            (∃ earlier, calls = earlier ++ [.delete key]) ∧
            ∀ m m', s.bucket = .memory m → ((uploadImage form).run.run s).2.bucket = .memory m' →
              m.refuseDeletes = false → m'.contains key = false) ∧
          (∀ n u s₁, (UploadStage.start form).steps n s = (.cleared u, s₁) →
            s₁.tables = s.tables ∧ Removed stored.1 old s₁.bucket)) := by
  rcases hrun : (uploadImage form).run.run s with ⟨r, s'⟩
  -- what an in-memory bucket records and holds follows from the bucket equation, in every case
  have hlog : ∀ calls : List Bucket.Call,
      s'.bucket = s.bucket.perform (form.data.getD .empty) calls →
      (∀ key contentType size, Bucket.Call.upload key contentType size ∈ calls →
        size = (form.data.getD .empty).size) →
      ∀ m, s.bucket = .memory m → ∃ m', s'.bucket = .memory m' ∧ m'.calls = m.calls ++ calls := by
    intro calls hb hsize m hm
    obtain ⟨m', hperf, hcalls, -⟩ := Bucket.Store.perform_memory m _ calls hsize
    exact ⟨m', by rw [hb, hm, hperf], hcalls⟩
  have hgone : ∀ (earlier : List Bucket.Call) key,
      s'.bucket = s.bucket.perform (form.data.getD .empty) (earlier ++ [.delete key]) →
      (∀ key contentType size, Bucket.Call.upload key contentType size ∈ earlier →
        size = (form.data.getD .empty).size) →
      ∀ m m', s.bucket = .memory m → s'.bucket = .memory m' →
        m.refuseDeletes = false → m'.contains key = false := by
    intro earlier key hb hsize m m' hm hm' hkeep
    rw [hb, hm] at hm'
    exact Bucket.Store.perform_delete_last m m' _ earlier key hsize hm' hkeep
  cases UploadRun.of_run hrun with
  | @rejected e _ =>
    exact ⟨[], rfl, hlog [] rfl (by simp), .inl ⟨rfl, e, rfl⟩⟩
  | stagingFailed | timedOut =>
    exact ⟨[], rfl, hlog [] rfl (by simp), .inl ⟨rfl, _, rfl⟩⟩
  | @uploadFailed productId data contentType name b e hacc hw hlate hup =>
    have hb : b = s.bucket.perform (form.data.getD .empty)
        [.upload (uploadKey s name) contentType data.size] := by
      simp [Bucket.Store.perform, hacc.givesFile, hup]
    refine ⟨_, hb, hlog _ hb (by simp [hacc.givesFile]), .inr ⟨productId, data, contentType, name,
      hacc, ?_⟩⟩
    refine ⟨.inl rfl, ?_, ?_,
      fun _ _ _ h => tables_written_after_removal hacc h⟩
    · intro url h
      cases h
    · rintro e' - ⟨url, hurl⟩
      rw [hup] at hurl
      cases hurl
  | @productMissing productId data contentType name b url hacc hw hlate hup hnone =>
    have hb : (b.delete (uploadKey s name)).1 = s.bucket.perform (form.data.getD .empty)
        ([.upload (uploadKey s name) contentType data.size] ++ [.delete (uploadKey s name)]) := by
      simp [Bucket.Store.perform, hacc.givesFile, hup]
    refine ⟨_, hb, hlog _ hb (by simp [hacc.givesFile]), .inr ⟨productId, data, contentType, name,
      hacc, ?_⟩⟩
    refine ⟨.inr ⟨⟨url, by rw [hup]⟩, .inl rfl⟩, ?_, ?_,
      fun _ _ _ h => tables_written_after_removal hacc h⟩
    · intro url h
      cases h
    · intro e' _ _
      exact ⟨⟨_, rfl⟩, hgone _ _ hb (by simp [hacc.givesFile])⟩
  | @previousKept productId data contentType name b url p old b' e hacc hw hlate hup hp hold hdel =>
    have hb : (b'.delete (uploadKey s name)).1 = s.bucket.perform (form.data.getD .empty)
        ([.upload (uploadKey s name) contentType data.size, .delete old] ++
          [.delete (uploadKey s name)]) := by
      simp [Bucket.Store.perform, hacc.givesFile, hup, hdel]
    refine ⟨_, hb, hlog _ hb (by simp [hacc.givesFile]), .inr ⟨productId, data, contentType, name,
      hacc, ?_⟩⟩
    refine ⟨.inr ⟨⟨url, by rw [hup]⟩, .inr ⟨old, by simp [hp, hold], .inr rfl⟩⟩, ?_, ?_,
      fun _ _ _ h => tables_written_after_removal hacc h⟩
    · intro url h
      cases h
    · intro e' _ _
      exact ⟨⟨_, rfl⟩, hgone _ _ hb (by simp [hacc.givesFile])⟩
  | @attachFailed productId data contentType name b url p b' hacc hw hlate hup hp hprev hatt =>
    -- the previous object was kept or removed before the write failed
    rcases hprev with ⟨hkey, rfl⟩ | ⟨old, hkey, hdel⟩
    · have hb : (b'.delete (uploadKey s name)).1 = s.bucket.perform (form.data.getD .empty)
          ([.upload (uploadKey s name) contentType data.size] ++ [.delete (uploadKey s name)]) := by
        simp [Bucket.Store.perform, hacc.givesFile, hup]
      refine ⟨_, hb, hlog _ hb (by simp [hacc.givesFile]), .inr ⟨productId, data, contentType,
        name, hacc, ?_⟩⟩
      refine ⟨.inr ⟨⟨url, by rw [hup]⟩, .inl rfl⟩, ?_, ?_,
        fun _ _ _ h => tables_written_after_removal hacc h⟩
      · intro url h
        cases h
      · intro e' _ _
        exact ⟨⟨_, rfl⟩, hgone _ _ hb (by simp [hacc.givesFile])⟩
    · have hb : (b'.delete (uploadKey s name)).1 = s.bucket.perform (form.data.getD .empty)
          ([.upload (uploadKey s name) contentType data.size, .delete old] ++
            [.delete (uploadKey s name)]) := by
        simp [Bucket.Store.perform, hacc.givesFile, hup, hdel]
      refine ⟨_, hb, hlog _ hb (by simp [hacc.givesFile]), .inr ⟨productId, data, contentType,
        name, hacc, ?_⟩⟩
      refine ⟨.inr ⟨⟨url, by rw [hup]⟩, .inr ⟨old, by simp [hp, hkey], .inr rfl⟩⟩, ?_, ?_,
        fun _ _ _ h => tables_written_after_removal hacc h⟩
      · intro url h
        cases h
      · intro e' _ _
        exact ⟨⟨_, rfl⟩, hgone _ _ hb (by simp [hacc.givesFile])⟩
  | @stored productId data contentType name b url p b' t hacc hw hlate hup hp hprev hatt =>
    rcases hprev with ⟨hkey, rfl⟩ | ⟨old, hkey, hdel⟩
    · -- no previous object: the upload is the only call
      have hb : b' = s.bucket.perform (form.data.getD .empty)
          [.upload (uploadKey s name) contentType data.size] := by
        simp [Bucket.Store.perform, hacc.givesFile, hup]
      refine ⟨_, hb, hlog _ hb (by simp [hacc.givesFile]), .inr ⟨productId, data, contentType,
        name, hacc, ?_⟩⟩
      refine ⟨.inl rfl, ?_, ?_,
        fun _ _ _ h => tables_written_after_removal hacc h⟩
      · rintro url' ⟨⟩
        exact ⟨by rw [hup], .inl ⟨by simp [hp, hkey], rfl⟩, hatt⟩
      · rintro e ⟨⟩
    · -- the previous object is removed after the upload, and nothing is discarded
      have hb : b' = s.bucket.perform (form.data.getD .empty)
          [.upload (uploadKey s name) contentType data.size, .delete old] := by
        simp [Bucket.Store.perform, hacc.givesFile, hup, hdel]
      refine ⟨_, hb, hlog _ hb (by simp [hacc.givesFile]), .inr ⟨productId, data, contentType,
        name, hacc, ?_⟩⟩
      refine ⟨.inr ⟨⟨url, by rw [hup]⟩, .inr ⟨old, by simp [hp, hkey], .inl rfl⟩⟩, ?_, ?_,
        fun _ _ _ h => tables_written_after_removal hacc h⟩
      · rintro url' ⟨⟩
        exact ⟨by rw [hup], .inr ⟨old, by simp [hp, hkey], by simp [hup, hdel], rfl⟩, hatt⟩
      · rintro e ⟨⟩

end Storefront.Shop
