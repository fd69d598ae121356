import Storefront.Shop.UploadStages
import Storefront.Proofs.ImageUrls

/-
  Two uploads for one product under way at once.

  A run of `UploadStage.step` alone is `uploadImage`: the five steps from the start give its
  answer and its shop (`steps_start`).  Two runs that share a shop take their steps in any
  order.  Each run reads the product's image, removes the object it names and records its own
  url, and nothing holds the other run back between the read and the record.  So when both
  runs read the image before either recorded, both remove the product's first object, neither
  removes the other's, and the bucket keeps both new objects, one of them linked from no
  product.

  Main statement (`concurrent_uploads_objects`): for a bucket whose url has no `?` or `#` and a
  product whose image names no object of an id not yet handed out, when two uploads for the
  product both succeed, whatever the order of their steps, the product shows the url of one of
  them, the bucket holds that one's object and has lost the object the product showed before,
  and it holds the other's object exactly when at some point both runs were reading: each had
  read the image and neither had recorded its upload.

  The proof is an invariant of the pair (`PairInv`): what each run keeps true whatever the other
  does (`Side`), and what the two keep true together (`Shared`).  What each run has read is
  carried as a ghost value, `none` before it reads.  One step of the first run keeps the
  invariant (`PairInv.step_first`); the second run's steps are the first's in the pair with its
  runs swapped; a whole schedule keeps it (`PairInv.run`).
-/

namespace Storefront.Shop

open Storefront.Bucket

namespace UploadStage

/-! ## One step of a run -/

theorem after_of_ok {α : Type} {x : Service α} {next : α → UploadStage}
    {fail : Error → UploadStage} {s s' : State} {a : α} (h : x.run.run s = (.ok a, s')) :
    after x next fail s = (next a, s') := by
  simp only [after, h]

theorem after_of_error {α : Type} {x : Service α} {next : α → UploadStage}
    {fail : Error → UploadStage} {s s' : State} {e : Error} (h : x.run.run s = (.error e, s')) :
    after x next fail s = (fail e, s') := by
  simp only [after, h]

/-- A run alone is `uploadImage`: five steps from the start give the answer of an upload and
the shop it leaves. -/
theorem steps_start (form : UploadForm) (s : State) :
    ((start form).steps 5 s).1.answer = some ((uploadImage form).run.run s).1 ∧
      ((start form).steps 5 s).2 = ((uploadImage form).run.run s).2 := by
  simp only [uploadImage, run_bind]
  rcases hship : (shipUpload form).run.run s with ⟨e | u, s₁⟩
  · simp [steps, step, after_of_error hship, answer]
  dsimp only
  rw [run_orUndo]
  rcases hread : (previousImage u.form.productId).run.run s₁ with ⟨e | old, s₂⟩
  · simp [steps, step, after_of_ok hship, after_of_error hread,
      after_of_ok (run_undo u s₂), answer]
  dsimp only
  rw [run_orUndo]
  rcases hremove : (removePrevious old).run.run s₂ with ⟨e | ⟨⟩, s₃⟩
  · simp [steps, step, after_of_ok hship, after_of_ok hread, after_of_error hremove,
      after_of_ok (run_undo u s₃), answer]
  dsimp only
  rw [run_orUndo]
  -- the step that records the upload also removes the staged file, as the run does after it
  rcases hrecord : (recordUpload u).run.run s₃ with ⟨e | ⟨⟩, s₄⟩
  · have hfinish : (do recordUpload u; unstage u.staged).run.run s₃ = (.error e, s₄) := by
      simp only [run_bind, hrecord]
    simp [steps, step, after_of_ok hship, after_of_ok hread, after_of_ok hremove,
      after_of_error hfinish, after_of_ok (run_undo u s₄), answer]
  · have hfinish : (do recordUpload u; unstage u.staged).run.run s₃ =
        (.ok (), { s₄ with staging := s₄.staging.remove u.staged }) := by
      simp only [run_bind, hrecord, run_unstage]
    simp only [run_unstage, run_pure]
    simp [steps, step, after_of_ok hship, after_of_ok hread, after_of_ok hremove,
      after_of_ok hfinish, answer]

/-! ## Where a run stands -/

/-- A run on its way to recording its upload: it has neither failed nor is it undoing a
failure. -/
def OnCourse : UploadStage → Prop
  | .undoing _ _ | .failed _ => False
  | _ => True

/-- The upload a run has shipped, once it has. -/
def upload? : UploadStage → Option ShippedUpload
  | .shipped u | .found u _ | .cleared u | .stored u => some u
  | _ => none

/-- The run is reading: it has read the product's image and not yet recorded its upload. -/
def Reading : UploadStage → Prop
  | .found _ _ | .cleared _ => True
  | _ => False

/-- The run has removed the object of the image it read. -/
def HasRemoved : UploadStage → Prop
  | .cleared _ | .stored _ => True
  | _ => False

/-- The run has recorded its upload. -/
def IsStored : UploadStage → Prop
  | .stored _ => True
  | _ => False

/-- What a run has read of the product's image: nothing before it reads, and once it has, the
object the image named, if any. -/
def Read : UploadStage → Option (Option String) → Prop
  | .start _, r | .shipped _, r => r = none
  | .found _ old, r => r = some old
  | .cleared _, r | .stored _, r => r.isSome
  | .undoing _ _, _ | .failed _, _ => False

/-- A run that has left its way does not come back to it. -/
theorem not_onCourse_step {st : UploadStage} (h : ¬st.OnCourse) (s : State) :
    ¬(st.step s).1.OnCourse := by
  cases st with
  | undoing u e => simp [step, after_of_ok (run_undo u s), OnCourse]
  | failed e => simp [step, OnCourse]
  | _ => exact absurd trivial h

/-- **What one step of a run can do** when the run stays on its way: stage the file and ship it
under the next key, read the product's image, remove the object the image named, record the
upload and remove the staged file, or nothing once the upload is recorded. -/
theorem step_cases {st : UploadStage} {s : State} (h : (st.step s).1.OnCourse) :
    (∃ form c url b, st = .start form ∧ form.check = .ok c ∧
        (s.staging.write (stagedName s c.name) c.data).2 = .ok () ∧
        s.bucket.upload (uploadKey s c.name) c.contentType c.data = (b, .ok url) ∧
        st.step s = (.shipped ⟨c, idNumbered (s.issued + 1), instantAt s.clock, url⟩,
          { s.stamped with
            bucket := b, staging := (s.staging.write (stagedName s c.name) c.data).1 })) ∨
    (∃ u q, st = .shipped u ∧ s.tables.productById u.form.productId = some q ∧
        st.step s = (.found u (imageKeyOfUrl q.image), s)) ∨
    (∃ u old b, st = .found u old ∧ Removed s.bucket old b ∧
        st.step s = (.cleared u, { s with bucket := b })) ∨
    (∃ u t, st = .cleared u ∧ s.tables.attachFile u.record = some t ∧
        st.step s = (.stored u, { s with tables := t, staging := s.staging.remove u.staged })) ∨
    (∃ u, st = .stored u ∧ st.step s = (st, s)) := by
  cases st with
  | start form =>
    -- the checks, the time limit and the bucket's answer
    refine .inl ?_
    have hrun := run_shipUpload form s
    rcases hc : form.check with e | c
    · rw [hc] at hrun
      simp only [step, after_of_error hrun, OnCourse] at h
    rw [hc] at hrun
    dsimp only at hrun
    rcases hw : (s.staging.write (stagedName s c.name) c.data).2 with text | ⟨⟩
    · rw [hw] at hrun
      simp only [step, after_of_error hrun, OnCourse] at h
    rw [hw] at hrun
    dsimp only at hrun
    by_cases hlate : s.uploadLate = true
    · rw [if_pos hlate] at hrun
      simp only [step, after_of_error hrun, OnCourse] at h
    rw [if_neg hlate] at hrun
    rcases hup : s.bucket.upload (uploadKey s c.name) c.contentType c.data with ⟨b, e | url⟩
    · rw [hup] at hrun
      simp only [step, after_of_error hrun, OnCourse] at h
    rw [hup] at hrun
    exact ⟨form, c, url, b, rfl, hc, hw, hup, by simp only [step, after_of_ok hrun]⟩
  | shipped u =>
    refine .inr (.inl ?_)
    have hrun := run_previousImage u.form.productId s
    rcases hq : s.tables.productById u.form.productId with _ | q
    · simp only [hq] at hrun
      simp only [step, after_of_error hrun, OnCourse] at h
    · simp only [hq] at hrun
      exact ⟨u, q, rfl, hq, by simp only [step, after_of_ok hrun]⟩
  | found u old =>
    refine .inr (.inr (.inl ?_))
    have hrun := run_removePrevious old s
    rcases old with _ | key
    · exact ⟨u, none, s.bucket, rfl, rfl, by simp only [step, after_of_ok hrun]⟩
    rcases hdel : s.bucket.delete key with ⟨b, e | ⟨⟩⟩
    · simp only [hdel] at hrun
      simp only [step, after_of_error hrun, OnCourse] at h
    · simp only [hdel] at hrun
      exact ⟨u, some key, b, rfl, hdel, by simp only [step, after_of_ok hrun]⟩
  | cleared u =>
    refine .inr (.inr (.inr (.inl ?_)))
    have hrun := run_recordUpload u s
    rcases ht : s.tables.attachFile u.record with _ | t
    · simp only [ht] at hrun
      have hfinish : (do recordUpload u; unstage u.staged).run.run s =
          (.error (productNotFound u.form.productId), s) := by
        simp only [run_bind, hrun]
      simp only [step, after_of_error hfinish, OnCourse] at h
    · simp only [ht] at hrun
      have hfinish : (do recordUpload u; unstage u.staged).run.run s =
          (.ok (), { s with tables := t, staging := s.staging.remove u.staged }) := by
        simp only [run_bind, hrun, run_unstage]
      exact ⟨u, t, rfl, ht, by simp only [step, after_of_ok hfinish]⟩
  | stored u => exact .inr (.inr (.inr (.inr ⟨u, rfl, rfl⟩)))
  | undoing u e => simp [step, after_of_ok (run_undo u s), OnCourse] at h
  | failed e => simp [step, OnCourse] at h

end UploadStage

/-! ## Fresh keys -/

/-- A key an upload took while the shop's ids went from `n` to `m`: `images/<id>.<name>`, for an
id above `n` and at most `m` and a segment name. -/
def FreshKey (n m : Nat) (key : String) : Prop :=
  ∃ j name, n < j ∧ j ≤ m ∧ key = "images/" ++ idNumbered j ++ "." ++ name ∧
    SegmentName (idNumbered j ++ "." ++ name)

namespace FreshKey

variable {n m : Nat} {key : String}

theorem mono {m' : Nat} (h : FreshKey n m key) (hm : m ≤ m') : FreshKey n m' key := by
  obtain ⟨j, name, hn, hj, rfl, hseg⟩ := h
  exact ⟨j, name, hn, by omega, rfl, hseg⟩

/-- The key an upload takes next is fresh. -/
theorem uploadKey {s : State} {raw name : String} (hn : n ≤ s.issued)
    (hname : Media.sanitize raw = .ok name) : FreshKey n (s.issued + 1) (uploadKey s name) :=
  ⟨s.issued + 1, name, by omega, le_refl _, rfl,
    SegmentName.of_sanitize (idNumbered_plain _).1 hname⟩

/-- A key taken before is not the key an upload takes next. -/
theorem ne_uploadKey {s : State} (h : FreshKey n s.issued key) (name : String) :
    key ≠ Shop.uploadKey s name := by
  obtain ⟨j, name', -, hj, rfl, -⟩ := h
  intro heq
  have := imageKey_id_injective heq
  omega

/-- Two fresh keys that differ lie at different paths. -/
theorem keyPath_ne {m' : Nat} {key' : String} (h : FreshKey n m key) (h' : FreshKey n m' key')
    (hne : key ≠ key') : keyPath key ≠ keyPath key' := by
  obtain ⟨j, name, -, -, rfl, hseg⟩ := h
  obtain ⟨j', name', -, -, rfl, hseg'⟩ := h'
  intro hpath
  apply hne
  simpa only [String.append_assoc] using
    imageKey_eq_of_keyPath hseg hseg' (by simpa only [String.append_assoc] using hpath)

/-- A fresh key lies at no path of an object that an image of the shop named before. -/
theorem keyPath_ne_issued {image : String} (h : FreshKey n m key)
    (hissued : NamesIssued n (imageKeyOfUrl image)) :
    ∀ o ∈ imageKeyOfUrl image, keyPath o ≠ keyPath key := by
  intro o ho hpath
  obtain ⟨c, rfl, hc⟩ := imageKeyOfUrl_eq_some ho
  obtain ⟨j, name, hn, -, rfl, hseg⟩ := h
  have heq : "images/" ++ c = "images/" ++ idNumbered j ++ "." ++ name := by
    simpa only [String.append_assoc] using
      imageKey_eq_of_keyPath hc hseg (by simpa only [String.append_assoc] using hpath)
  have := hissued j name (heq ▸ ho)
  omega

/-- A fresh key is no object that an image of the shop named before. -/
theorem ne_issued {image : String} (h : FreshKey n m key)
    (hissued : NamesIssued n (imageKeyOfUrl image)) : imageKeyOfUrl image ≠ some key :=
  fun heq => keyPath_ne_issued h hissued key heq rfl

end FreshKey

/-! ## Two runs at once -/

namespace UploadStage

theorem not_isStored_of_reading {st : UploadStage} (h : st.Reading) : ¬st.IsStored := by
  cases st <;> simp_all [Reading, IsStored]

/-- A run that is reading has read the image. -/
theorem Read.some_of_reading {st : UploadStage} {r : Option (Option String)} (hread : st.Read r)
    (h : st.Reading) : ∃ o, r = some o := by
  cases st with
  | found u old => exact ⟨old, hread⟩
  | cleared u => exact Option.isSome_iff_exists.1 hread
  | _ => simp [Reading] at h

end UploadStage

namespace UploadPair

/-- Both runs are reading at once. -/
def Overlapping (p : UploadPair) : Prop := p.first.Reading ∧ p.second.Reading

/-- At some point of the schedule, the start included, both runs were reading at once. -/
def Overlapped (p : UploadPair) : List Bool → Prop
  | [] => p.Overlapping
  | turn :: rest => p.Overlapping ∨ (p.step turn).Overlapped rest

theorem Overlapped.of_overlapping {p : UploadPair} (h : p.Overlapping) :
    ∀ sched, p.Overlapped sched
  | [] => h
  | _ :: _ => .inl h

/-- The pair with its runs swapped. -/
def swap (p : UploadPair) : UploadPair := ⟨p.second, p.first, p.shop⟩

theorem step_false (p : UploadPair) : p.step false = (p.swap.step true).swap := rfl

theorem overlapping_swap (p : UploadPair) : p.swap.Overlapping ↔ p.Overlapping :=
  and_comm

/-- A run that has left its way is off it at the end of every schedule. -/
theorem onCourse_of_run (p : UploadPair) :
    ∀ sched, ((p.run sched).first.OnCourse → p.first.OnCourse) ∧
      ((p.run sched).second.OnCourse → p.second.OnCourse)
  | [] => ⟨id, id⟩
  | turn :: rest => by
    obtain ⟨hfirst, hsecond⟩ := onCourse_of_run (p.step turn) rest
    cases turn with
    | true =>
      refine ⟨fun h => ?_, hsecond⟩
      by_contra hoff
      exact UploadStage.not_onCourse_step hoff p.shop (hfirst h)
    | false =>
      refine ⟨hfirst, fun h => ?_⟩
      by_contra hoff
      exact UploadStage.not_onCourse_step hoff p.shop (hsecond h)

end UploadPair

/-- Where two runs for one product start from: `n` ids handed out, the product's image `image0`
naming no object of a later id, and a bucket made with a url `b` that has no `?` or `#`. -/
structure RaceStart (n : Nat) (image0 b : String) : Prop where
  noQuery : '?' ∉ b.toList
  noFragment : '#' ∉ b.toList
  issued : NamesIssued n (imageKeyOfUrl image0)

/-- What one run of a pair for the product `productId` keeps true whatever the other does: `n`
ids were handed out when both started, `x` is the object the product's image named then, and
`r` and `r'` are what this run and the other have read of the image. -/
structure Side (n : Nat) (productId : String) (x : Option String) (st : UploadStage)
    (r : Option (Option String)) (other : UploadStage) (r' : Option (Option String))
    (s : State) : Prop where
  read : st.Read r
  form : ∀ form, st = .start form → form.productId = some productId
  shipped : ∀ u ∈ st.upload?, u.form.productId = productId ∧ FreshKey n s.issued u.key ∧
    imageKeyOfUrl u.url = some u.key
  /-- It read the first object, or the other's once the other had recorded. -/
  readWhat : ∀ o, r = some o → o = x ∨ ∃ u, other = .stored u ∧ o = some u.key
  /-- Its object stays unless the other read it and removed it. -/
  holds : ∀ u ∈ st.upload?,
    (s.bucket.holds u.key ↔ ¬(r' = some (some u.key) ∧ other.HasRemoved))

/-- The run `st` recorded last: the product shows its url, and the other run, if it has
recorded too, did not read that url. -/
def LastStored (st other : UploadStage) (r' : Option (Option String)) (image : String) : Prop :=
  ∃ u, st = .stored u ∧ image = u.url ∧ (other.IsStored → r' ≠ some (some u.key))

/-- What the two runs of a pair keep true together, from a shop whose product showed `image0`,
in a bucket of base url `base`; `ov` says whether both runs have been reading at once. -/
structure Shared (n : Nat) (productId image0 base : String) (first second : UploadStage)
    (r r' : Option (Option String)) (s : State) (ov : Prop) : Prop where
  issued : n ≤ s.issued
  base : s.bucket.base = base
  apart : ∀ u ∈ first.upload?, ∀ u' ∈ second.upload?, u.key ≠ u'.key
  image : ∃ q, s.tables.productById productId = some q ∧
    (q.image = image0 ∧ ¬first.IsStored ∧ ¬second.IsStored ∨
      LastStored first second r' q.image ∨ LastStored second first r q.image)
  overlap : ov ↔ r = some (imageKeyOfUrl image0) ∧ r' = some (imageKeyOfUrl image0)
  /-- The first object is gone once a run that read it has removed it. -/
  gone : ∀ xk, imageKeyOfUrl image0 = some xk →
    (r = some (some xk) ∧ first.HasRemoved ∨ r' = some (some xk) ∧ second.HasRemoved) →
    ¬s.bucket.holds xk

/-- The invariant of a pair of uploads for one product. -/
def PairInv (n : Nat) (productId image0 base : String) (p : UploadPair) (ov : Prop) : Prop :=
  ∃ r r', Side n productId (imageKeyOfUrl image0) p.first r p.second r' p.shop ∧
    Side n productId (imageKeyOfUrl image0) p.second r' p.first r p.shop ∧
    Shared n productId image0 base p.first p.second r r' p.shop ov

section Invariant

variable {n : Nat} {productId image0 b : String} {other : UploadStage}
  {r r' : Option (Option String)} {s : State} {ov : Prop}

/-- While the other run has not recorded, a run read the first object, if anything. -/
theorem Side.read_first {x : Option String} {st : UploadStage}
    (h : Side n productId x st r other r' s) (hother : ¬other.IsStored) {o : Option String}
    (ho : r = some o) : o = x := by
  rcases h.readWhat o ho with hx | ⟨u, rfl, -⟩
  · exact hx
  · exact absurd trivial hother

theorem Shared.swap {first second : UploadStage}
    (h : Shared n productId image0 b first second r r' s ov) :
    Shared n productId image0 b second first r' r s ov := by
  obtain ⟨q, hq, hcases⟩ := h.image
  refine ⟨h.issued, h.base, fun u hu u' hu' => (h.apart u' hu' u hu).symm,
    ⟨q, hq, ?_⟩, h.overlap.trans and_comm, fun xk hxk hcase => h.gone xk hxk hcase.symm⟩
  rcases hcases with ⟨h0, h1, h2⟩ | hlast | hlast
  · exact .inl ⟨h0, h2, h1⟩
  · exact .inr (.inr hlast)
  · exact .inr (.inl hlast)

theorem Shared.congr {first second : UploadStage} {ov' : Prop}
    (h : Shared n productId image0 b first second r r' s ov) (hov : ov ↔ ov') :
    Shared n productId image0 b first second r r' s ov' :=
  { h with overlap := hov.symm.trans h.overlap }

/-- Two runs reading at once have both read the first object. -/
theorem Shared.of_reading {first second : UploadStage}
    (hX : Side n productId (imageKeyOfUrl image0) first r second r' s)
    (hY : Side n productId (imageKeyOfUrl image0) second r' first r s)
    (hS : Shared n productId image0 b first second r r' s ov) (h1 : first.Reading)
    (h2 : second.Reading) : ov := by
  obtain ⟨o, ho⟩ := UploadStage.Read.some_of_reading hX.read h1
  obtain ⟨o', ho'⟩ := UploadStage.Read.some_of_reading hY.read h2
  refine hS.overlap.2 ⟨?_, ?_⟩
  · rw [ho, hX.read_first (UploadStage.not_isStored_of_reading h2) ho]
  · rw [ho', hY.read_first (UploadStage.not_isStored_of_reading h1) ho']

theorem PairInv.swap {p : UploadPair} (h : PairInv n productId image0 b p ov) :
    PairInv n productId image0 b p.swap ov := by
  obtain ⟨r, r', hX, hY, hS⟩ := h
  exact ⟨r', r, hY, hX, hS.swap⟩

theorem PairInv.of_overlapping {p : UploadPair} (h : PairInv n productId image0 b p ov)
    (hp : p.Overlapping) : ov := by
  obtain ⟨r, r', hX, hY, hS⟩ := h
  exact hS.of_reading hX hY hp.1 hp.2

theorem PairInv.congr {p : UploadPair} {ov' : Prop} (h : PairInv n productId image0 b p ov)
    (hov : ov ↔ ov') : PairInv n productId image0 b p ov' := by
  obtain ⟨r, r', hX, hY, hS⟩ := h
  exact ⟨r, r', hX, hY, hS.congr hov⟩

/-- The product's image stays as the invariant describes it over a step of a run that records
nothing: the run was not recorded before the step and is not after it. -/
theorem image_of_unrecorded {first first' second : UploadStage} {r₁ r₂ : Option (Option String)}
    {image : String} (hfirst : ¬first.IsStored) (hfirst' : ¬first'.IsStored)
    (h : image = image0 ∧ ¬first.IsStored ∧ ¬second.IsStored ∨
      LastStored first second r' image ∨ LastStored second first r₁ image) :
    image = image0 ∧ ¬first'.IsStored ∧ ¬second.IsStored ∨
      LastStored first' second r' image ∨ LastStored second first' r₂ image := by
  rcases h with ⟨h0, -, h2⟩ | ⟨u, rfl, -⟩ | ⟨u, hu, himg, -⟩
  · exact .inl ⟨h0, hfirst', h2⟩
  · exact absurd trivial hfirst
  · exact .inr (.inr ⟨u, hu, himg, fun h => absurd h hfirst'⟩)

/-! ## One step of the first run -/

/-- Shipping keeps the invariant: the new object lies at a path of its own, and no run has read
it yet. -/
theorem PairInv.of_ship {form : UploadForm} {c : CheckedForm} {url : String} {bk : Store}
    {stg : Media.Staging}
    (hstart : RaceStart n image0 b) (hc : form.check = .ok c)
    (hup : s.bucket.upload (uploadKey s c.name) c.contentType c.data = (bk, .ok url))
    (hX : Side n productId (imageKeyOfUrl image0) (.start form) r other r' s)
    (hY : Side n productId (imageKeyOfUrl image0) other r' (.start form) r s)
    (hS : Shared n productId image0 (trimSlashes b) (.start form) other r r' s ov) :
    PairInv n productId image0 (trimSlashes b)
      ⟨.shipped ⟨c, idNumbered (s.issued + 1), instantAt s.clock, url⟩, other,
        { s.stamped with bucket := bk, staging := stg }⟩
      (ov ∨ (UploadPair.mk (.shipped ⟨c, idNumbered (s.issued + 1), instantAt s.clock, url⟩)
        other { s.stamped with bucket := bk, staging := stg }).Overlapping) := by
  have hacc := UploadForm.check_eq_ok.1 hc
  obtain ⟨-, hbase, hholds, hrest⟩ := Store.upload_ok hup
  have hr : r = none := hX.read
  have hfresh : FreshKey n (s.issued + 1) (uploadKey s c.name) :=
    FreshKey.uploadKey hS.issued hacc.named
  have hproduct : c.productId = productId := by
    have hp := (Option.filter_eq_some_iff.1 hacc.givesProduct).1
    rw [hX.form form rfl] at hp
    exact (Option.some.inj hp).symm
  have hkey : imageKeyOfUrl url = some (uploadKey s c.name) :=
    imageKeyOfUrl_upload hstart.noQuery hstart.noFragment hS.base (idNumbered_plain _).1
      hacc.named hup
  -- the other run's object lies at another path, and it has read the first object if anything
  have hpath : ∀ u' ∈ other.upload?, keyPath u'.key ≠ keyPath (uploadKey s c.name) :=
    fun u' hu' => (hY.shipped u' hu').2.1.keyPath_ne hfresh
      ((hY.shipped u' hu').2.1.ne_uploadKey _)
  have hreadOther : ∀ o, r' = some o → o = imageKeyOfUrl image0 :=
    fun o ho => hY.read_first (by simp [UploadStage.IsStored]) ho
  refine ⟨r, r', ⟨hr, ?_, ?_, ?_, ?_⟩, ⟨hY.read, hY.form, ?_, ?_, ?_⟩,
    ⟨?_, ?_, ?_, ?_, ?_, ?_⟩⟩
  · rintro form' ⟨⟩
  · rintro u ⟨⟩
    exact ⟨hproduct, hfresh, hkey⟩
  · intro o ho
    rw [hr] at ho
    cases ho
  · rintro u ⟨⟩
    refine ⟨fun _ ⟨hread, _⟩ => ?_, fun _ => hholds⟩
    exact FreshKey.ne_issued hfresh hstart.issued (hreadOther _ hread).symm
  · intro u' hu'
    exact ⟨(hY.shipped u' hu').1, (hY.shipped u' hu').2.1.mono (Nat.le_succ _),
      (hY.shipped u' hu').2.2⟩
  · exact fun o ho => .inl (hreadOther o ho)
  · intro u' hu'
    rw [hrest _ (hpath u' hu'), hY.holds u' hu']
    simp [UploadStage.HasRemoved]
  · exact Nat.le_succ_of_le hS.issued
  · exact hbase.trans hS.base
  · rintro u ⟨⟩ u' hu' heq
    exact (hY.shipped u' hu').2.1.ne_uploadKey _ heq.symm
  · obtain ⟨q, hq, hcases⟩ := hS.image
    exact ⟨q, hq, image_of_unrecorded (by simp [UploadStage.IsStored])
      (by simp [UploadStage.IsStored]) hcases⟩
  · simp only [UploadPair.Overlapping, UploadStage.Reading, false_and, or_false]
    exact hS.overlap
  · rintro xk hxk (⟨-, hrem⟩ | ⟨hread, hrem⟩)
    · simp [UploadStage.HasRemoved] at hrem
    · rw [show ({ s.stamped with bucket := bk, staging := stg } : State).bucket = bk from rfl,
        hrest xk (FreshKey.keyPath_ne_issued hfresh hstart.issued xk hxk)]
      exact hS.gone xk hxk (.inr ⟨hread, hrem⟩)

/-- Reading keeps the invariant: the run reads the first object while no run has recorded, and
the other run's object once the other has; and it starts an overlap exactly when the other run
is reading too. -/
theorem PairInv.of_read {u : ShippedUpload} {q : Catalog.Product} (hstart : RaceStart n image0 b)
    (hq : s.tables.productById u.form.productId = some q)
    (hX : Side n productId (imageKeyOfUrl image0) (.shipped u) r other r' s)
    (hY : Side n productId (imageKeyOfUrl image0) other r' (.shipped u) r s)
    (hS : Shared n productId image0 (trimSlashes b) (.shipped u) other r r' s ov) :
    PairInv n productId image0 (trimSlashes b) ⟨.found u (imageKeyOfUrl q.image), other, s⟩
      (ov ∨ (UploadPair.mk (.found u (imageKeyOfUrl q.image)) other s).Overlapping) := by
  have hr : r = none := hX.read
  obtain ⟨hproduct, -, -⟩ := hX.shipped u rfl
  obtain ⟨q0, hq0, hcases⟩ := hS.image
  rw [hproduct, hq0] at hq
  cases hq
  -- what the run reads: the first object, or the other's once the other has recorded
  have hwhat : imageKeyOfUrl q.image = imageKeyOfUrl image0 ∧ ¬other.IsStored ∨
      ∃ u', other = .stored u' ∧ imageKeyOfUrl q.image = some u'.key := by
    rcases hcases with ⟨h0, -, h2⟩ | ⟨u', hu', -⟩ | ⟨u', rfl, himg, -⟩
    · exact .inl ⟨by rw [h0], h2⟩
    · cases hu'
    · exact .inr ⟨u', rfl, by rw [himg]; exact (hY.shipped u' rfl).2.2⟩
  have hreadOther : ∀ o, r' = some o → o = imageKeyOfUrl image0 :=
    fun o ho => hY.read_first (by simp [UploadStage.IsStored]) ho
  refine ⟨some (imageKeyOfUrl q.image), r', ⟨rfl, ?_, hX.shipped, ?_, hX.holds⟩,
    ⟨hY.read, hY.form, hY.shipped, fun o ho => .inl (hreadOther o ho), ?_⟩,
    ⟨hS.issued, hS.base, hS.apart, ⟨q, hq0, ?_⟩, ?_, ?_⟩⟩
  · rintro form' ⟨⟩
  · rintro o ⟨⟩
    rcases hwhat with ⟨h, -⟩ | hother
    · exact .inl h
    · exact .inr hother
  · intro u' hu'
    rw [hY.holds u' hu']
    simp [UploadStage.HasRemoved]
  · exact image_of_unrecorded (by simp [UploadStage.IsStored]) (by simp [UploadStage.IsStored])
      hcases
  · -- an overlap starts exactly when the other run is reading
    have hov : ov ↔ False := by
      rw [hS.overlap, hr]
      simp
    simp only [UploadPair.Overlapping, UploadStage.Reading, true_and, hov, false_or]
    by_cases hreading : other.Reading
    · obtain ⟨o', ho'⟩ := UploadStage.Read.some_of_reading hY.read hreading
      have hnot := UploadStage.not_isStored_of_reading hreading
      have hfirst : imageKeyOfUrl q.image = imageKeyOfUrl image0 := by
        rcases hwhat with ⟨h, -⟩ | ⟨u', rfl, -⟩
        · exact h
        · exact absurd trivial hnot
      exact iff_of_true hreading ⟨by rw [hfirst], by rw [ho', hreadOther o' ho']⟩
    · refine iff_of_false hreading fun ⟨hread, hread'⟩ => ?_
      -- the other run, not reading, has read only if it has recorded, and then this run read
      -- its object
      rcases hwhat with ⟨-, hnot⟩ | ⟨u', rfl, himg⟩
      · cases other with
        | start form' => exact absurd hread' (by rw [hY.read]; simp)
        | shipped u' => exact absurd hread' (by rw [hY.read]; simp)
        | found u' old => exact hreading trivial
        | cleared u' => exact hreading trivial
        | stored u' => exact hnot trivial
        | undoing u' e => exact hY.read
        | failed e => exact hY.read
      · rw [himg] at hread
        exact FreshKey.ne_issued (hY.shipped u' rfl).2.1 hstart.issued (Option.some.inj hread).symm
  · rintro xk hxk (⟨-, hrem⟩ | hcase)
    · simp [UploadStage.HasRemoved] at hrem
    · exact hS.gone xk hxk (.inr hcase)

/-- Removing keeps the invariant: the run removes the first object, which lies at no path of
the two uploads, or the other run's object, which is then no longer held. -/
theorem PairInv.of_remove {u : ShippedUpload} {old : Option String} {bk : Store}
    (hstart : RaceStart n image0 b) (hrem : Removed s.bucket old bk)
    (hX : Side n productId (imageKeyOfUrl image0) (.found u old) r other r' s)
    (hY : Side n productId (imageKeyOfUrl image0) other r' (.found u old) r s)
    (hS : Shared n productId image0 (trimSlashes b) (.found u old) other r r' s ov) :
    PairInv n productId image0 (trimSlashes b) ⟨.cleared u, other, { s with bucket := bk }⟩
      (ov ∨ (UploadPair.mk (.cleared u) other { s with bucket := bk }).Overlapping) := by
  have hr : r = some old := hX.read
  have hfresh := (hX.shipped u rfl).2.1
  have hwhat := hX.readWhat old hr
  -- the object removed lies at another path than this run's
  have hpath : ∀ o ∈ old, keyPath u.key ≠ keyPath o := by
    intro o ho
    rcases hwhat with rfl | ⟨u', rfl, rfl⟩
    · exact (FreshKey.keyPath_ne_issued hfresh hstart.issued o ho).symm
    · cases ho
      exact hfresh.keyPath_ne (hY.shipped u' rfl).2.1 (hS.apart u rfl u' rfl)
  have hreadOther : ∀ o, r' = some o → o = imageKeyOfUrl image0 :=
    fun o ho => hY.read_first (by simp [UploadStage.IsStored]) ho
  refine ⟨r, r', ⟨?_, ?_, hX.shipped, hX.readWhat, ?_⟩,
    ⟨hY.read, hY.form, hY.shipped, fun o ho => .inl (hreadOther o ho), ?_⟩,
    ⟨hS.issued, (Removed.base hrem).trans hS.base, hS.apart, ?_, ?_, ?_⟩⟩
  · rw [hr]
    rfl
  · rintro form' ⟨⟩
  · rintro u' ⟨⟩
    exact (Removed.holds_iff hrem hpath).trans (hX.holds u rfl)
  · intro u' hu'
    show bk.holds u'.key ↔ ¬(r = some (some u'.key) ∧ True)
    by_cases hold : old = some u'.key
    · -- this run removed the other's object
      subst hold
      exact iff_of_false (Removed.not_holds hrem) fun h => h ⟨hr, trivial⟩
    · have hp : ∀ o ∈ old, keyPath u'.key ≠ keyPath o := by
        intro o ho
        rcases hwhat with rfl | ⟨u'', rfl, rfl⟩
        · exact (FreshKey.keyPath_ne_issued (hY.shipped u' hu').2.1 hstart.issued o ho).symm
        · cases hu'
          exact absurd rfl hold
      rw [Removed.holds_iff hrem hp, hY.holds u' hu', hr]
      simp [UploadStage.HasRemoved, hold]
  · obtain ⟨q, hq, hcases⟩ := hS.image
    exact ⟨q, hq, image_of_unrecorded (by simp [UploadStage.IsStored])
      (by simp [UploadStage.IsStored]) hcases⟩
  · -- the run was reading already, so an overlap now was one before
    refine ⟨?_, fun h => .inl (hS.overlap.2 h)⟩
    rintro (hov | ⟨-, hreading⟩)
    · exact hS.overlap.1 hov
    · exact hS.overlap.1 (hS.of_reading hX hY trivial hreading)
  · rintro xk hxk (⟨hread, -⟩ | ⟨hread, hrem'⟩)
    · rw [hr] at hread
      cases hread
      exact Removed.not_holds hrem
    · exact fun hb => hS.gone xk hxk (.inr ⟨hread, hrem'⟩) (Removed.holds_of hrem hb)

/-- Recording keeps the invariant: the product shows the run's url, which the other run has not
read. -/
theorem PairInv.of_record {u : ShippedUpload} {t : Tables} {stg : Media.Staging}
    (hstart : RaceStart n image0 b)
    (hatt : s.tables.attachFile u.record = some t)
    (hX : Side n productId (imageKeyOfUrl image0) (.cleared u) r other r' s)
    (hY : Side n productId (imageKeyOfUrl image0) other r' (.cleared u) r s)
    (hS : Shared n productId image0 (trimSlashes b) (.cleared u) other r r' s ov) :
    PairInv n productId image0 (trimSlashes b) ⟨.stored u, other, { s with tables := t, staging := stg }⟩
      (ov ∨ (UploadPair.mk (.stored u) other { s with tables := t, staging := stg }).Overlapping) := by
  obtain ⟨hproduct, hfresh, -⟩ := hX.shipped u rfl
  obtain ⟨q, hq, -⟩ := hS.image
  have hq' : t.productById productId = some { q with image := u.url } := by
    rw [← hproduct] at hq ⊢
    exact Tables.productById_attachFile hatt hq
  have hreadOther : ∀ o, r' = some o → o = imageKeyOfUrl image0 :=
    fun o ho => hY.read_first (by simp [UploadStage.IsStored]) ho
  refine ⟨r, r', ⟨hX.read, ?_, hX.shipped, hX.readWhat, hX.holds⟩,
    ⟨hY.read, hY.form, hY.shipped, fun o ho => .inl (hreadOther o ho), hY.holds⟩,
    ⟨hS.issued, hS.base, hS.apart, ⟨_, hq', .inr (.inl ⟨u, rfl, rfl, fun _ hread => ?_⟩)⟩,
      ?_, hS.gone⟩⟩
  · rintro form' ⟨⟩
  · exact FreshKey.ne_issued hfresh hstart.issued (hreadOther _ hread).symm
  · simp only [UploadPair.Overlapping, UploadStage.Reading, false_and, or_false]
    exact hS.overlap

/-! ## Whole schedules -/

/-- **One step of the first run keeps the invariant**, as long as the run stays on its way. -/
theorem PairInv.step_first {p : UploadPair} (hstart : RaceStart n image0 b)
    (hinv : PairInv n productId image0 (trimSlashes b) p ov)
    (hcourse : (p.step true).first.OnCourse) :
    PairInv n productId image0 (trimSlashes b) (p.step true) (ov ∨ (p.step true).Overlapping) := by
  obtain ⟨first, second, s⟩ := p
  obtain ⟨r, r', hX, hY, hS⟩ := hinv
  have hstep : UploadPair.step ⟨first, second, s⟩ true =
      ⟨(first.step s).1, second, (first.step s).2⟩ := rfl
  rw [hstep] at hcourse ⊢
  -- one case for each thing a step can do
  rcases UploadStage.step_cases hcourse with
    ⟨form, c, url, bk, rfl, hc, -, hup, heq⟩ | ⟨u, q, rfl, hq, heq⟩ | ⟨u, old, bk, rfl, hrem, heq⟩ |
      ⟨u, t, rfl, hatt, heq⟩ | ⟨u, rfl, heq⟩
  · rw [heq]
    exact PairInv.of_ship hstart hc hup hX hY hS
  · rw [heq]
    exact PairInv.of_read hstart hq hX hY hS
  · rw [heq]
    exact PairInv.of_remove hstart hrem hX hY hS
  · rw [heq]
    exact PairInv.of_record hstart hatt hX hY hS
  · rw [heq]
    refine ⟨r, r', hX, hY, hS.congr ?_⟩
    simp [UploadPair.Overlapping, UploadStage.Reading]

/-- One step of either run keeps the invariant; the second run's step is the first's in the
pair with its runs swapped. -/
theorem PairInv.step {p : UploadPair} (hstart : RaceStart n image0 b)
    (hinv : PairInv n productId image0 (trimSlashes b) p ov) (turn : Bool)
    (hfirst : (p.step turn).first.OnCourse) (hsecond : (p.step turn).second.OnCourse) :
    PairInv n productId image0 (trimSlashes b) (p.step turn) (ov ∨ (p.step turn).Overlapping) := by
  cases turn with
  | true => exact hinv.step_first hstart hfirst
  | false =>
    rw [UploadPair.step_false] at hsecond ⊢
    refine ((hinv.swap.step_first hstart hsecond).swap).congr ?_
    rw [UploadPair.overlapping_swap]

/-- **A whole schedule keeps the invariant**, with the overlaps it went through, when both runs
end on their way. -/
theorem PairInv.run (hstart : RaceStart n image0 b) :
    ∀ (sched : List Bool) (p : UploadPair) (ov : Prop),
      PairInv n productId image0 (trimSlashes b) p ov → (p.run sched).first.OnCourse →
        (p.run sched).second.OnCourse →
        PairInv n productId image0 (trimSlashes b) (p.run sched) (ov ∨ p.Overlapped sched)
  | [], p, ov, hinv, _, _ =>
    hinv.congr ⟨.inl, fun h => h.elim id (hinv.of_overlapping ·)⟩
  | turn :: rest, p, ov, hinv, hfirst, hsecond => by
    -- the step keeps both runs on their way, since they end on it
    have hstep := hinv.step hstart turn ((UploadPair.onCourse_of_run _ rest).1 hfirst)
      ((UploadPair.onCourse_of_run _ rest).2 hsecond)
    refine (PairInv.run hstart rest _ _ hstep hfirst hsecond).congr ?_
    -- an overlap at the step is the first of those the rest goes through
    show ((ov ∨ (p.step turn).Overlapping) ∨ (p.step turn).Overlapped rest) ↔
      ov ∨ p.Overlapping ∨ (p.step turn).Overlapped rest
    have hnow : (p.step turn).Overlapping → (p.step turn).Overlapped rest :=
      fun h => UploadPair.Overlapped.of_overlapping h rest
    have hbefore : p.Overlapping → ov := hinv.of_overlapping
    constructor
    · rintro ((hov | hov) | hov)
      · exact .inl hov
      · exact .inr (.inr (hnow hov))
      · exact .inr (.inr hov)
    · rintro (hov | hov | hov)
      · exact .inl (.inl hov)
      · exact .inl (.inl (hbefore hov))
      · exact .inr hov

/-! ## Both runs recorded -/

/-- Two runs at the start: neither has read the image, so they have not overlapped. -/
theorem PairInv.start {formA formB : UploadForm} {q : Catalog.Product}
    (hA : formA.productId = some productId) (hB : formB.productId = some productId)
    (hq : s.tables.productById productId = some q) (hbase : s.bucket.base = trimSlashes b) :
    PairInv s.issued productId q.image (trimSlashes b) ⟨.start formA, .start formB, s⟩ False := by
  refine ⟨none, none, ⟨rfl, ?_, ?_, ?_, ?_⟩, ⟨rfl, ?_, ?_, ?_, ?_⟩,
    ⟨le_refl _, hbase, ?_, ⟨q, hq, .inl ⟨rfl, ?_, ?_⟩⟩, ?_, ?_⟩⟩
  · rintro form ⟨⟩
    exact hA
  · rintro u ⟨⟩
  · rintro o ⟨⟩
  · rintro u ⟨⟩
  · rintro form ⟨⟩
    exact hB
  · rintro u ⟨⟩
  · rintro o ⟨⟩
  · rintro u ⟨⟩
  · rintro u ⟨⟩
  · simp [UploadStage.IsStored]
  · simp [UploadStage.IsStored]
  · simp
  · rintro xk - (⟨⟨⟩, -⟩ | ⟨⟨⟩, -⟩)

/-- When both runs have recorded and the first recorded last, the product shows the first run's
url, the bucket holds the first run's object and has lost the first object, and it holds the
second run's object exactly when the runs overlapped: the second run read the first object, and
the first run read it too exactly when they overlapped, and the second run's object otherwise. -/
theorem Shared.stored_last {base : String} {uA uB : ShippedUpload} {image : String}
    (hstart : RaceStart n image0 b)
    (hX : Side n productId (imageKeyOfUrl image0) (.stored uA) r (.stored uB) r' s)
    (hY : Side n productId (imageKeyOfUrl image0) (.stored uB) r' (.stored uA) r s)
    (hS : Shared n productId image0 base (.stored uA) (.stored uB) r r' s ov)
    (hlast : LastStored (.stored uA) (.stored uB) r' image) :
    image = uA.url ∧ s.bucket.holds uA.key ∧ (s.bucket.holds uB.key ↔ ov) ∧
      ∀ k ∈ imageKeyOfUrl image0, ¬s.bucket.holds k := by
  obtain ⟨u, hu, himg, hnot⟩ := hlast
  cases hu
  have hr' : r' ≠ some (some uA.key) := hnot trivial
  -- the second run read the first object, since it did not read the first run's
  obtain ⟨o', ho'⟩ := Option.isSome_iff_exists.1 hY.read
  have hsecond : o' = imageKeyOfUrl image0 := by
    rcases hY.readWhat o' ho' with h | ⟨u', hu', rfl⟩
    · exact h
    · cases hu'
      exact absurd ho' hr'
  -- the first run read the first object or the second run's
  obtain ⟨o, ho⟩ := Option.isSome_iff_exists.1 hX.read
  have hfirst : o = imageKeyOfUrl image0 ∨ o = some uB.key := by
    rcases hX.readWhat o ho with h | ⟨u', hu', rfl⟩
    · exact .inl h
    · cases hu'
      exact .inr rfl
  have hne : imageKeyOfUrl image0 ≠ some uB.key :=
    FreshKey.ne_issued (hY.shipped uB rfl).2.1 hstart.issued
  refine ⟨himg, (hX.holds uA rfl).2 fun h => hr' h.1, ?_,
    fun xk hxk => hS.gone xk hxk (.inr ⟨by rw [ho', hsecond]; exact congrArg some hxk, trivial⟩)⟩
  rw [hY.holds uB rfl, hS.overlap, ho, ho', hsecond]
  rcases hfirst with rfl | rfl
  · simp [hne]
  · simp [Ne.symm hne, UploadStage.HasRemoved]

/-- Both runs recorded: each url names its run's key, the keys differ, the product shows the
url of the run that recorded last, whose object the bucket holds, the first object is gone, and
the bucket holds the other run's object exactly when the runs overlapped. -/
theorem PairInv.stored {base : String} {uA uB : ShippedUpload} (hstart : RaceStart n image0 b)
    (hinv : PairInv n productId image0 base ⟨.stored uA, .stored uB, s⟩ ov) :
    imageKeyOfUrl uA.url = some uA.key ∧ imageKeyOfUrl uB.url = some uB.key ∧ uA.key ≠ uB.key ∧
      ∃ q, s.tables.productById productId = some q ∧
        (q.image = uA.url ∧ s.bucket.holds uA.key ∧ (s.bucket.holds uB.key ↔ ov) ∨
          q.image = uB.url ∧ s.bucket.holds uB.key ∧ (s.bucket.holds uA.key ↔ ov)) ∧
        ∀ k ∈ imageKeyOfUrl image0, ¬s.bucket.holds k := by
  obtain ⟨r, r', hX, hY, hS⟩ := hinv
  obtain ⟨q, hq, hcases⟩ := hS.image
  refine ⟨(hX.shipped uA rfl).2.2, (hY.shipped uB rfl).2.2, hS.apart uA rfl uB rfl, q, hq, ?_⟩
  rcases hcases with ⟨-, hnot, -⟩ | hlast | hlast
  · exact absurd trivial hnot
  · obtain ⟨himg, hheld, hother, hgone⟩ := hS.stored_last hstart hX hY hlast
    exact ⟨.inl ⟨himg, hheld, hother⟩, hgone⟩
  · obtain ⟨himg, hheld, hother, hgone⟩ := hS.swap.stored_last hstart hY hX hlast
    exact ⟨.inr ⟨himg, hheld, hother⟩, hgone⟩

end Invariant

/-- A run answers a url exactly when its answer, read as an option, is the url. -/
theorem UploadStage.answer_eq_ok_iff {st : UploadStage} {url : String} :
    st.answer = some (.ok url) ↔ st.answer.bind Except.toOption = some url := by
  cases st <;> simp [UploadStage.answer, Except.toOption]

/-- A run that answers a url has recorded its upload of that url. -/
theorem UploadStage.answer_eq_ok {st : UploadStage} {url : String}
    (h : st.answer = some (.ok url)) : ∃ u, st = .stored u ∧ u.url = url := by
  cases st with
  | stored u =>
    cases h
    exact ⟨u, rfl, rfl⟩
  | failed e => cases h
  | _ => cases h

/-- **Two uploads for one product under way at once.**  Take a bucket made with a url `b` that
has no `?` or `#`, a product whose image names no object of an id not yet handed out, and two
uploads for that product whose steps interleave in any order (`sched` says which run moves at
each point).  When both answer a url, each url names its own key and the keys differ; the
product shows the url of one of them, the bucket holds that one's object, the object the product
showed before is gone, and the bucket holds the other's object too exactly when at some point
both runs were reading: each had read the product's image and neither had recorded its own. -/
theorem concurrent_uploads_objects {b productId : String} {formA formB : UploadForm} {s : State}
    {q : Catalog.Product} {sched : List Bool} {urlA urlB : String}
    (hq : '?' ∉ b.toList) (hf : '#' ∉ b.toList) (hbase : s.bucket.base = trimSlashes b)
    (hA : formA.productId = some productId) (hB : formB.productId = some productId)
    (hp : s.tables.productById productId = some q)
    (hissued : NamesIssued s.issued (productImage s productId))
    (hfirst : ((UploadPair.mk (.start formA) (.start formB) s).run sched).first.answer =
      some (.ok urlA))
    (hsecond : ((UploadPair.mk (.start formA) (.start formB) s).run sched).second.answer =
      some (.ok urlB)) :
    ∃ keyA keyB q', imageKeyOfUrl urlA = some keyA ∧ imageKeyOfUrl urlB = some keyB ∧
      keyA ≠ keyB ∧
      ((UploadPair.mk (.start formA) (.start formB) s).run sched).shop.tables.productById
        productId = some q' ∧
      (q'.image = urlA ∧
          ((UploadPair.mk (.start formA) (.start formB) s).run sched).shop.bucket.holds keyA ∧
          (((UploadPair.mk (.start formA) (.start formB) s).run sched).shop.bucket.holds keyB ↔
            (UploadPair.mk (.start formA) (.start formB) s).Overlapped sched) ∨
        q'.image = urlB ∧
          ((UploadPair.mk (.start formA) (.start formB) s).run sched).shop.bucket.holds keyB ∧
          (((UploadPair.mk (.start formA) (.start formB) s).run sched).shop.bucket.holds keyA ↔
            (UploadPair.mk (.start formA) (.start formB) s).Overlapped sched)) ∧
      ∀ k ∈ productImage s productId,
        ¬((UploadPair.mk (.start formA) (.start formB) s).run sched).shop.bucket.holds k := by
  have hfirstImage : productImage s productId = imageKeyOfUrl q.image := by
    simp only [productImage, hp, Option.bind_some]
  have hstart : RaceStart s.issued q.image b := ⟨hq, hf, hfirstImage ▸ hissued⟩
  rw [hfirstImage]
  -- both runs answered, so both recorded and stayed on their way throughout
  obtain ⟨uA, huA, rfl⟩ := UploadStage.answer_eq_ok hfirst
  obtain ⟨uB, huB, rfl⟩ := UploadStage.answer_eq_ok hsecond
  have hinv := PairInv.run hstart sched _ False (PairInv.start hA hB hp hbase)
    (by rw [huA]; trivial) (by rw [huB]; trivial)
  generalize (UploadPair.mk (.start formA) (.start formB) s).Overlapped sched = ov at hinv ⊢
  generalize (UploadPair.mk (.start formA) (.start formB) s).run sched = p at hinv huA huB ⊢
  obtain ⟨first, second, shop⟩ := p
  cases huA
  cases huB
  obtain ⟨hkeyA, hkeyB, hne, q', hq', hcases, hgone⟩ :=
    (hinv.congr (Iff.of_eq (false_or ov))).stored hstart
  exact ⟨uA.key, uB.key, q', hkeyA, hkeyB, hne, hq', hcases, hgone⟩

/-- Two uploads in turn for a product with no image yet, in memory at `https://host`: both
answer a url, and the bucket keeps only the second object, which the product shows. -/
theorem concurrent_uploads_objects_in_turn :
    let s : State :=
      { tables := { products := [⟨"p1", "Cat", "", 1, 0, 0, "", "", "", "", instantAt 0⟩] }
        bucket := .memory (Memory.empty "https://host")
        settings := ⟨"secret", "pepper", 3600, 30000⟩ }
    let form : UploadForm :=
      { productId := some "p1", fileName := some "cat.png",
        data := some ⟨#[0x89, 0x50, 0x4E, 0x47]⟩ }
    let sched := [true, true, true, true, false, false, false, false]
    let p := (UploadPair.mk (.start form) (.start form) s).run sched
    let urlA := "https://host/images/7c9e6679-7425-40de-944b-000000000001.cat.png"
    let urlB := "https://host/images/7c9e6679-7425-40de-944b-000000000002.cat.png"
    p.first.answer = some (.ok urlA) ∧ p.second.answer = some (.ok urlB) ∧
      ∃ keyA keyB q', imageKeyOfUrl urlA = some keyA ∧ imageKeyOfUrl urlB = some keyB ∧
        keyA ≠ keyB ∧ p.shop.tables.productById "p1" = some q' ∧
        (q'.image = urlA ∧ p.shop.bucket.holds keyA ∧
            (p.shop.bucket.holds keyB ↔ (UploadPair.mk (.start form) (.start form) s).Overlapped sched) ∨
          q'.image = urlB ∧ p.shop.bucket.holds keyB ∧
            (p.shop.bucket.holds keyA ↔ (UploadPair.mk (.start form) (.start form) s).Overlapped sched)) ∧
        ∀ k ∈ productImage s "p1", ¬p.shop.bucket.holds k := by
  intro s form sched p urlA urlB
  have hfirst : p.first.answer = some (.ok urlA) := UploadStage.answer_eq_ok_iff.2 (by decide +kernel)
  have hsecond : p.second.answer = some (.ok urlB) :=
    UploadStage.answer_eq_ok_iff.2 (by decide +kernel)
  have hnone : productImage s "p1" = none := by decide +kernel
  exact ⟨hfirst, hsecond, concurrent_uploads_objects (by decide) (by decide) rfl rfl rfl rfl
    (fun j name h => by rw [hnone] at h; cases h) hfirst hsecond⟩

/-- Two uploads for a product with no image yet, each answering a url, after which the bucket
keeps both objects though the product shows only one: in memory at `https://host` with the two
runs taking turns at every step, and in memory at `https://host/?` one after the other, where
the urls name no object and the first object is never removed. -/
theorem two_uploads_keep_both_objects :
    let shop (base : String) : State :=
      { tables := { products := [⟨"p1", "Cat", "", 1, 0, 0, "", "", "", "", instantAt 0⟩] }
        bucket := .memory (Memory.empty base)
        settings := ⟨"secret", "pepper", 3600, 30000⟩ }
    let form : UploadForm :=
      { productId := some "p1", fileName := some "cat.png",
        data := some ⟨#[0x89, 0x50, 0x4E, 0x47]⟩ }
    let keyA := "images/7c9e6679-7425-40de-944b-000000000001.cat.png"
    let keyB := "images/7c9e6679-7425-40de-944b-000000000002.cat.png"
    let racing := (UploadPair.mk (.start form) (.start form) (shop "https://host")).run
      [true, false, true, false, true, false, true, false]
    let inTurn := (UploadPair.mk (.start form) (.start form) (shop "https://host/?")).run
      [true, true, true, true, false, false, false, false]
    (racing.first.answer = some (.ok ("https://host/" ++ keyA)) ∧
      racing.second.answer = some (.ok ("https://host/" ++ keyB)) ∧
      (racing.shop.tables.productById "p1").map (·.image) = some ("https://host/" ++ keyB) ∧
      racing.shop.bucket.holds keyA ∧ racing.shop.bucket.holds keyB) ∧
    (inTurn.first.answer = some (.ok ("https://host/?/" ++ keyA)) ∧
      inTurn.second.answer = some (.ok ("https://host/?/" ++ keyB)) ∧
      (inTurn.shop.tables.productById "p1").map (·.image) = some ("https://host/?/" ++ keyB) ∧
      inTurn.shop.bucket.holds keyA ∧ inTurn.shop.bucket.holds keyB) := by
  intro shop form keyA keyB racing inTurn
  refine ⟨⟨UploadStage.answer_eq_ok_iff.2 ?_, UploadStage.answer_eq_ok_iff.2 ?_, ?_, ?_, ?_⟩,
    ⟨UploadStage.answer_eq_ok_iff.2 ?_, UploadStage.answer_eq_ok_iff.2 ?_, ?_, ?_, ?_⟩⟩ <;>
    decide +kernel

end Storefront.Shop
