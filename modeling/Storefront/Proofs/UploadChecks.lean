import Storefront.Proofs.Upload

/-
  The checks an upload makes before it touches the shop.

  `uploadImage` first checks its form (`UploadForm.check`): the size of the file, then the
  product id, then the presence of the file, then the type its bytes show, then its name.
  `UploadForm.refusal` says the same thing check by check, in the words of the rules: a file of
  more than `maxUploadSize` bytes is refused whatever else the form holds (a file of exactly
  that size passes); then a product id that is missing or blank; then a missing file; then bytes
  whose detected type is not an accepted image type, named by that type or by
  `application/octet-stream` when none is detected; then a name `sanitize` refuses.

  Main statement (`uploadImage_refused_iff`): a run of an upload answers a failure and leaves
  the shop exactly as it was (tables, bucket with its objects and its record of calls, clock
  and ids) if and only if some check fails, and the failure is the one the first failing check
  gives.  A form that passes every check takes a file id, so the run goes on.  The staged copy
  of a file is no part of the shop's state: it is made only after the checks and removed on
  every way out.
-/

namespace Storefront

/-! ## Answers in `Except` -/

section Except

variable {ε α β : Type}

@[simp] theorem except_throw_eq (e : ε) : (throw e : Except ε α) = .error e := rfl

@[simp] theorem except_pure_eq (a : α) : (pure a : Except ε α) = .ok a := rfl

@[simp] theorem except_error_bind (e : ε) (f : α → Except ε β) :
    (Except.error e >>= f) = .error e := rfl

@[simp] theorem except_ok_bind (a : α) (f : α → Except ε β) : (Except.ok a >>= f) = f a := rfl

end Except

end Storefront

namespace Storefront.Shop

open Storefront.Media

/-! ## The checks, one by one -/

namespace UploadForm

variable {form : UploadForm} {d : ByteArray} {p : String}

/-- A file over the limit is refused first, whatever else the form holds. -/
theorem check_of_large (hd : form.data = some d) (hs : maxUploadSize < d.size) :
    form.check = .error (.payloadTooLarge maxUploadSize) := by
  simp [check, hd, Nat.not_le.2 hs]

/-- A product id that is missing or blank is refused next. -/
theorem check_of_no_product (hs : ∀ d, form.data = some d → d.size ≤ maxUploadSize)
    (hp : form.productId.filter (fun p => !Text.isBlankText p) = none) :
    form.check = .error (.invalidRequest "select product id") := by
  rcases hd : form.data with _ | d
  · simp [check, hd, hp]
  · simp [check, hd, hp, hs d hd]

/-- A form that names a product but carries no file is refused then. -/
theorem check_of_no_file (hp : form.productId.filter (fun p => !Text.isBlankText p) = some p)
    (hd : form.data = none) : form.check = .error (.invalidRequest "file is required") := by
  simp [check, hd, hp]

/-- Bytes of a type that is not accepted are refused once the size, the product and the file
pass. -/
theorem check_of_type {e : Error} (hd : form.data = some d) (hs : d.size ≤ maxUploadSize)
    (hp : form.productId.filter (fun p => !Text.isBlankText p) = some p)
    (hct : sniffImage d = .error e) : form.check = .error e := by
  simp [check, hd, hs, hp, hct]

/-- A name `sanitize` refuses is refused last. -/
theorem check_of_name {contentType : String} {e : Error} (hd : form.data = some d)
    (hs : d.size ≤ maxUploadSize) (hp : form.productId.filter (fun p => !Text.isBlankText p) = some p)
    (hct : sniffImage d = .ok contentType) (hn : sanitize (form.fileName.getD "") = .error e) :
    form.check = .error e := by
  simp [check, hd, hs, hp, hct, hn]

end UploadForm

/-- Bytes are refused when the type detected in them is not an accepted image type, and the
refusal names that type, or `application/octet-stream` when none is detected. -/
theorem sniffImage_eq_error_iff {d : ByteArray} {e : Error} :
    sniffImage d = .error e ↔
      (detect d).all (fun m => !acceptedImageTypes.contains m) ∧
        e = .unsupportedMediaType ((detect d).getD "application/octet-stream") := by
  unfold sniffImage
  rcases detect d with _ | m
  · simp only [Option.all_none, Option.getD_none, true_and]
    exact ⟨fun h => (Except.error.inj h).symm, fun h => h ▸ rfl⟩
  · by_cases hm : acceptedImageTypes.contains m = true
    · simp only [hm, if_true, Option.all_some, Bool.not_true, Bool.false_eq_true, false_and,
        iff_false]
      exact fun h => by cases h
    · simp only [hm, Option.all_some, Option.getD_some]
      simp only [Bool.not_eq_true] at hm
      simp only [Bool.not_false, true_and]
      exact ⟨fun h => (Except.error.inj h).symm, fun h => h ▸ rfl⟩

/-- Every name `sanitize` refuses is refused as empty. -/
theorem sanitize_eq_error {raw : String} {e : Error} (h : sanitize raw = .error e) :
    e = .invalidRequest "file name is empty" := by
  unfold sanitize at h
  dsimp only at h
  split at h
  · exact (Except.error.inj h).symm
  · cases h

/-! ## The first failing check -/

/-- The failure the checks of an upload form answer, said check by check in the order they are
made; nothing when every check passes. -/
def UploadForm.refusal (form : UploadForm) : Option Error :=
  if form.data.any (maxUploadSize < ·.size) then some (.payloadTooLarge maxUploadSize)
  else if form.productId.all Text.isBlankText then some (.invalidRequest "select product id")
  else
    match form.data with
    | none => some (.invalidRequest "file is required")
    | some d =>
      if (detect d).all (fun m => !acceptedImageTypes.contains m) then
        some (.unsupportedMediaType ((detect d).getD "application/octet-stream"))
      else
        match sanitize (form.fileName.getD "") with
        | .error _ => some (.invalidRequest "file name is empty")
        | .ok _ => none

/-- **The checks refuse a form with the failure of its first failing check.**  `refusal` and
the checks the upload makes agree: a failure exactly when the checks fail, and the same one. -/
theorem UploadForm.refusal_eq_check (form : UploadForm) :
    form.refusal = match form.check with
      | .error e => some e
      | .ok _ => none := by
  -- the product id passes exactly when it is present and not blank
  have hfilter : form.productId.all Text.isBlankText = true ↔
      form.productId.filter (fun p => !Text.isBlankText p) = none := by
    cases form.productId <;> simp [Option.filter]
  -- the size first, over every form
  by_cases hlarge : ∃ d, form.data = some d ∧ maxUploadSize < d.size
  · obtain ⟨d, hd, hs⟩ := hlarge
    simp [refusal, hd, hs, check_of_large hd hs]
  have hsmall : ∀ d, form.data = some d → d.size ≤ maxUploadSize :=
    fun d hd => Nat.not_lt.1 fun hs => hlarge ⟨d, hd, hs⟩
  have hany : form.data.any (maxUploadSize < ·.size) = false := by
    rcases hd : form.data with _ | d
    · rfl
    · simpa using hsmall d hd
  -- then the product id
  rcases hp : form.productId.filter (fun p => !Text.isBlankText p) with _ | p
  · simp [refusal, hany, hfilter.2 hp, check_of_no_product hsmall hp]
  have hnamed : form.productId.all Text.isBlankText = false := by
    rw [Bool.eq_false_iff]
    exact fun h => by simp [hfilter.1 h] at hp
  -- then the file, its type and its name
  rcases hd : form.data with _ | d
  · simp [refusal, hnamed, hd, check_of_no_file hp hd]
  rw [hd] at hany
  simp only [refusal, hany, hnamed, hd, Bool.false_eq_true, if_false]
  rcases hct : sniffImage d with e | contentType
  · obtain ⟨hrefused, rfl⟩ := sniffImage_eq_error_iff.1 hct
    simp only [hrefused, if_true, check_of_type hd (hsmall d hd) hp hct]
  have hseen : (detect d).all (fun m => !acceptedImageTypes.contains m) = false := by
    rw [Bool.eq_false_iff]
    exact fun h => by simp [sniffImage_eq_error_iff.2 ⟨h, rfl⟩] at hct
  simp only [hseen, Bool.false_eq_true, if_false]
  rcases hn : sanitize (form.fileName.getD "") with e | name
  · simp only [sanitize_eq_error hn, check_of_name hd (hsmall d hd) hp hct hn]
  · have hok : form.check = .ok ⟨p, d, contentType, name⟩ :=
      UploadForm.check_eq_ok.2 ⟨hp, hd, hsmall d hd, hct, hn⟩
    simp only [hok]

/-! ## No step before the checks -/

/-- A run that passes the checks takes a file id, whatever happens after. -/
theorem uploadImage_issued_of_check {form : UploadForm} {c : CheckedForm} (h : form.check = .ok c)
    (s : State) : ((uploadImage form).run.run s).2.issued = s.issued + 1 := by
  rcases hrun : (uploadImage form).run.run s with ⟨r, s'⟩
  have hacc := UploadForm.check_eq_ok.1 h
  cases UploadRun.of_run hrun with
  | rejected hfail => exact absurd (h.symm.trans hfail) (by simp)
  | stagingFailed | timedOut | uploadFailed | productMissing | previousKept | attachFailed
  | stored => rfl

/-- **An upload is refused before it touches the shop exactly when a check fails, with the
failure of the first failing check.**  The limit is 5 MiB, a file of exactly that size passing.
For every form and every state of the shop, a run of the upload answers the failure `e` and
leaves the shop as it was (its tables, its bucket with the bucket's objects and its record of
calls, its clock and its ids) if and only if `e` is what the first failing check gives: a file
over the limit, whatever else the form holds; else a product id missing or blank; else no file;
else bytes of a type that is not an accepted image, named by the type detected or by
`application/octet-stream`; else a name `sanitize` refuses. -/
theorem uploadImage_refused_iff (form : UploadForm) (s : State) (e : Error) :
    maxUploadSize = 5 * 1048576 ∧
      ((uploadImage form).run.run s = (.error e, s) ↔ form.refusal = some e) := by
  refine ⟨rfl, ?_⟩
  rw [UploadForm.refusal_eq_check]
  rcases hc : form.check with e' | c
  · -- a failed check answers at once
    simp only [uploadImage, run_bind, run_shipUpload, hc, Option.some.injEq]
    constructor
    · intro h
      cases h
      rfl
    · rintro rfl
      rfl
  · -- a passed check takes a file id, so the shop is not left as it was
    simp only [reduceCtorEq, iff_false]
    intro hrun
    have hissued := uploadImage_issued_of_check hc s
    rw [hrun] at hissued
    exact Nat.succ_ne_self _ hissued.symm

end Storefront.Shop
