import Storefront.Proofs.SafeKeys

/-
  The key of an image url names a direct child of the images folder, whatever the url.

  Product image urls are text that administrators write.  `imageKeyOfUrl` reads a url around its
  last path segment (`LastSegmentOf`): before the segment comes nothing or a text ending in `/`,
  and after it nothing or the query or the fragment.  Every url reads so in one way, and its key
  is `images/` and that segment, unless the segment is empty, `.` or `..`, when it has none.  So
  a key is always `images/<name>` for a segment name: no `/`, `?` or `#`, not empty, not `.` and
  not `..`.

  Main statement (`image_keys_stay_in_images_folder`): the key of a url is read off its last
  segment as above; every key resolves below every root, to the root's segments followed by
  `images` and the name; and the one removal that deleting a product or replacing its image
  makes for the key changes, on a disk bucket, no file but the one at `images`, `<name>`.
-/

namespace Storefront.Bucket

/-! ## A url around its last segment -/

/-- A url read around its last path segment `seg`: first `pre`, which is empty or ends with `/`,
then `seg`, then `rest`, which is empty or starts with `?` or `#`.  Neither `pre` nor `seg` holds
a `?` or a `#`, and `seg` holds no `/`. -/
structure LastSegmentOf (url : String) (pre seg rest : List Char) : Prop where
  split : url.toList = pre ++ seg ++ rest
  preEnd : pre = [] ∨ pre.getLast? = some '/'
  prePlain : '?' ∉ pre ∧ '#' ∉ pre
  segPlain : UrlPlain seg
  restStart : rest = [] ∨ rest.head? = some '?' ∨ rest.head? = some '#'

/-- The path of a url is all of it up to where its query or fragment starts. -/
theorem urlPath_append {pre rest : List Char} (hq : '?' ∉ pre) (hf : '#' ∉ pre)
    (hrest : rest = [] ∨ rest.head? = some '?' ∨ rest.head? = some '#') :
    urlPath (pre ++ rest) = pre := by
  have hkeep : ∀ c ∈ pre, (c ≠ '?' && c ≠ '#') = true := by
    intro c hc
    have h1 : c ≠ '?' := fun h => hq (h ▸ hc)
    have h2 : c ≠ '#' := fun h => hf (h ▸ hc)
    simp [h1, h2]
  unfold urlPath
  rw [List.takeWhile_append_of_pos hkeep]
  -- the rest stops the path at once
  rcases hrest with rfl | hstart | hstart
  · simp
  all_goals
    obtain ⟨r, rfl⟩ := List.head?_eq_some_iff.1 hstart
    simp

/-- The last segment of a text that is empty or ends with `/` before a segment is that
segment. -/
theorem lastPathSegment_append {pre seg : List Char} (hpre : pre = [] ∨ pre.getLast? = some '/')
    (hseg : '/' ∉ seg) : lastPathSegment (pre ++ seg) = seg := by
  rcases hpre with rfl | hend
  · have hkeep : ∀ c ∈ seg.reverse, decide (c ≠ '/') = true := by
      intro c hc
      have hne : c ≠ '/' := fun h => hseg (h ▸ List.mem_reverse.1 hc)
      simpa using hne
    rw [List.nil_append, lastPathSegment, List.takeWhile_eq_self_iff.2 hkeep, List.reverse_reverse]
  · obtain ⟨p, rfl⟩ : ∃ p, pre = p ++ ['/'] :=
      ⟨pre.dropLast, (List.dropLast_append_getLast? _ hend).symm⟩
    rw [List.append_assoc, List.singleton_append]
    exact lastPathSegment_append_slash p hseg

/-- A text is the part up to and with its last `/`, then its last segment. -/
theorem eq_append_lastPathSegment (cs : List Char) :
    cs = (cs.reverse.dropWhile (· ≠ '/')).reverse ++ lastPathSegment cs := by
  rw [lastPathSegment, ← List.reverse_append, List.takeWhile_append_dropWhile,
    List.reverse_reverse]

/-- **Every url reads around its last segment.** -/
theorem LastSegmentOf.exists (url : String) : ∃ pre seg rest, LastSegmentOf url pre seg rest := by
  -- the path up to the first `?` or `#`, cut after its last `/`
  have hsub : ∀ c ∈ ((urlPath url.toList).reverse.dropWhile (· ≠ '/')).reverse,
      c ∈ urlPath url.toList := fun c hc =>
    List.mem_reverse.1 (List.dropWhile_subset _ (List.mem_reverse.1 hc))
  refine ⟨((urlPath url.toList).reverse.dropWhile (· ≠ '/')).reverse,
    lastPathSegment (urlPath url.toList), url.toList.dropWhile fun c => c ≠ '?' && c ≠ '#',
    ⟨?_, ?_, ?_, ?_, ?_⟩⟩
  · rw [← eq_append_lastPathSegment]
    exact List.takeWhile_append_dropWhile.symm
  · -- what is dropped from the reversed path up to its last `/` starts with that `/`
    rcases hD : (urlPath url.toList).reverse.dropWhile (· ≠ '/') with _ | ⟨x, D⟩
    · exact .inl rfl
    · have hx := List.head?_dropWhile_not (fun c => decide (c ≠ '/')) (urlPath url.toList).reverse
      rw [hD] at hx
      simp only [List.head?_cons, decide_eq_false_iff_not, not_not] at hx
      simp [hx]
  · exact ⟨fun h => (mem_urlPath (hsub _ h)).1 rfl, fun h => (mem_urlPath (hsub _ h)).2 rfl⟩
  · exact ⟨fun h => (mem_lastPathSegment h).2 rfl,
      fun h => (mem_urlPath (mem_lastPathSegment h).1).1 rfl,
      fun h => (mem_urlPath (mem_lastPathSegment h).1).2 rfl⟩
  · -- the rest starts where the path stopped, at a `?` or a `#`
    rcases hr : url.toList.dropWhile (fun c => c ≠ '?' && c ≠ '#') with _ | ⟨x, r⟩
    · exact .inl rfl
    · have hx := List.head?_dropWhile_not (fun c => c ≠ '?' && c ≠ '#') url.toList
      rw [hr] at hx
      simp only [List.head?_cons, Bool.and_eq_false_iff, decide_eq_false_iff_not, not_not] at hx
      rcases hx with rfl | rfl <;> simp

/-- **The key of a url, read off its last segment.** -/
theorem imageKeyOfUrl_of_lastSegment {url : String} {pre seg rest : List Char}
    (h : LastSegmentOf url pre seg rest) :
    imageKeyOfUrl url =
      if seg = [] ∨ seg = ['.'] ∨ seg = ['.', '.'] then none
      else some ("images/" ++ String.ofList seg) := by
  have hpath : urlPath url.toList = pre ++ seg := by
    rw [h.split, List.append_assoc, ← List.append_assoc pre seg rest]
    exact urlPath_append (by simp [h.prePlain.1, h.segPlain.2.1])
      (by simp [h.prePlain.2, h.segPlain.2.2]) h.restStart
  have hempty : String.ofList seg = "" ↔ seg = [] := by
    rw [← String.toList_inj, String.toList_ofList]
    rfl
  have hdot : String.ofList seg = "." ↔ seg = ['.'] := by
    rw [← String.toList_inj, String.toList_ofList]
    rfl
  have hdotdot : String.ofList seg = ".." ↔ seg = ['.', '.'] := by
    rw [← String.toList_inj, String.toList_ofList]
    rfl
  unfold imageKeyOfUrl
  rw [hpath, lastPathSegment_append h.preEnd h.segPlain.1]
  simp only [Bool.or_eq_true, decide_eq_true_eq, hempty, hdot, hdotdot, or_assoc]

/-! ## Where an image key leads -/

/-- **An image key resolves below every root**, to the root's segments followed by `images` and
the name. -/
theorem resolve_images {name : String} (hname : PathName name) (root : String) :
    resolve root ("images/" ++ name) = .ok (joinPath root ("images/" ++ name)) ∧
      segments (joinPath root ("images/" ++ name)) =
        segments root ++ [.name "images", .name name] := by
  refine ⟨resolve_images_eq_ok hname root, ?_⟩
  rw [((isSafeKey_iff _).1 (isSafeKey_images hname)).segments_joinPath, segments_images hname]

/-- Removing an image key from a disk bucket changes no file but the one at `images`,
`<name>`. -/
theorem Disk.read_delete_images {name : String} (hname : PathName name) (d : Disk)
    {q : List String} (hq : q ≠ ["images", name]) :
    (d.delete ("images/" ++ name)).1.read q = d.read q :=
  Disk.read_delete_other (by rw [keyPath_images hname]; exact hq)

/-- A removal from a bucket on disk is the disk's removal. -/
@[simp] theorem Store.delete_disk (d : Disk) (key : String) :
    (Store.disk d).delete key = (.disk (d.delete key).1, (d.delete key).2) := rfl

end Storefront.Bucket

namespace Storefront.Shop

open Storefront.Bucket

/-! ## The removals that name an image key -/

/-- Removing an object calls the bucket once, and passes a refusal on. -/
theorem run_removeObject (key : String) (s : State) :
    (removeObject key).run.run s =
      match s.bucket.delete key with
      | (b, .ok ()) => (.ok (), { s with bucket := b })
      | (b, .error e) => (.error (Error.ofBucket e), { s with bucket := b }) := by
  simp only [removeObject, run_bind, run_withBucket]
  rcases s.bucket.delete key with ⟨b, e | ⟨⟩⟩ <;> rfl

/-- A product's removal and an upload's removal of the previous image leave the bucket as its
one removal of the key does, whatever it answers. -/
theorem removeObject_bucket (key : String) (s : State) :
    ((removeObject key).run.run s).2.bucket = (s.bucket.delete key).1 ∧
      ((removePrevious (some key)).run.run s).2.bucket = (s.bucket.delete key).1 := by
  rw [run_removeObject, run_removePrevious]
  rcases hdel : s.bucket.delete key with ⟨b, e | ⟨⟩⟩ <;> simp only [hdel, and_self]

/-- **Image keys stay in the images folder.**  Every url reads around its last path segment
`seg` (`LastSegmentOf`), and its key is `images/` and `seg`, unless `seg` is empty, `.` or `..`,
when it has none.  So every key is `images/<name>` for a segment name: not empty, no `/`, `?` or
`#`, neither `.` nor `..`.  It resolves below every root, to the root's segments followed by
`images` and the name; and the removal of the key that deleting a product or replacing its image
makes changes, on a disk bucket, no file but the one at `images`, `<name>`. -/
theorem image_keys_stay_in_images_folder (url : String) :
    (∃ pre seg rest, LastSegmentOf url pre seg rest) ∧
    (∀ pre seg rest, LastSegmentOf url pre seg rest →
      imageKeyOfUrl url =
        if seg = [] ∨ seg = ['.'] ∨ seg = ['.', '.'] then none
        else some ("images/" ++ String.ofList seg)) ∧
    ∀ key, imageKeyOfUrl url = some key → ∃ name, key = "images/" ++ name ∧ SegmentName name ∧
      (∀ root, resolve root key = .ok (joinPath root key) ∧
        segments (joinPath root key) = segments root ++ [.name "images", .name name]) ∧
      ∀ (s : State) (d : Disk), s.bucket = .disk d →
        ((removeObject key).run.run s).2.bucket = .disk (d.delete key).1 ∧
        ((removePrevious (some key)).run.run s).2.bucket = .disk (d.delete key).1 ∧
        ∀ q, q ≠ ["images", name] → (d.delete key).1.read q = d.read q := by
  refine ⟨LastSegmentOf.exists url, fun pre seg rest h => imageKeyOfUrl_of_lastSegment h, ?_⟩
  intro key hkey
  obtain ⟨name, rfl, hname⟩ := imageKeyOfUrl_eq_some hkey
  refine ⟨name, rfl, hname, resolve_images hname.pathName, fun s d hd => ?_⟩
  obtain ⟨hobject, hprevious⟩ := removeObject_bucket ("images/" ++ name) s
  rw [hd, Store.delete_disk] at hobject hprevious
  exact ⟨hobject, hprevious, fun q hq => Disk.read_delete_images hname.pathName d hq⟩

end Storefront.Shop
