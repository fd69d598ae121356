import Mathlib.Data.List.TakeWhile
import Mathlib.Data.List.Nodup
import Storefront.Proofs.BucketObjects
import Storefront.Proofs.FreshIds

/-
  The url of an uploaded image names its key, and uploads for one product keep one image.

  An upload stores a file under `images/<id>.<name>`, with a fresh id and the name `sanitize`
  makes of the client's, and the product's image becomes the url the bucket answers: the bucket's
  url, then `/` in memory or `/uploads/` on disk, then the key.  `imageKeyOfUrl` reads the key
  back from the url: it cuts the url at its first `?` or `#`, keeps the text after the last `/`
  and puts `images/` in front.  The round trip (`imageKeyOfUrl_upload`) holds because the id and
  the safe name have no `/`, `?` or `#`, the name is never `.` or `..`, and the bucket's url has
  no `?` or `#`.

  The next upload for the product removes the object its image url names, that is the object
  the upload before it stored.  So a run of uploads for one product is a run of replacements in
  the bucket (`uploads_replaced`), whose keys are distinct because their ids are fresh: the
  bucket keeps only the last object (`uploaded_image_urls_name_their_keys`).
-/

namespace Storefront.Media

/-- A name character is none of `/`, `?` and `#`. -/
theorem isNameChar_plain {c : Char} (h : isNameChar c = true) : c ≠ '/' ∧ c ≠ '?' ∧ c ≠ '#' := by
  refine ⟨?_, ?_, ?_⟩ <;> rintro rfl <;> revert h <;> decide

theorem keptExtension_subset (cs : List Char) : keptExtension cs ⊆ cs := by
  unfold keptExtension
  split
  · dsimp only
    split
    · exact List.drop_subset _ _
    · exact List.nil_subset _
  · exact List.nil_subset _

/-- A cut keeps characters of the name only. -/
theorem cut_subset (cs : List Char) : cut cs ⊆ cs := by
  unfold cut
  split
  · exact List.Subset.refl _
  · exact List.append_subset.2 ⟨List.take_subset _ _, keptExtension_subset cs⟩

/-- **A safe name is plain.**  Every character of it is a name character, and one of them is
not a dot. -/
theorem sanitize_ok {raw name : String} (h : sanitize raw = .ok name) :
    (∀ c ∈ name.toList, isNameChar c = true) ∧ ∃ c ∈ name.toList, c ≠ '.' := by
  unfold sanitize at h
  dsimp only at h
  split at h
  · cases h
  · next hdots =>
    rw [← Except.ok.inj h, String.toList_ofList]
    refine ⟨fun c hc => ?_, ?_⟩
    · -- every character was kept as a name character or replaced by `_`
      obtain ⟨d, -, rfl⟩ := List.mem_map.1 (cut_subset _ hc)
      split
      · assumption
      · decide
    · simpa using hdots

end Storefront.Media

namespace Storefront.Text

theorem splitChars_ne_nil (sep : Char) (l : List Char) : splitChars sep l ≠ [] := by
  cases l with
  | nil => simp [splitChars]
  | cons c rest =>
    unfold splitChars
    split
    · simp
    · split <;> simp

/-- A text without the separator is one part. -/
theorem splitChars_of_not_mem {sep : Char} {l : List Char} (h : sep ∉ l) :
    splitChars sep l = [l] := by
  induction l with
  | nil => rfl
  | cons c rest ih =>
    have hc : c ≠ sep := fun hcs => h (hcs ▸ List.mem_cons_self)
    rw [splitChars, ih fun hm => h (List.mem_cons_of_mem _ hm)]
    simp [hc]

/-- A part without the separator, then the separator, is the first part. -/
theorem splitChars_append_sep {sep : Char} {l : List Char} (h : sep ∉ l) (r : List Char) :
    splitChars sep (l ++ sep :: r) = l :: splitChars sep r := by
  induction l with
  | nil =>
    obtain ⟨p, ps, hsplit⟩ := List.exists_cons_of_ne_nil (splitChars_ne_nil sep r)
    rw [List.nil_append, splitChars, hsplit]
    simp
  | cons c rest ih =>
    have hc : c ≠ sep := fun hcs => h (hcs ▸ List.mem_cons_self)
    rw [List.cons_append, splitChars, ih fun hm => h (List.mem_cons_of_mem _ hm)]
    simp [hc]

end Storefront.Text

namespace Storefront.Bucket

/-! ## The key of an image url -/

/-- The characters that end a url's path segment. -/
def UrlPlain (cs : List Char) : Prop := '/' ∉ cs ∧ '?' ∉ cs ∧ '#' ∉ cs

theorem urlPath_of_no_query {cs : List Char} (hq : '?' ∉ cs) (hf : '#' ∉ cs) : urlPath cs = cs := by
  unfold urlPath
  rw [List.takeWhile_eq_self_iff]
  intro c hc
  have h1 : c ≠ '?' := fun h => hq (h ▸ hc)
  have h2 : c ≠ '#' := fun h => hf (h ▸ hc)
  simp [h1, h2]

/-- The characters before the first `c` of a text that has one. -/
theorem takeWhile_ne_append {c : Char} {u v : List Char} (h : c ∉ u) :
    (u ++ c :: v).takeWhile (· ≠ c) = u := by
  have hkeep : ∀ d ∈ u, decide (d ≠ c) = true := by
    intro d hd
    have hne : d ≠ c := fun hs => h (hs ▸ hd)
    simpa using hne
  rw [List.takeWhile_append_of_pos hkeep, List.takeWhile_cons_of_neg (by simp), List.append_nil]

theorem lastPathSegment_append_slash (u : List Char) {v : List Char} (hv : '/' ∉ v) :
    lastPathSegment (u ++ '/' :: v) = v := by
  have hrev : (u ++ '/' :: v).reverse = v.reverse ++ '/' :: u.reverse := by simp
  rw [lastPathSegment, hrev, takeWhile_ne_append (by simpa using hv), List.reverse_reverse]

/-- The path of a url has no `?` and no `#`. -/
theorem mem_urlPath {url : List Char} {c : Char} (h : c ∈ urlPath url) : c ≠ '?' ∧ c ≠ '#' := by
  have hkeep := List.mem_takeWhile_imp h
  simpa using hkeep

/-- The last segment of a path is part of it, and has no `/`. -/
theorem mem_lastPathSegment {cs : List Char} {c : Char} (h : c ∈ lastPathSegment cs) :
    c ∈ cs ∧ c ≠ '/' := by
  have hrev := List.mem_reverse.1 h
  have hkeep := List.mem_takeWhile_imp hrev
  exact ⟨List.mem_reverse.1 (List.takeWhile_subset _ hrev), by simpa using hkeep⟩

/-- A name that a path reads as one plain segment: it has no `/`, and it is not empty, `.` or
`..`. -/
structure PathName (name : String) : Prop where
  noSlash : '/' ∉ name.toList
  notEmpty : name ≠ ""
  notDot : name ≠ "."
  notDotDot : name ≠ ".."

/-- The characters of a path name are none of the parts a path reads as no name. -/
theorem PathName.toList_ne {name : String} (h : PathName name) :
    name.toList ≠ [] ∧ name.toList ≠ ['.'] ∧ name.toList ≠ ['.', '.'] := by
  refine ⟨fun hl => h.notEmpty ?_, fun hl => h.notDot ?_, fun hl => h.notDotDot ?_⟩ <;>
    exact String.toList_inj.1 (hl.trans (by decide))

/-- A name that can end a url and that a path reads as a name: it has no `/`, `?` or `#`, and
it is not empty, `.` or `..`. -/
structure SegmentName (name : String) : Prop where
  plain : UrlPlain name.toList
  notEmpty : name ≠ ""
  notDot : name ≠ "."
  notDotDot : name ≠ ".."

theorem SegmentName.pathName {name : String} (h : SegmentName name) : PathName name :=
  ⟨h.plain.1, h.notEmpty, h.notDot, h.notDotDot⟩

/-- A plain name with a character other than a dot is a segment name. -/
theorem SegmentName.of_nonDot {name : String} (hplain : UrlPlain name.toList)
    (h : ∃ c ∈ name.toList, c ≠ '.') : SegmentName name := by
  obtain ⟨c, hc, hdot⟩ := h
  have hall : ∀ t ∈ ["", ".", ".."], ∀ c ∈ String.toList t, c = '.' := by simp
  refine ⟨hplain, ?_, ?_, ?_⟩ <;> rintro rfl <;> exact hdot (hall _ (by simp) c hc)

/-- **The key of a url that ends in `/` and a name.**  A url made of a part with no query or
fragment, a `/` and a segment name names the image `images/<name>`. -/
theorem imageKeyOfUrl_append_name {pre name : String} (hq : '?' ∉ pre.toList)
    (hf : '#' ∉ pre.toList) (hname : SegmentName name) :
    imageKeyOfUrl (pre ++ "/" ++ name) = some ("images/" ++ name) := by
  obtain ⟨hslash, hnq, hnf⟩ := hname.plain
  have hchars : (pre ++ "/" ++ name).toList = pre.toList ++ '/' :: name.toList := by
    simp [String.toList_append]
  have hpath : urlPath (pre ++ "/" ++ name).toList = pre.toList ++ '/' :: name.toList := by
    rw [hchars]
    exact urlPath_of_no_query (by simp [hq, hnq]) (by simp [hf, hnf])
  unfold imageKeyOfUrl
  rw [hpath, lastPathSegment_append_slash _ hslash, String.ofList_toList]
  simp [hname.notEmpty, hname.notDot, hname.notDotDot]

/-- A url that names an image names it by a segment name. -/
theorem imageKeyOfUrl_eq_some {url key : String} (h : imageKeyOfUrl url = some key) :
    ∃ name, key = "images/" ++ name ∧ SegmentName name := by
  unfold imageKeyOfUrl at h
  dsimp only at h
  split at h
  · cases h
  · next hdots =>
    simp only [Bool.or_eq_true, decide_eq_true_eq, not_or] at hdots
    obtain ⟨⟨hnil, hdot⟩, hdotdot⟩ := hdots
    refine ⟨_, (Option.some.inj h).symm, ⟨?_, hnil, hdot, hdotdot⟩⟩
    rw [String.toList_ofList]
    refine ⟨fun hmem => ?_, fun hmem => ?_, fun hmem => ?_⟩
    · exact (mem_lastPathSegment hmem).2 rfl
    · exact (mem_urlPath (mem_lastPathSegment hmem).1).1 rfl
    · exact (mem_urlPath (mem_lastPathSegment hmem).1).2 rfl

/-! ## Image keys -/

/-- The key `images/<name>` of a path name reads as the two names. -/
theorem segments_images {name : String} (hname : PathName name) :
    segments ("images/" ++ name) = [.name "images", .name name] := by
  obtain ⟨hnil, hdot, hdotdot⟩ := hname.toList_ne
  have hchars : ("images/" ++ name).toList = "images".toList ++ '/' :: name.toList := by
    simp [String.toList_append]
  have hsplit :
      Text.splitChars '/' ("images/" ++ name).toList = ["images".toList, name.toList] := by
    rw [hchars, Text.splitChars_append_sep (by decide), Text.splitChars_of_not_mem hname.noSlash]
  unfold segments
  rw [hsplit]
  simp [Segment.ofPart, hnil, hdot, hdotdot]

/-- **The path of an image key.**  The key `images/<name>` of a path name lies at the path
`images`, `<name>`. -/
theorem keyPath_images {name : String} (hname : PathName name) :
    keyPath ("images/" ++ name) = ["images", name] := by
  rw [keyPath, segments_images hname]
  rfl

/-- The key `images/<name>` of a path name is safe. -/
theorem isSafeKey_images {name : String} (hname : PathName name) :
    isSafeKey ("images/" ++ name) = true := by
  have hne : "images/" ++ name ≠ "" := fun h => by simpa using congrArg String.length h
  simp [isSafeKey, segments_images hname, Segment.isName, hne]

/-- An image key resolves below every root. -/
theorem resolve_images_eq_ok {name : String} (hname : PathName name) (root : String) :
    resolve root ("images/" ++ name) = .ok (joinPath root ("images/" ++ name)) := by
  rw [resolve, if_pos (isSafeKey_images hname)]

/-! ## The url of an uploaded image -/

/-- What `trimSlashes` keeps is part of the text. -/
theorem mem_trimSlashes {b : String} {c : Char} (h : c ∈ (trimSlashes b).toList) :
    c ∈ b.toList := by
  unfold trimSlashes at h
  rw [String.toList_ofList] at h
  exact List.mem_reverse.1 (List.dropWhile_subset _ (List.mem_reverse.1 h))

/-- A bucket made with a url with no query or fragment serves its objects under a prefix with
none. -/
theorem Store.urlPrefix_plain {st : Store} {b : String} (hq : '?' ∉ b.toList)
    (hf : '#' ∉ b.toList) (hbase : st.base = trimSlashes b) :
    '?' ∉ st.urlPrefix.toList ∧ '#' ∉ st.urlPrefix.toList := by
  have hq' : '?' ∉ st.base.toList := fun hm => hq (mem_trimSlashes (hbase ▸ hm))
  have hf' : '#' ∉ st.base.toList := fun hm => hf (mem_trimSlashes (hbase ▸ hm))
  cases st with
  | memory m =>
    simp only [Store.base] at hq' hf'
    simp [Store.urlPrefix, String.toList_append, hq', hf']
  | disk d =>
    simp only [Store.base] at hq' hf'
    simp [Store.urlPrefix, String.toList_append, hq', hf']

/-- The name an upload stores a file under, a plain id, a dot and a safe name, is a segment
name. -/
theorem SegmentName.of_sanitize {u raw n : String} (hu : UrlPlain u.toList)
    (hn : Media.sanitize raw = .ok n) : SegmentName (u ++ "." ++ n) := by
  obtain ⟨hchars, c, hc, hdot⟩ := Media.sanitize_ok hn
  have hplain : ∀ d ∈ n.toList, d ≠ '/' ∧ d ≠ '?' ∧ d ≠ '#' :=
    fun d hd => Media.isNameChar_plain (hchars d hd)
  obtain ⟨hs, hq, hf⟩ := hu
  refine SegmentName.of_nonDot ⟨?_, ?_, ?_⟩ ⟨c, by simp [String.toList_append, hc], hdot⟩ <;>
    simp only [String.toList_append, List.mem_append, not_or] <;>
    refine ⟨⟨by assumption, by decide⟩, fun hm => ?_⟩
  · exact (hplain _ hm).1 rfl
  · exact (hplain _ hm).2.1 rfl
  · exact (hplain _ hm).2.2 rfl

/-- **The url of an uploaded image names its key.**  When a bucket made with a url `b` that has
no `?` or `#` stores `images/<u>.<n>`, for a plain `u` and a name `n` that `sanitize` gives, the
url it answers names that key. -/
theorem imageKeyOfUrl_upload {st st' : Store} {b u n raw ct url : String} {body : ByteArray}
    (hq : '?' ∉ b.toList) (hf : '#' ∉ b.toList) (hbase : st.base = trimSlashes b)
    (hu : UrlPlain u.toList) (hn : Media.sanitize raw = .ok n)
    (hup : st.upload ("images/" ++ u ++ "." ++ n) ct body = (st', .ok url)) :
    imageKeyOfUrl url = some ("images/" ++ u ++ "." ++ n) := by
  obtain ⟨hpq, hpf⟩ := Store.urlPrefix_plain hq hf hbase
  -- the url is the prefix, `images`, a `/` and the name
  have hurl : url = st.urlPrefix ++ "images" ++ "/" ++ (u ++ "." ++ n) := by
    have hdir : ("images/" : String) = "images" ++ "/" := by decide
    rw [(Store.upload_ok hup).1, hdir]
    simp only [String.append_assoc]
  rw [hurl, imageKeyOfUrl_append_name ?_ ?_ (SegmentName.of_sanitize hu hn)]
  · simp only [String.append_assoc]
  · simpa [String.toList_append] using hpq
  · simpa [String.toList_append] using hpf

end Storefront.Bucket

namespace Storefront.Shop

open Storefront.Bucket

/-! ## Numbered ids in keys -/

/-- A numbered id has no `/`, `?`, `#` or `.`. -/
theorem idNumbered_plain (n : Nat) :
    UrlPlain (idNumbered n).toList ∧ '.' ∉ (idNumbered n).toList := by
  have hdigits : ∀ d : Fin 16, Nat.digitChar d ≠ '/' ∧ Nat.digitChar d ≠ '?' ∧
      Nat.digitChar d ≠ '#' ∧ Nat.digitChar d ≠ '.' := by
    decide
  have hchar : ∀ c ∈ (idNumbered n).toList, c ≠ '/' ∧ c ≠ '?' ∧ c ≠ '#' ∧ c ≠ '.' := by
    intro c hc
    rcases idNumbered_char hc with rfl | ⟨d, hd, rfl⟩
    · decide
    · exact hdigits ⟨d, hd⟩
  exact ⟨⟨fun h => (hchar _ h).1 rfl, fun h => (hchar _ h).2.1 rfl, fun h => (hchar _ h).2.2.1 rfl⟩,
    fun h => (hchar _ h).2.2.2 rfl⟩

/-- Image keys of numbered ids are told apart by their ids: the id ends at the first dot. -/
theorem imageKey_id_injective {j j' : Nat} {x y : String}
    (h : "images/" ++ idNumbered j ++ "." ++ x = "images/" ++ idNumbered j' ++ "." ++ y) :
    j = j' := by
  have hlists := congrArg String.toList h
  simp only [String.toList_append, List.append_assoc] at hlists
  have hrest := List.append_cancel_left hlists
  have hdot : ".".toList = ['.'] := by decide
  rw [hdot, List.singleton_append, List.singleton_append] at hrest
  have hids : (idNumbered j).toList = (idNumbered j').toList := by
    rw [← takeWhile_ne_append (idNumbered_plain j).2, hrest,
      takeWhile_ne_append (idNumbered_plain j').2]
  exact idNumbered_injective (String.toList_inj.1 hids)

/-! ## One upload after another -/

/-- Removing a product's previous image is removing the object its url names. -/
theorem PreviousRemoved.removed {b b' : Bucket.Store} {image : String}
    (h : PreviousRemoved b image b') : Removed b (imageKeyOfUrl image) b' := by
  rcases h with ⟨hnone, rfl⟩ | ⟨old, hsome, hdel⟩
  · rw [hnone]
    rfl
  · rw [hsome]
    exact hdel

/-- Recording a file points its product at the file's url. -/
theorem Tables.productById_attachFile {t t' : Tables} {f : Media.FileRecord} {p : Catalog.Product}
    (hatt : t.attachFile f = some t') (hp : t.productById f.productId = some p) :
    t'.productById f.productId = some { p with image := f.url } := by
  obtain ⟨-, rfl⟩ := Tables.attachFile_eq_some.1 hatt
  -- pointing the product at the url keeps every id, and the product found has the id
  have hkeep : ∀ q : Catalog.Product,
      (if q.id == f.productId then { q with image := f.url } else q).id = q.id := by
    intro q
    split <;> rfl
  have hid : p.id = f.productId := by simpa using List.find?_some hp
  show (t.products.map fun q => if q.id == f.productId then { q with image := f.url } else q).find?
    (fun x => x.id == f.productId) = _
  rw [find?_map_keyed Catalog.Product.id hkeep, show t.products.find? _ = some p from hp]
  simp [hid]

/-- **A successful upload**, read off `UploadRun`: the form names a product that exists, the
bucket stored the file under the upload's key and answered the url, the object the product's
image named was removed, the product now shows the url, and one more id was handed out. -/
theorem uploadImage_ok {form : UploadForm} {s s' : State} {url : String}
    (h : (uploadImage form).run.run s = (.ok url, s')) :
    ∃ productId data contentType name b p,
      form.Accepted productId data contentType name ∧
      s.bucket.upload (uploadKey s name) contentType data = (b, .ok url) ∧
      s.tables.productById productId = some p ∧ Removed b (imageKeyOfUrl p.image) s'.bucket ∧
      s'.tables.productById productId = some { p with image := url } ∧
      s'.issued = s.issued + 1 := by
  cases UploadRun.of_run h with
  | @stored productId data contentType name b _ p b' t hacc _ _ hup hp hprev hatt =>
    exact ⟨productId, data, contentType, name, b, p, hacc, hup, hp, hprev.removed,
      Tables.productById_attachFile hatt hp, rfl⟩

/-- The object the image url of a product names, if the product exists and its url names one. -/
def productImage (s : State) (productId : String) : Option String :=
  (s.tables.productById productId).bind fun p => imageKeyOfUrl p.image

/-- A key names no image of an id above `n`, which the shop has not handed out yet. -/
def NamesIssued (n : Nat) (old : Option String) : Prop :=
  ∀ j name, old = some ("images/" ++ idNumbered j ++ "." ++ name) → j ≤ n

/-- The keys of successive uploads once `n` ids are handed out: each is `images/<id>.<name>`,
for a later id each time, and a segment name. -/
def FreshKeys : Nat → List String → Prop
  | _, [] => True
  | n, k :: ks => ∃ j name, n < j ∧ k = "images/" ++ idNumbered j ++ "." ++ name ∧
      SegmentName (idNumbered j ++ "." ++ name) ∧ FreshKeys j ks

namespace FreshKeys

/-- Every fresh key is the image key of an id above `n`. -/
theorem mem {n : Nat} {keys : List String} (h : FreshKeys n keys) {k : String} (hk : k ∈ keys) :
    ∃ j name, n < j ∧ k = "images/" ++ idNumbered j ++ "." ++ name ∧
      SegmentName (idNumbered j ++ "." ++ name) := by
  induction keys generalizing n with
  | nil => cases hk
  | cons k' ks ih =>
    obtain ⟨j, name, hlt, rfl, hseg, hrest⟩ := h
    rcases List.mem_cons.1 hk with rfl | hks
    · exact ⟨j, name, hlt, rfl, hseg⟩
    · obtain ⟨j', name', hlt', hk', hseg'⟩ := ih hrest hks
      exact ⟨j', name', by omega, hk', hseg'⟩

/-- Fresh keys are distinct, and none is a key the shop had issued. -/
theorem nodup {n : Nat} {old : Option String} {keys : List String} (hold : NamesIssued n old)
    (h : FreshKeys n keys) : (old.toList ++ keys).Nodup := by
  induction keys generalizing n old with
  | nil => cases old <;> simp
  | cons k ks ih =>
    obtain ⟨j, name, hlt, rfl, -, hrest⟩ := h
    -- the head is issued once the tail starts, and each key of the tail has a later id
    have htail := @ih _ (some ("images/" ++ idNumbered j ++ "." ++ name))
      (fun j' name' hj' => (imageKey_id_injective (Option.some.inj hj').symm).le) hrest
    refine List.nodup_append.2 ⟨by cases old <;> simp, by simpa using htail, ?_⟩
    intro o ho k hk hok
    subst hok
    have hissued : ∀ j' name', o = "images/" ++ idNumbered j' ++ "." ++ name' → j' ≤ n :=
      fun j' name' he => hold j' name' (by cases old <;> simp_all)
    rcases List.mem_cons.1 hk with rfl | hks
    · exact absurd (hissued j name rfl) (by omega)
    · obtain ⟨j', name', hlt', rfl, -⟩ := mem hrest hks
      exact absurd (hissued j' name' rfl) (by omega)

end FreshKeys

/-- The keys of image keys at one path are one key. -/
theorem imageKey_eq_of_keyPath {c c' : String} (hc : SegmentName c) (hc' : SegmentName c')
    (h : keyPath ("images/" ++ c) = keyPath ("images/" ++ c')) :
    "images/" ++ c = "images/" ++ c' := by
  rw [keyPath_images hc.pathName, keyPath_images hc'.pathName] at h
  simp only [List.cons.injEq, true_and] at h
  rw [h.1]

/-- Distinct image keys, the first object's and the fresh ones, lie at distinct paths. -/
theorem FreshKeys.nodup_paths {n : Nat} {old : Option String} {keys : List String}
    (hold : NamesIssued n old) (hname : ∀ o ∈ old, ∃ c, o = "images/" ++ c ∧ SegmentName c)
    (h : FreshKeys n keys) : ((old.toList ++ keys).map keyPath).Nodup := by
  -- every key is `images/` and a segment name, where the path tells the key
  have himage : ∀ k ∈ old.toList ++ keys, ∃ c, k = "images/" ++ c ∧ SegmentName c := by
    intro k hk
    rcases List.mem_append.1 hk with hk | hk
    · exact hname k (by simpa using hk)
    · obtain ⟨j, name, -, rfl, hseg⟩ := h.mem hk
      exact ⟨_, by simp only [String.append_assoc], hseg⟩
  refine List.Nodup.map_on (fun k hk k' hk' hpath => ?_) (h.nodup hold)
  obtain ⟨c, rfl, hc⟩ := himage k hk
  obtain ⟨c', rfl, hc'⟩ := himage k' hk'
  exact imageKey_eq_of_keyPath hc hc' hpath

/-- **Successive uploads for one product replace its image.**  From a shop whose bucket was made
with a url with no `?` or `#`, a run of uploads for one product that all succeed stored fresh
keys, one per url, each named by its url; and the bucket went through the replacements, each
storing its object and removing the one before it, starting with the object the product's
image named. -/
theorem uploads_replaced {b productId : String} (hq : '?' ∉ b.toList) (hf : '#' ∉ b.toList) :
    ∀ (forms : List UploadForm) (s : State) (urls : List String),
      s.bucket.base = trimSlashes b → (∀ f ∈ forms, f.productId = some productId) →
      ((forms.mapM uploadImage).run.run s).1 = .ok urls →
      ∃ keys, urls.map imageKeyOfUrl = keys.map some ∧ FreshKeys s.issued keys ∧
        Replaced s.bucket (productImage s productId) keys
          ((forms.mapM uploadImage).run.run s).2.bucket := by
  intro forms
  -- induction on the uploads; the bucket keeps the url it was made with
  induction forms with
  | nil =>
    intro s urls _ _ hrun
    cases hrun
    exact ⟨[], rfl, trivial, .nil⟩
  | cons form forms ih =>
    intro s urls hbase hforms hrun
    rw [run_mapM_cons] at hrun ⊢
    rcases hfirst : (uploadImage form).run.run s with ⟨_ | url, s₁⟩
    · rw [hfirst] at hrun
      cases hrun
    rw [hfirst] at hrun
    dsimp only at hrun ⊢
    rcases hnext : (forms.mapM uploadImage).run.run s₁ with ⟨_ | urls', s₂⟩
    · rw [hnext] at hrun
      cases hrun
    rw [hnext] at hrun
    cases hrun
    dsimp only
    obtain ⟨pid, data, contentType, name, b₁, p, hacc, hup, hp, hrem, hp₁, hissued⟩ :=
      uploadImage_ok hfirst
    -- the form names the product of the run
    obtain rfl : pid = productId := by
      have hpid := (Option.filter_eq_some_iff.1 hacc.givesProduct).1
      rw [hforms form List.mem_cons_self] at hpid
      exact (Option.some.inj hpid).symm
    have hkey : imageKeyOfUrl url = some (uploadKey s name) :=
      imageKeyOfUrl_upload hq hf hbase (idNumbered_plain _).1 hacc.named hup
    have hbase₁ : s₁.bucket.base = trimSlashes b := by
      rw [hrem.base, (Store.upload_ok hup).2.1, hbase]
    have himage₁ : productImage s₁ pid = some (uploadKey s name) := by
      simp only [productImage, hp₁, Option.bind_some, hkey]
    obtain ⟨keys, hurls, hfresh, hreplaced⟩ := ih s₁ urls' hbase₁
      (fun f hf => hforms f (List.mem_cons_of_mem _ hf)) (by rw [hnext])
    rw [hnext] at hreplaced
    refine ⟨uploadKey s name :: keys, by simp [hkey, hurls], ?_, ?_⟩
    · exact ⟨s.issued + 1, name, by omega, rfl,
        SegmentName.of_sanitize (idNumbered_plain _).1 hacc.named, hissued ▸ hfresh⟩
    · have himage : productImage s pid = imageKeyOfUrl p.image := by
        simp only [productImage, hp, Option.bind_some]
      rw [himage]
      exact .cons hup hrem (himage₁ ▸ hreplaced)

/-- **The url of an uploaded image names its key, and uploads for one product keep one
object.**  For a bucket made with a url `b` that has no `?` or `#`, the url it answers for
`images/<u>.<n>`, with `u` free of `/`, `?` and `#` and `n` a name that `sanitize` gives, names
that key.  So, from a shop whose bucket was made so and whose product's image names no object of
an id not yet handed out, a run of uploads for that product that all succeed stored one fresh
key per url, named by the url; each upload stored its object and removed the one before it; and
the bucket holds the last object and none of the others, the product's first image included. -/
theorem uploaded_image_urls_name_their_keys :
    (∀ (st st' : Store) (b u n raw contentType url : String) (body : ByteArray),
      '?' ∉ b.toList → '#' ∉ b.toList → st.base = trimSlashes b → UrlPlain u.toList →
      Media.sanitize raw = .ok n →
      st.upload ("images/" ++ u ++ "." ++ n) contentType body = (st', .ok url) →
      imageKeyOfUrl url = some ("images/" ++ u ++ "." ++ n)) ∧
    (∀ (s : State) (b productId : String) (forms : List UploadForm) (urls : List String),
      '?' ∉ b.toList → '#' ∉ b.toList → s.bucket.base = trimSlashes b →
      (∀ f ∈ forms, f.productId = some productId) →
      NamesIssued s.issued (productImage s productId) →
      ((forms.mapM uploadImage).run.run s).1 = .ok urls →
      ∃ keys, urls.map imageKeyOfUrl = keys.map some ∧ FreshKeys s.issued keys ∧
        Replaced s.bucket (productImage s productId) keys
          ((forms.mapM uploadImage).run.run s).2.bucket ∧
        (∀ k ∈ keys.getLast?, ((forms.mapM uploadImage).run.run s).2.bucket.holds k) ∧
        ∀ k ∈ ((productImage s productId).toList ++ keys).dropLast,
          ¬((forms.mapM uploadImage).run.run s).2.bucket.holds k) := by
  refine ⟨fun st st' b u n raw contentType url body hq hf hbase hu hn hup =>
    imageKeyOfUrl_upload hq hf hbase hu hn hup, ?_⟩
  intro s b productId forms urls hq hf hbase hforms hissued hrun
  obtain ⟨keys, hurls, hfresh, hreplaced⟩ := uploads_replaced hq hf forms s urls hbase hforms hrun
  -- the product's first image is an image key too, so all the keys lie at distinct paths
  have hfirst : ∀ o ∈ productImage s productId, ∃ c, o = "images/" ++ c ∧ SegmentName c := by
    intro o ho
    obtain ⟨p, -, hp⟩ := Option.bind_eq_some_iff.1 ho
    exact imageKeyOfUrl_eq_some hp
  have hpaths := hfresh.nodup_paths hissued hfirst
  exact ⟨keys, hurls, hfresh, hreplaced, hreplaced.holds_getLast hpaths,
    hreplaced.not_holds_dropLast hpaths⟩

/-- An answer read as an option is the answer. -/
theorem Except.eq_ok_of_toOption {ε α : Type} {x : Except ε α} {a : α} (h : x.toOption = some a) :
    x = .ok a := by
  cases x with
  | error e => cases h
  | ok v =>
    cases h
    rfl

/-- A bucket in memory made with `https://host/` names its upload by its key; and two uploads of
a picture for a product with no image yet leave only the second object in it. -/
theorem uploaded_image_urls_name_their_keys_in_memory :
    let key := "images/" ++ idNumbered 1 ++ "." ++ "cat.png"
    let s : State :=
      { tables := { products := [⟨"p1", "Cat", "", 1, 0, 0, "", "", "", "", instantAt 0⟩] }
        bucket := .memory (Memory.empty "https://host/")
        settings := ⟨"secret", "pepper", 3600, 30000⟩ }
    let form : UploadForm :=
      { productId := some "p1", fileName := some "cat.png", data := some ⟨#[0x89, 0x50, 0x4E, 0x47]⟩ }
    let urls := ["https://host/images/7c9e6679-7425-40de-944b-000000000001.cat.png",
      "https://host/images/7c9e6679-7425-40de-944b-000000000002.cat.png"]
    imageKeyOfUrl ("https://host" ++ "/" ++ key) = some key ∧
      ∃ keys, urls.map imageKeyOfUrl = keys.map some ∧ FreshKeys s.issued keys ∧
        Replaced s.bucket (productImage s "p1") keys
          (([form, form].mapM uploadImage).run.run s).2.bucket ∧
        (∀ k ∈ keys.getLast?, (([form, form].mapM uploadImage).run.run s).2.bucket.holds k) ∧
        ∀ k ∈ ((productImage s "p1").toList ++ keys).dropLast,
          ¬(([form, form].mapM uploadImage).run.run s).2.bucket.holds k := by
  intro key s form urls
  have hup : (Store.memory (Memory.empty "https://host/")).upload key "image/png" ByteArray.empty =
      (Store.memory ⟨"https://host", [(key, ByteArray.empty)], [.upload key "image/png" 0], false,
          false, none⟩, .ok ("https://host" ++ "/" ++ key)) := rfl
  have hrun : (([form, form].mapM uploadImage).run.run s).1 = .ok urls :=
    Except.eq_ok_of_toOption (by decide +kernel)
  have hnone : productImage s "p1" = none := by decide +kernel
  refine ⟨uploaded_image_urls_name_their_keys.1 _ _ "https://host/" _ _ "cat.png" _ _ _
      (by decide) (by decide) rfl (idNumbered_plain 1).1 rfl hup,
    uploaded_image_urls_name_their_keys.2 s "https://host/" "p1" [form, form] urls
      (by decide) (by decide) rfl (by simp [form]) ?_ hrun⟩
  intro j name h
  rw [hnone] at h
  cases h

end Storefront.Shop
