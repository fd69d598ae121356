import Storefront.Proofs.ServedObjects

/-
  Keys that stay inside the bucket.

  A disk bucket turns an object key into a file below its root with `resolve`, which refuses a
  key unless every segment it reads as is a plain name.  `PlainKey` says the same on the key's
  text: it is not empty, it does not start with `/`, its first part between slashes is not `.`
  and none of its parts is `..`.  Empty parts and inner `.` parts are skipped when a path is
  read, so they are allowed.

  Main statement (`resolve_stays_below_root`): for every root and every key, `resolve` answers
  a file exactly for a plain key, and then the file is the root joined with the key; the key
  reads as at least one name and nothing else, and the file's segments are the root's followed
  by those names.  So the calls of a disk bucket touch nothing outside the root: storing and
  removing change the file at the key's path and no other, a key that is not plain changes
  nothing and is refused, and the route that serves objects answers a key that is not plain
  with "not found" before it looks at the bucket, and any other key by what lies at its path.
-/

namespace Storefront.Text

/-- A separator between two texts splits them apart: the parts of the first, then those of the
second. -/
theorem splitChars_append_cons (sep : Char) (l r : List Char) :
    splitChars sep (l ++ sep :: r) = splitChars sep l ++ splitChars sep r := by
  induction l with
  | nil =>
    obtain ⟨p, ps, hsplit⟩ := List.exists_cons_of_ne_nil (splitChars_ne_nil sep r)
    simp [splitChars, hsplit]
  | cons c l ih =>
    obtain ⟨p, ps, hsplit⟩ := List.exists_cons_of_ne_nil (splitChars_ne_nil sep l)
    simp only [List.cons_append, splitChars, ih, hsplit]
    split <;> simp

/-- The first part of a text is empty exactly when the text is empty or starts with the
separator. -/
theorem splitChars_head_eq_nil (sep : Char) (l : List Char) :
    (splitChars sep l).head? = some [] ↔ l = [] ∨ l.head? = some sep := by
  cases l with
  | nil => simp [splitChars]
  | cons c rest =>
    obtain ⟨p, ps, hsplit⟩ := List.exists_cons_of_ne_nil (splitChars_ne_nil sep rest)
    rw [splitChars, hsplit]
    by_cases hc : c = sep <;> simp [hc]

end Storefront.Text

namespace Storefront.Bucket

open Storefront.Shop Storefront.Http

/-! ## Segments, read part by part -/

/-- The segments the inner parts of a path read as: empty and `.` parts are skipped. -/
def innerSegments (parts : List (List Char)) : List Segment :=
  parts.filterMap fun p => if p = [] || p = ['.'] then none else some (Segment.ofPart p)

/-- The segments the first part of a path reads as: the root when it is empty and more parts
follow, nothing when it is empty and alone, else the segment it names. -/
def headSegments (first : List Char) (alone : Bool) : List Segment :=
  if first = [] then (if alone then [] else [.root]) else [Segment.ofPart first]

/-- The segments a path reads as, from its parts between slashes. -/
def partSegments : List (List Char) → List Segment
  | [] => []
  | first :: rest => headSegments first rest.isEmpty ++ innerSegments rest

theorem segments_eq_partSegments (path : String) :
    segments path = partSegments (Text.splitChars '/' path.toList) := by
  unfold segments partSegments headSegments innerSegments
  cases Text.splitChars '/' path.toList <;> rfl

/-- A part reads as a plain name unless it is `.` or `..`. -/
theorem Segment.ofPart_isName (p : List Char) :
    (Segment.ofPart p).isName = true ↔ p ≠ ['.'] ∧ p ≠ ['.', '.'] := by
  unfold Segment.ofPart
  by_cases h1 : p = ['.']
  · simp [h1, Segment.isName]
  · by_cases h2 : p = ['.', '.'] <;> simp [h1, h2, Segment.isName]

theorem innerSegments_append (ps qs : List (List Char)) :
    innerSegments (ps ++ qs) = innerSegments ps ++ innerSegments qs :=
  List.filterMap_append

/-- An inner part that is neither empty nor `.` reads as one segment. -/
theorem innerSegments_cons {p : List Char} (hp : p ≠ []) (hdot : p ≠ ['.'])
    (ps : List (List Char)) : innerSegments (p :: ps) = Segment.ofPart p :: innerSegments ps := by
  simp [innerSegments, hp, hdot]

/-- The inner parts read as plain names exactly when none of them is `..`. -/
theorem innerSegments_all_isName (ps : List (List Char)) :
    (innerSegments ps).all Segment.isName = true ↔ ∀ p ∈ ps, p ≠ ['.', '.'] := by
  induction ps with
  | nil => simp [innerSegments]
  | cons p ps ih =>
    by_cases hskip : p = [] ∨ p = ['.']
    · -- a skipped part is not `..`
      have hskipped : innerSegments (p :: ps) = innerSegments ps := by
        rcases hskip with rfl | rfl <;> simp [innerSegments]
      rw [hskipped, ih, List.forall_mem_cons]
      rcases hskip with rfl | rfl <;> simp
    · rw [not_or] at hskip
      rw [innerSegments_cons hskip.1 hskip.2, List.all_cons, Bool.and_eq_true, ih,
        Segment.ofPart_isName, List.forall_mem_cons]
      exact ⟨fun h => ⟨h.1.2, h.2⟩, fun h => ⟨⟨hskip.2, h.1⟩, h.2⟩⟩

/-- A path that is not empty reads the same with a `/` after it. -/
theorem partSegments_append_empty {parts : List (List Char)} (h : parts ≠ [[]]) (hne : parts ≠ []) :
    partSegments (parts ++ [[]]) = partSegments parts := by
  obtain ⟨first, rest, rfl⟩ := List.exists_cons_of_ne_nil hne
  -- the empty part is skipped, and the first part reads the same unless it stood alone empty
  have hhead : headSegments first false = headSegments first rest.isEmpty := by
    by_cases hfirst : first = []
    · subst hfirst
      cases rest with
      | nil => exact absurd rfl h
      | cons r rs => rfl
    · simp [headSegments, hfirst]
  have hmore : (rest ++ [[]]).isEmpty = false := by simp
  simp only [List.cons_append, partSegments, hmore, hhead, innerSegments_append]
  simp [innerSegments]

/-! ## Plain keys -/

/-- A key every segment of which is a plain name, said on its text: it is not empty, does not
start at the root, its first part between slashes is not `.`, and none of its parts is `..`. -/
structure PlainKey (key : String) : Prop where
  nonempty : key ≠ ""
  relative : key.toList.head? ≠ some '/'
  notCurrent : (Text.splitChars '/' key.toList).head? ≠ some ['.']
  noParent : ['.', '.'] ∉ Text.splitChars '/' key.toList

/-- **A key is safe exactly when it is plain.** -/
theorem isSafeKey_iff (key : String) : isSafeKey key = true ↔ PlainKey key := by
  obtain ⟨first, rest, hsplit⟩ := List.exists_cons_of_ne_nil (Text.splitChars_ne_nil '/' key.toList)
  have hhead := Text.splitChars_head_eq_nil '/' key.toList
  rw [hsplit, List.head?_cons, Option.some.injEq] at hhead
  simp only [isSafeKey, Bool.and_eq_true, decide_eq_true_eq, segments_eq_partSegments, hsplit,
    partSegments, List.all_append, innerSegments_all_isName]
  constructor
  · rintro ⟨hne, hhead', hinner⟩
    have hkey : key.toList ≠ [] := fun h => hne (String.toList_eq_nil_iff.1 h)
    -- a key that is not empty and reads as names starts with a plain first part
    have hfirst : first ≠ [] := by
      rintro rfl
      cases rest with
      | nil => exact hkey (Text.splitChars_eq_single_nil hsplit)
      | cons r rs => simp [headSegments, Segment.isName] at hhead'
    simp only [headSegments, hfirst, if_false, List.all_cons, List.all_nil, Bool.and_true,
      Segment.ofPart_isName] at hhead'
    refine ⟨hne, fun hslash => hfirst (hhead.2 (.inr hslash)), ?_, ?_⟩
    · rw [hsplit]
      simpa using hhead'.1
    · rw [hsplit, List.mem_cons, not_or]
      exact ⟨fun h => hhead'.2 h.symm, fun h => hinner _ h rfl⟩
  · rintro ⟨hne, hrel, hcur, hpar⟩
    rw [hsplit] at hcur hpar
    have hkey : key.toList ≠ [] := fun h => hne (String.toList_eq_nil_iff.1 h)
    have hfirst : first ≠ [] := fun h => (hhead.1 h).elim hkey hrel
    simp only [List.head?_cons, ne_eq, Option.some.injEq] at hcur
    simp only [List.mem_cons, not_or] at hpar
    refine ⟨hne, ?_, fun p hp hpp => hpar.2 (hpp ▸ hp)⟩
    simp [headSegments, hfirst, Segment.ofPart_isName, hcur, Ne.symm hpar.1]

/-- The plain names of a plain key are the segments it reads as. -/
theorem PlainKey.segments_eq {key : String} (h : PlainKey key) :
    segments key = (keyPath key).map Segment.name := by
  have hall := ((isSafeKey_iff key).2 h)
  simp only [isSafeKey, Bool.and_eq_true, List.all_eq_true] at hall
  unfold keyPath
  -- every segment is a name, which the path keeps as it is
  have hnames : ∀ seg ∈ segments key, seg.isName = true := hall.2
  generalize segments key = segs at hnames ⊢
  induction segs with
  | nil => rfl
  | cons seg segs ih =>
    have hseg := hnames seg List.mem_cons_self
    have hrest := ih fun x hx => hnames x (List.mem_cons_of_mem _ hx)
    cases seg with
    | name n =>
      simp only [List.filterMap_cons, List.map_cons]
      exact congrArg _ hrest
    | _ => simp [Segment.isName] at hseg

/-- A plain key reads as its first part and its inner parts, all plain names. -/
theorem PlainKey.segments_eq_inner {key : String} (h : PlainKey key) :
    segments key = innerSegments (Text.splitChars '/' key.toList) := by
  obtain ⟨first, rest, hsplit⟩ := List.exists_cons_of_ne_nil (Text.splitChars_ne_nil '/' key.toList)
  have hkey : key.toList ≠ [] := fun he => h.nonempty (String.toList_eq_nil_iff.1 he)
  have hfirst : first ≠ [] := by
    intro he
    have hhead := (Text.splitChars_head_eq_nil '/' key.toList).1 (by rw [hsplit, he]; rfl)
    exact hhead.elim hkey h.relative
  have hdot : first ≠ ['.'] := fun he => h.notCurrent (by rw [hsplit, he]; rfl)
  rw [segments_eq_partSegments, hsplit, innerSegments_cons hfirst hdot]
  simp [partSegments, headSegments, hfirst]

/-- **Joining a plain key below a root.**  The joined path reads as the root's segments followed
by the key's. -/
theorem PlainKey.segments_joinPath {key : String} (h : PlainKey key) (root : String) :
    segments (joinPath root key) = segments root ++ segments key := by
  -- a text, a `/` and the key read as the text with its `/`, then the key's parts
  have hslash : ∀ a : List Char,
      partSegments (Text.splitChars '/' (a ++ '/' :: key.toList)) =
        partSegments (Text.splitChars '/' (a ++ ['/'])) ++ segments key := by
    intro a
    obtain ⟨fa, ra, ha⟩ := List.exists_cons_of_ne_nil (Text.splitChars_ne_nil '/' a)
    rw [Text.splitChars_append_cons, Text.splitChars_append_cons, ha, h.segments_eq_inner]
    -- the first part of the text is followed by more parts either way
    have hkeyParts : (ra ++ Text.splitChars '/' key.toList).isEmpty = false := by
      simp [Text.splitChars_ne_nil]
    have hslashParts : (ra ++ Text.splitChars '/' []).isEmpty = false := by
      simp [Text.splitChars_ne_nil]
    simp only [List.cons_append, partSegments, hkeyParts, hslashParts, innerSegments_append,
      List.append_assoc]
    simp [innerSegments, Text.splitChars]
  unfold joinPath
  by_cases hend : root.toList.getLast? = some '/'
  · -- the root ends with `/`: nothing is put between
    obtain ⟨a, ha⟩ : ∃ a, root.toList = a ++ ['/'] :=
      ⟨root.toList.dropLast, (List.dropLast_append_getLast? _ hend).symm⟩
    rw [if_pos (by simp [hend]), segments_eq_partSegments, segments_eq_partSegments root,
      String.toList_append, ha, List.append_assoc, List.singleton_append, hslash]
  by_cases hempty : root = ""
  · subst hempty
    rw [if_pos (by simp), String.empty_append, show segments "" = [] from rfl, List.nil_append]
  -- otherwise a `/` is put between, which the root reads the same with
  have hroot : Text.splitChars '/' root.toList ≠ [[]] := fun he =>
    hempty (String.toList_eq_nil_iff.1 (Storefront.Bucket.Text.splitChars_eq_single_nil he))
  rw [if_neg (by simp [hend, hempty]), segments_eq_partSegments, String.toList_append,
    String.toList_append, List.append_assoc, show "/".toList = ['/'] from rfl,
    List.singleton_append, hslash, Text.splitChars_append_cons,
    show Text.splitChars '/' [] = [[]] from rfl,
    partSegments_append_empty hroot (Text.splitChars_ne_nil '/' _), ← segments_eq_partSegments]

/-! ## What the calls of a disk bucket touch -/

namespace Disk

variable {d : Disk} {key : String} {q : List String}

/-- What is read at a path depends on the files only. -/
theorem read_of_files {d' : Disk} (h : d'.files = d.files) (q : List String) :
    d'.read q = d.read q := by
  simp [read, h]

/-- A key that is not safe is refused by a store, which changes nothing. -/
theorem upload_of_not_safe (h : isSafeKey key = false) (body : ByteArray) :
    d.upload key body = (d, .error (.invalidKey key)) := by
  simp [upload, resolve, h]

/-- A key that is not safe is refused by a removal, which changes nothing. -/
theorem delete_of_not_safe (h : isSafeKey key = false) : d.delete key = (d, .error (.invalidKey key)) := by
  simp [delete, resolve, h]

/-- **A store changes no file but the one at the key's path**, whether it goes through or not:
the folders it makes hold no files. -/
theorem read_upload_other (hq : q ≠ keyPath key) (body : ByteArray) :
    (d.upload key body).1.read q = d.read q := by
  have hfiles := (makeFolders_keeps d (keyPath key)).1
  unfold upload
  split
  · rfl
  · dsimp only
    rcases hmake : d.makeFolders (keyPath key) with ⟨d₁, _ | ⟨⟩⟩
    · rw [hmake] at hfiles
      exact read_of_files hfiles q
    · rw [hmake] at hfiles
      dsimp only
      split
      · exact read_of_files hfiles q
      · split
        · exact read_of_files hfiles q
        · exact read_of_files hfiles q
        · exact read_of_files hfiles q
        · rw [read_replace rfl, if_neg hq]
          exact read_of_files hfiles q

/-- **A removal changes no file but the one at the key's path.** -/
theorem read_delete_other (hq : q ≠ keyPath key) : (d.delete key).1.read q = d.read q := by
  unfold delete
  split
  · rfl
  · dsimp only
    split
    · rfl
    · split
      · rw [read_remove rfl, if_neg hq]
      · rfl
      · rfl
      · rfl
      · rfl

end Disk

/-- **Keys stay inside the bucket.**  For every root and every key: `resolve` answers a file
exactly for a plain key (not empty, not starting with `/`, its first part between slashes not
`.`, no part `..`), and the file is the root joined with the key.  A plain key reads as at least
one segment, all of them the plain names of its path, and the joined file reads as the root's
segments followed by those names.  A store or a removal on a disk bucket changes no file but
the one at the key's path; a key that is not plain is refused by both, which change nothing, and
the route that serves objects answers it "not found" and leaves the shop as it was; a plain key
is served, on a disk bucket, by the file it resolves to below the bucket's root: the system's
refusal of that path (a NUL byte in it, or too many bytes) first, then what lies at its path;
and the shop is left as it was. -/
theorem resolve_stays_below_root (root key p : String) :
    (resolve root key = .ok p ↔ PlainKey key ∧ p = joinPath root key) ∧
    (PlainKey key → keyPath key ≠ [] ∧ segments key = (keyPath key).map Segment.name ∧
      segments (joinPath root key) = segments root ++ (keyPath key).map Segment.name) ∧
    (∀ (d : Disk) (body : ByteArray) (q : List String), q ≠ keyPath key →
      (d.upload key body).1.read q = d.read q ∧ (d.delete key).1.read q = d.read q) ∧
    (¬PlainKey key → ∀ (d : Disk) (body : ByteArray) (s : State),
      d.upload key body = (d, .error (.invalidKey key)) ∧
      d.delete key = (d, .error (.invalidKey key)) ∧
      (answering (serveObject key)).run.run s =
        (.ok (Response.ofError (.notFound s!"object {key} not found")), s)) ∧
    (PlainKey key → ∀ (s : State) (d : Disk), s.bucket = .disk d →
      resolve d.root key = .ok (joinPath d.root key) ∧
      ∃ kind, (answering (serveObject key)).run.run s =
        (.ok (match pathFault (joinPath d.root key), d.node (keyPath key) with
          | some text, _ => Response.ofError (Error.ofIo text)
          | none, .file data =>
            if asksForFolder key then Response.ofError (Error.ofIo notAFolder)
            else ⟨200, some kind, some "inline", .bytes data⟩
          | none, .folder => ⟨200, some kind, some "inline", .failing⟩
          | none, .blocked => Response.ofError (Error.ofIo notAFolder)
          | none, .overlong => Response.ofError (Error.ofIo nameTooLong)
          | none, .missing => Response.ofError (.notFound s!"object {key} not found")), s)) := by
  have hsafe := isSafeKey_iff key
  have hnotSafe : ¬PlainKey key → isSafeKey key = false := fun h =>
    Bool.eq_false_iff.2 (mt hsafe.1 h)
  refine ⟨?_, fun h => ⟨keyPath_ne_nil (hsafe.2 h), h.segments_eq, ?_⟩,
    fun d body q hq => ⟨Disk.read_upload_other hq body, Disk.read_delete_other hq⟩,
    fun h d body s => ⟨Disk.upload_of_not_safe (hnotSafe h) body, Disk.delete_of_not_safe (hnotSafe h),
      run_serveObject_of_not_safe (hnotSafe h) s⟩,
    fun h s d hd => ⟨by rw [resolve, if_pos (hsafe.2 h)], run_serveObject_disk (hsafe.2 h) hd⟩⟩
  · -- `resolve` refuses exactly the keys that are not safe
    unfold resolve
    by_cases hk : isSafeKey key = true
    · simp only [hk, if_true, Except.ok.injEq, hsafe.1 hk, true_and]
      exact eq_comm
    · simp only [hk, Bool.false_eq_true, if_false, reduceCtorEq, false_iff, not_and]
      exact fun h => absurd (hsafe.2 h) hk
  · rw [h.segments_joinPath, h.segments_eq]

/-- The nested key of the bucket's tests is plain: it resolves below `/srv/bucket` to the file
the two are joined to, which reads as the root's segments and the key's two names. -/
theorem resolve_stays_below_root_nested :
    PlainKey "images/abc.png" ∧
      resolve "/srv/bucket" "images/abc.png" = .ok "/srv/bucket/images/abc.png" ∧
      segments "/srv/bucket/images/abc.png" =
        segments "/srv/bucket" ++ [.name "images", .name "abc.png"] := by
  have hplain : PlainKey "images/abc.png" := ⟨by decide, by decide, by decide, by decide⟩
  obtain ⟨hiff, hpath, -⟩ :=
    resolve_stays_below_root "/srv/bucket" "images/abc.png" "/srv/bucket/images/abc.png"
  obtain ⟨-, -, hjoin⟩ := hpath hplain
  have hjoined : joinPath "/srv/bucket" "images/abc.png" = "/srv/bucket/images/abc.png" := by
    decide
  have hnames : keyPath "images/abc.png" = ["images", "abc.png"] := by decide
  rw [hjoined, hnames] at hjoin
  exact ⟨hplain, hiff.2 ⟨hplain, hjoined.symm⟩, hjoin⟩

end Storefront.Bucket
