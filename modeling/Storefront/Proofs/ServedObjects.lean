import Storefront.Proofs.ImageUrls
import Storefront.Proofs.CatalogApi

/-
  A bucket on disk as a map from paths to bytes, and what it serves.

  A call on a bucket (`ObjectCall`) stores bytes under a key or removes the object of a key; on
  a map from paths to bytes (`ObjectMap`) it sets the key's path to what it leaves there.  A disk
  bucket mirrors a map (`Disk.Mirrors`) when the file at each path holds the map's bytes, every
  file lies at a path `images`, `<name>`, and the folder `images` is there once something was
  stored.  What lies at a path of such a disk is then read off the map (`Mirrors.node_eq`): a
  file, a folder, a path through a file, a name too long where the walk down the path stops, or
  nothing.

  Calls on keys `images/<name>`, for names the system takes below the root (`StorableName`), all
  go through and keep the disk mirroring the map they build (`Mirrors.through`).  Main statement
  (`disk_objects_served`): after such calls on an empty bucket, a GET of a key under `/uploads/`
  answers the bytes the last call on its path stored; a key whose path the system refuses (a
  NUL byte, or too long a path), that asks for a stored object as a folder, that passes through
  one, or whose walk stops at a name too long, fails on the server; the folder `images` answers
  with a body that fails while it is read; and every other key, unsafe or with nothing at or
  above its path, answers that the object is not found.
-/
namespace Storefront.Bucket

/-! ## Calls, and the map they build -/

/-- A call on a bucket: store bytes under a key, or remove the object of a key. -/
inductive ObjectCall where
  | upload (key : String) (body : ByteArray)
  | delete (key : String)

namespace ObjectCall

/-- The key a call is on. -/
def key : ObjectCall → String
  | .upload key _ | .delete key => key

/-- What a call leaves under its key: the bytes it stores, or nothing. -/
def left : ObjectCall → Option ByteArray
  | .upload _ body => some body
  | .delete _ => none

/-- Whether a call stores an object. -/
def isUpload : ObjectCall → Bool
  | .upload _ _ => true
  | .delete _ => false

end ObjectCall

/-- Where a walk down a path stops on a disk whose only folder is `images`, there once `made`: at
the name below `images`, or at the first name. -/
def imagesStop (made : Bool) : List String → Option String
  | [] => none
  | n :: rest => if made ∧ n = "images" then rest.head? else some n

/-- The objects of a bucket, by path. -/
abbrev ObjectMap := List String → Option ByteArray

namespace ObjectMap

/-- The map after a call: the call's path holds what the call leaves, every other path what it
held. -/
def after (m : ObjectMap) (c : ObjectCall) : ObjectMap := fun p =>
  if p = keyPath c.key then c.left else m p

@[simp] theorem after_upload (m : ObjectMap) (key : String) (body : ByteArray) (p : List String) :
    m.after (.upload key body) p = if p = keyPath key then some body else m p := rfl

@[simp] theorem after_delete (m : ObjectMap) (key : String) (p : List String) :
    m.after (.delete key) p = if p = keyPath key then none else m p := rfl

/-- The objects calls leave on an empty bucket: at each path, what the last call on it left. -/
def ofCalls (calls : List ObjectCall) : ObjectMap :=
  calls.foldl after fun _ => none

/-- What lies at a path of a map whose folder `images` is made when `made`: a file; a folder
(the root, or `images` once made); a path through a file; a name too long where the walk down
the path stops; or nothing. -/
def node (m : ObjectMap) (made : Bool) (p : List String) : Node :=
  match m p with
  | some data => .file data
  | none =>
    if p = [] ∨ made ∧ p = ["images"] then .folder
    else if ∃ n < p.length, (m (p.take n)).isSome then .blocked
    else if (imagesStop made p).any overlong then .overlong
    else .missing

variable {m : ObjectMap} {made : Bool} {p : List String}

theorem node_of_some {data : ByteArray} (h : m p = some data) : m.node made p = .file data := by
  simp [node, h]

/-- Nothing is stored at or above a path: neither at it nor at a shorter prefix. -/
theorem not_blocked (hnone : ∀ n ≤ p.length, m (p.take n) = none) :
    m p = none ∧ ¬∃ n < p.length, (m (p.take n)).isSome := by
  refine ⟨by simpa using hnone p.length (Nat.le_refl _), ?_⟩
  rintro ⟨n, hn, hsome⟩
  simp [hnone n (Nat.le_of_lt hn)] at hsome

/-- Nothing lies at a path, other than the root or a made folder, when nothing is stored at it
or above it and the walk down it stops at a name a folder holds. -/
theorem node_of_none (hnone : ∀ n ≤ p.length, m (p.take n) = none) (hroot : p ≠ [])
    (hfolder : ¬(made ∧ p = ["images"])) (hshort : (imagesStop made p).any overlong = false) :
    m.node made p = .missing := by
  obtain ⟨hp, habove⟩ := not_blocked hnone
  simp only [node, hp]
  rw [if_neg (by simp [hroot, hfolder]), if_neg habove, if_neg (by simp [hshort])]

/-- A path with nothing stored at or above it, whose walk stops at a name too long, cannot be
reached. -/
theorem node_of_overlong (hnone : ∀ n ≤ p.length, m (p.take n) = none)
    (hlong : (imagesStop made p).any overlong = true) : m.node made p = .overlong := by
  obtain ⟨hp, habove⟩ := not_blocked hnone
  -- the root and the folder `images` are no walk's stop
  have hfolder : ¬(p = [] ∨ made ∧ p = ["images"]) := by
    rintro (rfl | ⟨hmade, rfl⟩)
    · simp [imagesStop] at hlong
    · simp [imagesStop, hmade] at hlong
  simp only [node, hp]
  rw [if_neg hfolder, if_neg habove, if_pos hlong]

end ObjectMap

/-! ## Safe keys -/

theorem Text.splitChars_eq_single_nil {sep : Char} {l : List Char}
    (h : Text.splitChars sep l = [[]]) : l = [] := by
  cases l with
  | nil => rfl
  | cons c rest =>
    unfold Text.splitChars at h
    split at h
    · simp at h
    · split at h <;> simp at h

/-- A key that is not empty reads as at least one segment. -/
theorem segments_ne_nil {key : String} (h : key ≠ "") : segments key ≠ [] := by
  unfold segments
  obtain ⟨first, rest, hsplit⟩ :=
    List.exists_cons_of_ne_nil (Text.splitChars_ne_nil '/' key.toList)
  rw [hsplit]
  dsimp only
  by_cases hfirst : first = []
  · cases rest with
    | nil =>
      -- a key read as one empty part is empty
      subst hfirst
      exact absurd (String.toList_eq_nil_iff.1 (Text.splitChars_eq_single_nil hsplit)) h
    | cons p ps => simp [hfirst]
  · simp [hfirst]

/-- A safe key lies at a path of at least one name. -/
theorem keyPath_ne_nil {key : String} (h : isSafeKey key = true) : keyPath key ≠ [] := by
  simp only [isSafeKey, Bool.and_eq_true, decide_eq_true_eq, List.all_eq_true] at h
  obtain ⟨hne, hnames⟩ := h
  obtain ⟨seg, segs, hsegs⟩ := List.exists_cons_of_ne_nil (segments_ne_nil hne)
  have hseg := hnames seg (by simp [hsegs])
  unfold keyPath
  rw [hsegs]
  cases seg with
  | name x => simp
  | _ => simp [Segment.isName] at hseg

/-! ## A disk that mirrors a map -/

/-- A name an image can be stored under below a root: a path name no longer than a folder holds,
whose file below the root the system takes. -/
structure StorableName (root name : String) : Prop where
  pathName : PathName name
  fits : overlong name = false
  accepted : pathFault (joinPath root ("images/" ++ name)) = none

namespace Disk

/-- The bytes of the file at a path. -/
def read (d : Disk) (p : List String) : Option ByteArray :=
  (d.files.find? (·.1 == p)).map Prod.snd

/-- A call on a disk bucket; the url an upload answers is left out. -/
def call (d : Disk) : ObjectCall → Disk × Except Error Unit
  | .upload key body =>
    let (d', r) := d.upload key body
    (d', r.map fun _ => ())
  | .delete key => d.delete key

/-- A disk bucket reached from another by calls that each went through. -/
inductive Through : Disk → List ObjectCall → Disk → Prop
  | nil (d : Disk) : Through d [] d
  | cons {d d₁ d₂ : Disk} {c : ObjectCall} {calls : List ObjectCall} :
      d.call c = (d₁, .ok ()) → Through d₁ calls d₂ → Through d (c :: calls) d₂

variable {d : Disk} {p q : List String}

theorem read_isSome : (d.read p).isSome ↔ p ∈ d.files.map Prod.fst := by
  simp [read, List.find?_isSome]

/-- Dropping the files at one path finds none there, and finds every other path as before. -/
theorem find?_filter_path (files : List (List String × ByteArray)) :
    (files.filter (·.1 != q)).find? (·.1 == p) = if p = q then none else files.find? (·.1 == p) := by
  rw [List.find?_filter]
  by_cases hpq : p = q
  · subst hpq
    rw [if_pos rfl, List.find?_eq_none]
    intro x _
    simp
  · rw [if_neg hpq]
    congr 1
    funext x
    by_cases hx : x.1 = p
    · simp [hx, hpq]
    · simp [hx]

/-- Writing a file at a path, in place of the one there, changes what is read there only. -/
theorem read_replace {d' : Disk} {body : ByteArray}
    (hfiles : d'.files = d.files.filter (·.1 != q) ++ [(q, body)]) :
    d'.read p = if p = q then some body else d.read p := by
  unfold read
  rw [hfiles, List.find?_append, find?_filter_path]
  by_cases hpq : p = q
  · subst hpq
    simp
  · simp [hpq, Ne.symm hpq]

/-- Removing the file at a path changes what is read there only. -/
theorem read_remove {d' : Disk} (hfiles : d'.files = d.files.filter (·.1 != q)) :
    d'.read p = if p = q then none else d.read p := by
  unfold read
  rw [hfiles, find?_filter_path]
  split <;> rfl

/-- A disk bucket mirrors a map of objects: the file at each path holds the map's bytes, every
file lies at a path `images`, `<name>`, and the only folder is `images`, there once `made`. -/
structure Mirrors (d : Disk) (m : ObjectMap) (made : Bool) : Prop where
  read : ∀ p, d.read p = m p
  images : ∀ p, (m p).isSome → ∃ name, p = ["images", name]
  folders : d.folders = if made then [["images"]] else []

namespace Mirrors

variable {m : ObjectMap} {made : Bool}

/-- An empty bucket mirrors the empty map. -/
theorem empty (root url : String) : (Disk.empty root url).Mirrors (fun _ => none) false :=
  ⟨fun _ => rfl, (fun _ h => nomatch h), rfl⟩

/-- Only paths of two names hold objects. -/
theorem none_of_length_ne (h : d.Mirrors m made) (hp : p.length ≠ 2) : m p = none := by
  cases hm : m p with
  | none => rfl
  | some data =>
    obtain ⟨name, rfl⟩ := h.images p (by rw [hm]; rfl)
    exact absurd rfl hp

/-- A walk down a path of the disk stops where it stops on a disk whose only folder is
`images`. -/
theorem stopBelow_eq (h : d.Mirrors m made) (p : List String) :
    d.stopBelow [] p = imagesStop made p := by
  have hfolder : ∀ n, [n] ∈ d.folders ↔ made = true ∧ n = "images" := by
    intro n
    rw [h.folders]
    cases made <;> simp
  have hbelow : ∀ n', ["images", n'] ∉ d.folders := by
    intro n'
    rw [h.folders]
    cases made <;> simp
  cases p with
  | nil => rfl
  | cons n rest =>
    by_cases himg : made = true ∧ n = "images"
    · -- below `images` no path is a folder: the walk stops at the next name
      obtain ⟨hmade, rfl⟩ := himg
      cases rest with
      | nil => simp [Disk.stopBelow, imagesStop, hfolder, hmade]
      | cons n' rest' => simp [Disk.stopBelow, imagesStop, hfolder, hbelow, hmade]
    · simp [Disk.stopBelow, imagesStop, hfolder, himg]

/-- **What lies at a path of the disk is what lies there in the map.** -/
theorem node_eq (h : d.Mirrors m made) (p : List String) : d.node p = m.node made p := by
  have hfolder : (p = [] || d.folders.contains p) = true ↔ p = [] ∨ made ∧ p = ["images"] := by
    rw [h.folders]
    cases made <;> simp
  -- a file lies above the path exactly when the map holds bytes at a shorter prefix of it
  have hblocked : (d.files.any fun x => x.1.length < p.length && p.take x.1.length == x.1) = true ↔
      ∃ n < p.length, (m (p.take n)).isSome := by
    rw [List.any_eq_true]
    constructor
    · rintro ⟨⟨q, data⟩, hmem, hq⟩
      simp only [Bool.and_eq_true, decide_eq_true_eq, beq_iff_eq] at hq
      refine ⟨q.length, hq.1, ?_⟩
      rw [hq.2, ← h.read q, read_isSome]
      exact List.mem_map_of_mem hmem
    · rintro ⟨n, hn, hsome⟩
      rw [← h.read, read_isSome] at hsome
      obtain ⟨⟨q, data⟩, hmem, rfl⟩ := List.mem_map.1 hsome
      have hlen : (p.take n).length = n := List.length_take_of_le (Nat.le_of_lt hn)
      exact ⟨_, hmem, by simp [hlen, hn]⟩
  unfold node ObjectMap.node
  rw [← h.read p]
  unfold Disk.read
  cases d.files.find? (·.1 == p) with
  | some x => rfl
  | none =>
    simp only [Option.map_none]
    by_cases hf : p = [] ∨ made ∧ p = ["images"]
    · rw [if_pos (hfolder.2 hf), if_pos hf]
    · rw [if_neg (mt hfolder.1 hf), if_neg hf]
      by_cases hb : ∃ n < p.length, (m (p.take n)).isSome
      · rw [if_pos (hblocked.2 hb), if_pos hb]
      · rw [if_neg (mt hblocked.1 hb), if_neg hb, h.stopBelow_eq]

/-- Nothing lies at a path `images`, `<name>` that holds no object, for a name a folder holds:
no file lies above it. -/
theorem node_image_of_none (h : d.Mirrors m made) {name : String} (made' : Bool)
    (hnone : m ["images", name] = none) (hshort : overlong name = false) :
    m.node made' ["images", name] = .missing := by
  refine ObjectMap.node_of_none (fun n hn => ?_) (List.cons_ne_nil _ _) (by simp) ?_
  · match n, hn with
    | 0, _ => exact h.none_of_length_ne (by simp)
    | 1, _ => exact h.none_of_length_ne (by simp)
    | 2, _ => exact hnone
  · -- the walk stops at `images` when it is not made, and at the name when it is
    cases made'
    · simp only [imagesStop, Bool.false_eq_true, false_and, if_false, Option.any_some]
      decide
    · simpa [imagesStop] using hshort

/-- Paths below a stored object pass through a file. -/
theorem node_blocked (h : d.Mirrors m made) {p : List String}
    (habove : ∃ n < p.length, (m (p.take n)).isSome) : m.node made p = .blocked := by
  obtain ⟨n, hn, hsome⟩ := habove
  obtain ⟨name, hname⟩ := h.images _ hsome
  -- the object above has two names, so the path has more
  have hlen : 2 < p.length := by
    have htake := congrArg List.length hname
    rw [List.length_take_of_le (Nat.le_of_lt hn)] at htake
    simp only [List.length_cons, List.length_nil] at htake
    omega
  have hp : m p = none := h.none_of_length_ne (by omega)
  have hfolder : ¬(p = [] ∨ made ∧ p = ["images"]) := by
    rintro (rfl | ⟨-, rfl⟩) <;> simp at hlen
  simp only [ObjectMap.node, hp]
  rw [if_neg hfolder, if_pos ⟨n, hn, hsome⟩]

/-- The folder `images`, once made, is a folder. -/
theorem node_images (h : d.Mirrors m made) (hmade : made = true) :
    m.node made ["images"] = .folder := by
  have hnone : m ["images"] = none := h.none_of_length_ne (by simp)
  simp only [ObjectMap.node, hnone]
  rw [if_pos (by simp [hmade])]

/-- Making the folder of an image: the only folder above `images`, `<name>` is `images`, its
name is short and has no NUL byte, and no file stands there. -/
theorem makeFolders_image (h : d.Mirrors m made) (name : String) :
    d.makeFolders ["images", name] = ({ d with folders := [["images"]] }, .ok ()) := by
  have hnone : d.files.find? (·.1 == ["images"]) = none := by
    have hread := h.read ["images"]
    rw [h.none_of_length_ne (by decide)] at hread
    simpa [Disk.read] using hread
  have hfolders : d.folders ++ [["images"]].filter (fun f => !d.folders.contains f) =
      [["images"]] := by
    rw [h.folders]
    cases made <;> rfl
  have hnul : ["images", name].dropLast.any hasNul = false := by
    show ["images"].any hasNul = false
    decide
  have hfit : [["images"]].takeWhile (fun f => !(f.getLast?.any overlong)) = [["images"]] := by
    decide
  unfold makeFolders
  rw [show foldersAbove ["images", name] = [["images"]] from rfl, hnul]
  simp only [Bool.false_eq_true, if_false, List.find?_cons, List.find?_nil, hnone,
    Option.isSome_none, hfit, hfolders, if_true]

/-- Storing bytes at an image path keeps the disk mirroring the map, with the folder `images`
made. -/
theorem replace (h : d.Mirrors m made) {name : String} (hname : PathName name)
    (body : ByteArray) :
    (⟨d.root, d.publicUrl, d.files.filter (·.1 != ["images", name]) ++ [(["images", name], body)],
      [["images"]]⟩ : Disk).Mirrors (m.after (.upload ("images/" ++ name) body)) true := by
  refine ⟨fun p => ?_, fun p hp => ?_, rfl⟩
  · rw [read_replace rfl, ObjectMap.after_upload, keyPath_images hname, h.read p]
  · by_cases hpath : p = ["images", name]
    · exact ⟨name, hpath⟩
    · rw [ObjectMap.after_upload, keyPath_images hname, if_neg hpath] at hp
      exact h.images p hp

/-- Removing the file at an image path keeps the disk mirroring the map. -/
theorem remove (h : d.Mirrors m made) {name : String} (hname : PathName name) :
    ({ d with files := d.files.filter (·.1 != ["images", name]) } : Disk).Mirrors
      (m.after (.delete ("images/" ++ name))) made := by
  refine ⟨fun p => ?_, fun p hp => ?_, h.folders⟩
  · rw [read_remove rfl, ObjectMap.after_delete, keyPath_images hname, h.read p]
  · by_cases hpath : p = ["images", name]
    · exact ⟨name, hpath⟩
    · rw [ObjectMap.after_delete, keyPath_images hname, if_neg hpath] at hp
      exact h.images p hp

/-- **An upload to an image key goes through**: it answers the key's url and stores the bytes,
with the folder `images` made. -/
theorem upload (h : d.Mirrors m made) {name : String} (hname : StorableName d.root name)
    (body : ByteArray) :
    ∃ d', d.upload ("images/" ++ name) body = (d', .ok (d.url ("images/" ++ name))) ∧
      d'.root = d.root ∧ d'.Mirrors (m.after (.upload ("images/" ++ name) body)) true := by
  have hmade : ({ d with folders := [["images"]] } : Disk).Mirrors m true :=
    ⟨h.read, h.images, rfl⟩
  unfold Disk.upload
  rw [resolve_images_eq_ok hname.pathName d.root]
  dsimp only
  rw [keyPath_images hname.pathName, h.makeFolders_image]
  dsimp only
  rw [hname.accepted]
  dsimp only
  rw [hmade.node_eq]
  -- a file of the name is replaced, and a missing one is written
  cases hm : m ["images", name] with
  | none =>
    rw [h.node_image_of_none true hm hname.fits]
    exact ⟨_, rfl, rfl, h.replace hname.pathName body⟩
  | some data =>
    rw [ObjectMap.node_of_some hm]
    exact ⟨_, rfl, rfl, h.replace hname.pathName body⟩

/-- **A removal of an image key goes through**, and leaves nothing at its path. -/
theorem delete (h : d.Mirrors m made) {name : String} (hname : StorableName d.root name) :
    ∃ d', d.delete ("images/" ++ name) = (d', .ok ()) ∧ d'.root = d.root ∧
      d'.Mirrors (m.after (.delete ("images/" ++ name))) made := by
  unfold Disk.delete
  rw [resolve_images_eq_ok hname.pathName d.root]
  dsimp only
  rw [hname.accepted]
  dsimp only
  rw [keyPath_images hname.pathName, h.node_eq]
  cases hm : m ["images", name] with
  | none =>
    -- nothing is there, and the map already holds nothing at the path
    rw [h.node_image_of_none made hm hname.fits]
    have hsame : m.after (.delete ("images/" ++ name)) = m := by
      funext p
      rw [ObjectMap.after_delete, keyPath_images hname.pathName]
      split
      · next hp => rw [hp, hm]
      · rfl
    refine ⟨d, rfl, rfl, ?_⟩
    rw [hsame]
    exact h
  | some data =>
    rw [ObjectMap.node_of_some hm]
    exact ⟨_, rfl, rfl, h.remove hname.pathName⟩

/-- **Calls on image keys all go through**, and the disk they reach, in the same folder, mirrors
the map they build, with the folder `images` made once one of them stored an object. -/
theorem through (h : d.Mirrors m made) {calls : List ObjectCall}
    (hkeys : ∀ c ∈ calls, ∃ name, StorableName d.root name ∧ c.key = "images/" ++ name) :
    ∃ d', d.Through calls d' ∧ d'.root = d.root ∧
      d'.Mirrors (calls.foldl ObjectMap.after m) (made || calls.any ObjectCall.isUpload) := by
  induction calls generalizing d m made with
  | nil => exact ⟨d, .nil d, rfl, by simpa using h⟩
  | cons c calls ih =>
    obtain ⟨name, hname, hkey⟩ := hkeys c List.mem_cons_self
    have hrest := fun c' hc' => hkeys c' (List.mem_cons_of_mem c hc')
    cases c with
    | upload key body =>
      obtain rfl : key = "images/" ++ name := hkey
      obtain ⟨d₁, hup, hroot, h₁⟩ := h.upload hname body
      obtain ⟨d', hrun, hroot', h'⟩ := ih h₁ (by rw [hroot]; exact hrest)
      refine ⟨d', .cons (by simp only [call, hup]; rfl) hrun, hroot'.trans hroot, ?_⟩
      simpa [ObjectCall.isUpload] using h'
    | delete key =>
      obtain rfl : key = "images/" ++ name := hkey
      obtain ⟨d₁, hdel, hroot, h₁⟩ := h.delete hname
      obtain ⟨d', hrun, hroot', h'⟩ := ih h₁ (by rw [hroot]; exact hrest)
      exact ⟨d', .cons hdel hrun, hroot'.trans hroot, by simpa [ObjectCall.isUpload] using h'⟩

end Mirrors

end Disk

end Storefront.Bucket

namespace Storefront.Shop

open Storefront.Bucket Storefront.Http

/-! ## What a GET under `/uploads/` answers -/

section Serving

variable {s : State} {k : String}

/-- A key that is not safe on disk is not found. -/
theorem run_serveObject_of_not_safe (h : isSafeKey k = false) (s : State) :
    (answering (serveObject k)).run.run s =
      (.ok (Response.ofError (.notFound s!"object {k} not found")), s) := by
  rw [run_answering]
  simp [serveObject, h]
  rfl

/-- A safe key is served from a disk bucket by the file it names below the root: the system
refuses a path with a NUL byte or too long first; then the bytes of a file, unless the key asks
for a folder; a body that fails while it is read for a folder; a failure on the server for a
path through a file or to a name too long; and not found for nothing. -/
theorem run_serveObject_disk {d : Disk} (hsafe : isSafeKey k = true)
    (hbucket : s.bucket = .disk d) :
    ∃ kind, (answering (serveObject k)).run.run s =
      (.ok (match pathFault (joinPath d.root k), d.node (keyPath k) with
        | some text, _ => Response.ofError (Error.ofIo text)
        | none, .file data =>
          if asksForFolder k then Response.ofError (Error.ofIo notAFolder)
          else ⟨200, some kind, some "inline", .bytes data⟩
        | none, .folder => ⟨200, some kind, some "inline", .failing⟩
        | none, .blocked => Response.ofError (Error.ofIo notAFolder)
        | none, .overlong => Response.ofError (Error.ofIo nameTooLong)
        | none, .missing => Response.ofError (.notFound s!"object {k} not found")), s) := by
  refine ⟨((keyPath k).getLast?.bind Media.guessType).getD "application/octet-stream", ?_⟩
  rw [run_answering]
  simp only [serveObject, hsafe, Bool.not_true, Bool.false_eq_true, if_false, run_bind, run_get,
    hbucket]
  cases hfault : pathFault (joinPath d.root k) with
  | some text => rfl
  | none =>
    dsimp only
    cases d.node (keyPath k) with
    | file data =>
      by_cases hfolder : asksForFolder k = true
      · simp only [hfolder, if_true]
        rfl
      · simp only [hfolder, Bool.false_eq_true, if_false]
        rfl
    | folder => rfl
    | blocked => rfl
    | overlong => rfl
    | missing => rfl

/-- A GET of a key under `/uploads/` serves the decoded key to anyone, and answers a failure
with its response. -/
theorem run_respond_object {req : Request} {raw : String}
    (hroute : Route.ofPath req.path = some (.object raw)) (hget : req.method = "GET")
    (hdecode : percentDecode raw = some k) (s : State) :
    (respond req).run.run s = (answering (serveObject k)).run.run s :=
  run_respond_decoded hroute (by rw [hget]; rfl) (by rw [hget]; decide)
    (run_authorize_everyone req s)
    (show (Action.serveObject raw).param = some ("key", raw, Action.serveObject) from rfl) hdecode

end Serving

/-- **A disk bucket serves the map its calls build.**  After calls on keys `images/<name>` on an
empty disk bucket, for names the system takes below its root, all of which go through, a GET of
a key `k` under `/uploads/` answers: a failure on the server when the system refuses the path of
`k` below the root, for a NUL byte in it or too many bytes; otherwise, the bytes the last call
on `k`'s path stored, with 200, when `k` is safe and does not ask for a folder; a failure on the
server when `k` asks for a stored object as a folder, passes through one, or has nothing stored
at or above its path and a walk down it stops at a name too long for a folder; 200 with a body
that fails while it is read for the folder `images`, once something was stored; and that the
object is not found when `k` is unsafe, or nothing lies at or above its path, it is not that
folder and its walk stops at a name a folder holds. -/
theorem disk_objects_served (root url : String) (calls : List ObjectCall)
    (hkeys : ∀ c ∈ calls, ∃ name, StorableName root name ∧ c.key = "images/" ++ name) :
    ∃ d, (Disk.empty root url).Through calls d ∧
      ∀ (s : State) (req : Request) (raw k : String), s.bucket = .disk d →
        Route.ofPath req.path = some (.object raw) → req.method = "GET" →
        percentDecode raw = some k →
        ∃ r, (respond req).run.run s = (.ok r, s) ∧
          (∀ text, isSafeKey k → pathFault (joinPath root k) = some text →
            r = Response.ofError (Error.ofIo text)) ∧
          (∀ data, isSafeKey k → pathFault (joinPath root k) = none →
            ObjectMap.ofCalls calls (keyPath k) = some data →
            asksForFolder k = false → r.status = 200 ∧ r.body = .bytes data) ∧
          (isSafeKey k → pathFault (joinPath root k) = none →
            (ObjectMap.ofCalls calls (keyPath k)).isSome → asksForFolder k →
            r = Response.ofError (Error.ofIo notAFolder)) ∧
          (isSafeKey k → pathFault (joinPath root k) = none →
            (∃ n < (keyPath k).length, (ObjectMap.ofCalls calls ((keyPath k).take n)).isSome) →
            r = Response.ofError (Error.ofIo notAFolder)) ∧
          (isSafeKey k → pathFault (joinPath root k) = none →
            (∀ n ≤ (keyPath k).length, ObjectMap.ofCalls calls ((keyPath k).take n) = none) →
            (imagesStop (calls.any ObjectCall.isUpload) (keyPath k)).any overlong →
            r = Response.ofError (Error.ofIo nameTooLong)) ∧
          (isSafeKey k → pathFault (joinPath root k) = none → calls.any ObjectCall.isUpload →
            keyPath k = ["images"] → r.status = 200 ∧ r.body = .failing) ∧
          ((isSafeKey k → pathFault (joinPath root k) = none ∧
              (∀ n ≤ (keyPath k).length, ObjectMap.ofCalls calls ((keyPath k).take n) = none) ∧
              ¬(calls.any ObjectCall.isUpload ∧ keyPath k = ["images"]) ∧
              (imagesStop (calls.any ObjectCall.isUpload) (keyPath k)).any overlong = false) →
            r = Response.ofError (.notFound s!"object {k} not found")) := by
  obtain ⟨d, hthrough, hroot, hm⟩ := (Disk.Mirrors.empty root url).through hkeys
  replace hm : d.Mirrors (ObjectMap.ofCalls calls) (calls.any ObjectCall.isUpload) := by
    rw [Bool.false_or] at hm
    exact hm
  refine ⟨d, hthrough, fun s req raw k hbucket hroute hget hdecode => ?_⟩
  have hrespond := run_respond_object hroute hget hdecode s
  by_cases hsafe : isSafeKey k = true
  · -- a safe key: the system's refusal of its path, then what lies at it in the map
    obtain ⟨kind, hserve⟩ := run_serveObject_disk hsafe hbucket
    rw [hm.node_eq, show d.root = root from hroot] at hserve
    refine ⟨_, hrespond.trans hserve, fun text _ hfault => by rw [hfault],
      fun data _ hok hstored hask => ?_, fun _ hok hstored hask => ?_, fun _ hok habove => ?_,
      fun _ hok hnone hlong => ?_, fun _ hok hmade hp => ?_, fun hnothing => ?_⟩
    · rw [hok, ObjectMap.node_of_some hstored]
      simp [hask]
    · obtain ⟨data, hdata⟩ := Option.isSome_iff_exists.1 hstored
      rw [hok, ObjectMap.node_of_some hdata]
      simp [hask]
    · rw [hok, hm.node_blocked habove]
    · rw [hok, ObjectMap.node_of_overlong hnone hlong]
    · rw [hok, hp, hm.node_images hmade]
      exact ⟨rfl, rfl⟩
    · obtain ⟨hok, hnone, hfolder, hshort⟩ := hnothing hsafe
      rw [hok, ObjectMap.node_of_none hnone (keyPath_ne_nil hsafe) hfolder hshort]
  · -- an unsafe key is not found
    rw [Bool.not_eq_true] at hsafe
    refine ⟨_, hrespond.trans (run_serveObject_of_not_safe hsafe s), ?_, ?_, ?_, ?_, ?_, ?_,
      fun _ => rfl⟩ <;> simp [hsafe]

/-- The folder the shop's disk bucket keeps its files in, of the length of a fresh temporary
folder. -/
def sessionRoot : String := "/tmp/.tmpbucket"

/-- Two images, the first of them removed again, on image keys the system takes below a
temporary folder. -/
theorem disk_objects_served_two_images :
    (∀ c ∈ [ObjectCall.upload "images/a.png" (ByteArray.mk #[1]), .delete "images/a.png",
        .upload "images/b.png" (ByteArray.mk #[2])],
        ∃ name, StorableName sessionRoot name ∧ c.key = "images/" ++ name) ∧
    ∃ d, (Disk.empty sessionRoot "http://localhost").Through
        [.upload "images/a.png" (ByteArray.mk #[1]), .delete "images/a.png",
          .upload "images/b.png" (ByteArray.mk #[2])] d ∧
      ∀ (s : State) (req : Request) (raw k : String), s.bucket = .disk d →
        Route.ofPath req.path = some (.object raw) → req.method = "GET" →
        percentDecode raw = some k →
        ∃ r, (respond req).run.run s = (.ok r, s) ∧
          (∀ text, isSafeKey k → pathFault (joinPath sessionRoot k) = some text →
            r = Response.ofError (Error.ofIo text)) ∧
          (∀ data, isSafeKey k → pathFault (joinPath sessionRoot k) = none →
            ObjectMap.ofCalls [.upload "images/a.png" (ByteArray.mk #[1]), .delete "images/a.png",
              .upload "images/b.png" (ByteArray.mk #[2])] (keyPath k) = some data →
            asksForFolder k = false → r.status = 200 ∧ r.body = .bytes data) ∧
          (isSafeKey k → pathFault (joinPath sessionRoot k) = none →
            (ObjectMap.ofCalls [.upload "images/a.png" (ByteArray.mk #[1]), .delete "images/a.png",
              .upload "images/b.png" (ByteArray.mk #[2])] (keyPath k)).isSome →
            asksForFolder k → r = Response.ofError (Error.ofIo notAFolder)) ∧
          (isSafeKey k → pathFault (joinPath sessionRoot k) = none →
            (∃ n < (keyPath k).length,
              (ObjectMap.ofCalls [.upload "images/a.png" (ByteArray.mk #[1]),
                .delete "images/a.png", .upload "images/b.png" (ByteArray.mk #[2])]
                ((keyPath k).take n)).isSome) →
            r = Response.ofError (Error.ofIo notAFolder)) ∧
          (isSafeKey k → pathFault (joinPath sessionRoot k) = none →
            (∀ n ≤ (keyPath k).length,
              ObjectMap.ofCalls [.upload "images/a.png" (ByteArray.mk #[1]),
                .delete "images/a.png", .upload "images/b.png" (ByteArray.mk #[2])]
                ((keyPath k).take n) = none) →
            (imagesStop ([ObjectCall.upload "images/a.png" (ByteArray.mk #[1]),
              .delete "images/a.png", .upload "images/b.png" (ByteArray.mk #[2])].any
                ObjectCall.isUpload) (keyPath k)).any overlong →
            r = Response.ofError (Error.ofIo nameTooLong)) ∧
          (isSafeKey k → pathFault (joinPath sessionRoot k) = none →
            [ObjectCall.upload "images/a.png" (ByteArray.mk #[1]), .delete "images/a.png",
              .upload "images/b.png" (ByteArray.mk #[2])].any ObjectCall.isUpload →
            keyPath k = ["images"] → r.status = 200 ∧ r.body = .failing) ∧
          ((isSafeKey k → pathFault (joinPath sessionRoot k) = none ∧
              (∀ n ≤ (keyPath k).length,
                ObjectMap.ofCalls [.upload "images/a.png" (ByteArray.mk #[1]),
                  .delete "images/a.png", .upload "images/b.png" (ByteArray.mk #[2])]
                  ((keyPath k).take n) = none) ∧
              ¬([ObjectCall.upload "images/a.png" (ByteArray.mk #[1]), .delete "images/a.png",
                  .upload "images/b.png" (ByteArray.mk #[2])].any ObjectCall.isUpload ∧
                keyPath k = ["images"]) ∧
              (imagesStop ([ObjectCall.upload "images/a.png" (ByteArray.mk #[1]),
                .delete "images/a.png", .upload "images/b.png" (ByteArray.mk #[2])].any
                  ObjectCall.isUpload) (keyPath k)).any overlong = false) →
            r = Response.ofError (.notFound s!"object {k} not found")) := by
  have hkeys : ∀ c ∈ [ObjectCall.upload "images/a.png" (ByteArray.mk #[1]),
      .delete "images/a.png", .upload "images/b.png" (ByteArray.mk #[2])],
      ∃ name, StorableName sessionRoot name ∧ c.key = "images/" ++ name := by
    have ha : StorableName sessionRoot "a.png" :=
      ⟨⟨by decide, by decide, by decide, by decide⟩, by decide, by decide⟩
    have hb : StorableName sessionRoot "b.png" :=
      ⟨⟨by decide, by decide, by decide, by decide⟩, by decide, by decide⟩
    intro c hc
    simp only [List.mem_cons, List.not_mem_nil, or_false] at hc
    rcases hc with rfl | rfl | rfl
    · exact ⟨"a.png", ha, rfl⟩
    · exact ⟨"a.png", ha, rfl⟩
    · exact ⟨"b.png", hb, rfl⟩
  exact ⟨hkeys, disk_objects_served sessionRoot "http://localhost" _ hkeys⟩

/-- A disk bucket is not a plain map of its keys: once `images/x.png` is stored, a GET of the
folder `images` answers 200 with a body that fails while it is read, and GETs of a path through
the image and of a key with a NUL byte fail on the server, where a map would find none of them. -/
theorem image_folder_and_inner_path_no_plain_answers :
    ∃ d, (Disk.empty sessionRoot "http://localhost").Through
        [.upload "images/x.png" (ByteArray.mk #[1])] d ∧
      ∀ s : State, s.bucket = .disk d →
        (∃ r, (respond ⟨"GET", "/uploads/images", [], .empty⟩).run.run s = (.ok r, s) ∧
          r.status = 200 ∧ r.body = .failing) ∧
        (respond ⟨"GET", "/uploads/images/x.png/y", [], .empty⟩).run.run s =
          (.ok (Response.ofError (Error.ofIo notAFolder)), s) ∧
        (respond ⟨"GET", "/uploads/images/a%00b", [], .empty⟩).run.run s =
          (.ok (Response.ofError (Error.ofIo nulInPath)), s) := by
  have hname : StorableName sessionRoot "x.png" :=
    ⟨⟨by decide, by decide, by decide, by decide⟩, by decide, by decide⟩
  have hkeys : ∀ c ∈ [ObjectCall.upload "images/x.png" (ByteArray.mk #[1])],
      ∃ name, StorableName sessionRoot name ∧ c.key = "images/" ++ name := by
    intro c hc
    rw [List.mem_singleton.1 hc]
    exact ⟨"x.png", hname, rfl⟩
  obtain ⟨d, hthrough, hroot, hm⟩ :=
    (Disk.Mirrors.empty sessionRoot "http://localhost").through hkeys
  replace hm : d.Mirrors (ObjectMap.ofCalls [ObjectCall.upload "images/x.png" (ByteArray.mk #[1])])
      true := hm
  refine ⟨d, hthrough, fun s hbucket => ⟨?_, ?_, ?_⟩⟩
  · -- the folder `images` is made by the upload
    obtain ⟨kind, hserve⟩ := run_serveObject_disk (show isSafeKey "images" = true by decide) hbucket
    rw [show d.root = sessionRoot from hroot,
      show pathFault (joinPath sessionRoot "images") = none by decide, hm.node_eq,
      show keyPath "images" = ["images"] by decide, hm.node_images rfl] at hserve
    have hroute : Route.ofPath (Request.path ⟨"GET", "/uploads/images", [], .empty⟩) =
        some (.object "images") := by decide
    exact ⟨_, (run_respond_object hroute rfl (by decide +kernel) s).trans hserve, rfl, rfl⟩
  · -- the path goes on below the stored image
    obtain ⟨kind, hserve⟩ :=
      run_serveObject_disk (show isSafeKey "images/x.png/y" = true by decide) hbucket
    have habove : ∃ n < (keyPath "images/x.png/y").length,
        (ObjectMap.ofCalls [ObjectCall.upload "images/x.png" (ByteArray.mk #[1])]
          ((keyPath "images/x.png/y").take n)).isSome :=
      ⟨2, by decide, by decide⟩
    rw [show d.root = sessionRoot from hroot,
      show pathFault (joinPath sessionRoot "images/x.png/y") = none by decide,
      hm.node_eq, hm.node_blocked habove] at hserve
    have hroute : Route.ofPath (Request.path ⟨"GET", "/uploads/images/x.png/y", [], .empty⟩) =
        some (.object "images/x.png/y") := by decide
    exact (run_respond_object hroute rfl (by decide +kernel) s).trans hserve
  · -- the decoded key holds a NUL byte, which the system is never given
    obtain ⟨kind, hserve⟩ :=
      run_serveObject_disk (show isSafeKey "images/a\x00b" = true by decide) hbucket
    rw [show d.root = sessionRoot from hroot,
      show pathFault (joinPath sessionRoot "images/a\x00b") = some nulInPath by decide] at hserve
    have hroute : Route.ofPath (Request.path ⟨"GET", "/uploads/images/a%00b", [], .empty⟩) =
        some (.object "images/a%00b") := by decide
    exact (run_respond_object hroute rfl (by decide +kernel) s).trans hserve

end Storefront.Shop
