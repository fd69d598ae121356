import Storefront.Proofs.Upload

/-
  What a bucket holds, and what a store or a removal that goes through does to it.

  A bucket holds an object under a key (`Store.holds`): a bucket in memory an object of that
  key, a bucket on disk a file at the key's path, the plain names of the key (`keyPath`), so
  that keys that differ only by empty or `.` segments name one file.  An upload that answers a
  url stored the object, under the bucket's url prefix and the key, and changed no object at
  another path (`Store.upload_ok`); a removal that goes through leaves no object under its key
  and changes no other (`Store.delete_ok`).  Either keeps the url the bucket was made with.

  A replacement stores a new object and then removes the one before it (`Replaced`).  Main
  statements: after successive replacements whose keys lie at different paths, the bucket
  holds the last object (`Replaced.holds_getLast`) and none of the others, the first one
  included (`Replaced.not_holds_dropLast`).
-/

namespace Storefront.Bucket

/-! ## What a bucket holds -/

/-- Dropping the entries of one key keeps exactly the other keys. -/
theorem mem_map_fst_filter_ne {α β : Type} [BEq α] [LawfulBEq α] (l : List (α × β)) (j k : α) :
    k ∈ (l.filter (·.1 != j)).map Prod.fst ↔ k ∈ l.map Prod.fst ∧ k ≠ j := by
  simp only [List.mem_map, List.mem_filter]
  constructor
  · rintro ⟨⟨a, b⟩, ⟨hmem, hne⟩, rfl⟩
    exact ⟨⟨(a, b), hmem, rfl⟩, by simpa using hne⟩
  · rintro ⟨⟨⟨a, b⟩, hmem, rfl⟩, hne⟩
    exact ⟨(a, b), ⟨hmem, by simpa using hne⟩, rfl⟩

/-- The url a bucket was made with, its trailing `/` removed. -/
def Store.base : Store → String
  | .memory m => m.baseUrl
  | .disk d => d.publicUrl

/-- What the url of every object of a bucket starts with, before its key: the base url and `/`
in memory, the public url and `/uploads/` on disk. -/
def Store.urlPrefix : Store → String
  | .memory m => m.baseUrl ++ "/"
  | .disk d => d.publicUrl ++ "/uploads/"

/-- Whether a bucket holds an object under a key: in memory, an object of that key; on disk, a
file at the key's path. -/
def Store.holds : Store → String → Prop
  | .memory m, key => key ∈ m.objects.map Prod.fst
  | .disk d, key => keyPath key ∈ d.files.map Prod.fst

instance (st : Store) (key : String) : Decidable (st.holds key) :=
  match st with
  | .memory m => inferInstanceAs (Decidable (key ∈ m.objects.map Prod.fst))
  | .disk d => inferInstanceAs (Decidable (keyPath key ∈ d.files.map Prod.fst))

namespace Memory

/-- An upload that is not refused stores the object under its key, replacing any other, and
answers the base url, a `/` and the key. -/
theorem upload_ok {m m' : Memory} {key ct url : String} {body : ByteArray}
    (h : m.upload key ct body = (m', .ok url)) :
    url = m.baseUrl ++ "/" ++ key ∧ m'.baseUrl = m.baseUrl ∧
      m'.objects = m.objects.filter (·.1 != key) ++ [(key, body)] := by
  unfold upload at h
  dsimp only at h
  split at h
  · cases h
  · cases h
    exact ⟨rfl, rfl, rfl⟩

theorem delete_ok {m m' : Memory} {key : String} (h : m.delete key = (m', .ok ())) :
    m'.baseUrl = m.baseUrl ∧ m'.objects = m.objects.filter (·.1 != key) := by
  unfold delete at h
  dsimp only at h
  split at h
  · cases h
  · cases h
    exact ⟨rfl, rfl⟩

end Memory

namespace Disk

/-- Making folders changes no file, url or root, whether it goes through or not. -/
theorem makeFolders_keeps (d : Disk) (path : List String) :
    (d.makeFolders path).1.files = d.files ∧ (d.makeFolders path).1.publicUrl = d.publicUrl ∧
      (d.makeFolders path).1.root = d.root := by
  unfold makeFolders
  dsimp only
  split
  · exact ⟨rfl, rfl, rfl⟩
  · split <;> exact ⟨rfl, rfl, rfl⟩

theorem not_mem_of_node_missing {d : Disk} {path : List String} (h : d.node path = .missing) :
    path ∉ d.files.map Prod.fst := by
  unfold node at h
  split at h
  · cases h
  · next hnone =>
    intro hmem
    obtain ⟨⟨p, data⟩, hp, rfl⟩ := List.mem_map.1 hmem
    exact (List.find?_eq_none.1 hnone) (p, data) hp (by simp)

/-- A stored file is written at the key's path, replacing any other, and the url is the
public url, `/uploads/` and the key. -/
theorem upload_ok {d d' : Disk} {key url : String} {body : ByteArray}
    (h : d.upload key body = (d', .ok url)) :
    url = d.publicUrl ++ "/uploads/" ++ key ∧ d'.publicUrl = d.publicUrl ∧
      d'.files = d.files.filter (·.1 != keyPath key) ++ [(keyPath key, body)] := by
  obtain ⟨hfiles, hurl, -⟩ := makeFolders_keeps d (keyPath key)
  unfold upload at h
  split at h
  · cases h
  · dsimp only at h
    -- the folders are made, the path is taken, and a file or nothing lies at it
    rcases hmake : d.makeFolders (keyPath key) with ⟨d₁, _ | ⟨⟩⟩
    · rw [hmake] at h
      cases h
    rw [hmake] at hfiles hurl h
    dsimp only at h hfiles hurl
    split at h
    · cases h
    · split at h <;> cases h
      all_goals exact ⟨by rw [url, hurl], hurl, by rw [hfiles]⟩

/-- A removal that goes through takes the file at the key's path away, or finds none there. -/
theorem delete_ok {d d' : Disk} {key : String} (h : d.delete key = (d', .ok ())) :
    d'.publicUrl = d.publicUrl ∧
      (d'.files = d.files.filter (·.1 != keyPath key) ∨
        d' = d ∧ keyPath key ∉ d.files.map Prod.fst) := by
  unfold delete at h
  split at h
  · cases h
  · dsimp only at h
    split at h
    · cases h
    · split at h
      · cases h
        exact ⟨rfl, .inl rfl⟩
      · cases h
      · cases h
      · cases h
      · next hmissing =>
        cases h
        exact ⟨rfl, .inr ⟨rfl, not_mem_of_node_missing hmissing⟩⟩

end Disk

/-- **A stored upload.**  Its url is the bucket's prefix and the key; the bucket keeps its base
url, holds the key, and holds every key of another path as before. -/
theorem Store.upload_ok {st st' : Store} {key ct url : String} {body : ByteArray}
    (h : st.upload key ct body = (st', .ok url)) :
    url = st.urlPrefix ++ key ∧ st'.base = st.base ∧ st'.holds key ∧
      ∀ k, keyPath k ≠ keyPath key → (st'.holds k ↔ st.holds k) := by
  cases st with
  | memory m =>
    rcases hup : m.upload key ct body with ⟨m', r⟩
    rw [show Store.upload (.memory m) key ct body = (.memory m', r) by simp only [Store.upload, hup]]
      at h
    cases h
    obtain ⟨hurl, hbase, hobjects⟩ := Memory.upload_ok hup
    refine ⟨hurl, hbase, by simp [Store.holds, hobjects], fun k hk => ?_⟩
    have hne : k ≠ key := fun hkey => hk (hkey ▸ rfl)
    simp [Store.holds, hobjects, mem_map_fst_filter_ne, hne]
  | disk d =>
    rcases hup : d.upload key body with ⟨d', r⟩
    rw [show Store.upload (.disk d) key ct body = (.disk d', r) by simp only [Store.upload, hup]]
      at h
    cases h
    obtain ⟨hurl, hbase, hfiles⟩ := Disk.upload_ok hup
    refine ⟨hurl, hbase, by simp [Store.holds, hfiles], fun k hk => ?_⟩
    simp [Store.holds, hfiles, hk]

/-- **A removal that goes through.**  The bucket keeps its base url, no longer holds the key, and
holds every key of another path as before. -/
theorem Store.delete_ok {st st' : Store} {key : String} (h : st.delete key = (st', .ok ())) :
    st'.base = st.base ∧ ¬st'.holds key ∧ (∀ k, st'.holds k → st.holds k) ∧
      ∀ k, keyPath k ≠ keyPath key → (st'.holds k ↔ st.holds k) := by
  cases st with
  | memory m =>
    rcases hdel : m.delete key with ⟨m', r⟩
    rw [show Store.delete (.memory m) key = (.memory m', r) by simp only [Store.delete, hdel]] at h
    cases h
    obtain ⟨hbase, hobjects⟩ := Memory.delete_ok hdel
    refine ⟨hbase, by simp [Store.holds, hobjects, mem_map_fst_filter_ne], fun k hk => ?_,
      fun k hk => ?_⟩
    · simp only [Store.holds, hobjects, mem_map_fst_filter_ne] at hk
      exact hk.1
    have hne : k ≠ key := fun hkey => hk (hkey ▸ rfl)
    simp [Store.holds, hobjects, mem_map_fst_filter_ne, hne]
  | disk d =>
    rcases hdel : d.delete key with ⟨d', r⟩
    rw [show Store.delete (.disk d) key = (.disk d', r) by simp only [Store.delete, hdel]] at h
    cases h
    obtain ⟨hbase, hfiles | ⟨rfl, hnone⟩⟩ := Disk.delete_ok hdel
    · refine ⟨hbase, by simp [Store.holds, hfiles], fun k hk => ?_, fun k hk => ?_⟩
      · simp only [Store.holds, hfiles, mem_map_fst_filter_ne] at hk
        exact hk.1
      · simp [Store.holds, hfiles, hk]
    · exact ⟨rfl, hnone, fun _ hk => hk, fun _ _ => Iff.rfl⟩

/-! ## Replacing one object by the next -/

/-- The bucket after the object under `old` is removed, if there is one: untouched when there is
none, else after one removal that went through. -/
def Removed (b : Store) : Option String → Store → Prop
  | none, b' => b' = b
  | some key, b' => b.delete key = (b', .ok ())

namespace Removed

variable {b b' : Store} {old : Option String}

theorem base (h : Removed b old b') : b'.base = b.base := by
  cases old with
  | none => exact congrArg Store.base h
  | some key => exact (Store.delete_ok h).1

theorem holds_of (h : Removed b old b') {k : String} (hk : b'.holds k) : b.holds k := by
  cases old with
  | none =>
    subst h
    exact hk
  | some key => exact (Store.delete_ok h).2.2.1 k hk

theorem holds_iff (h : Removed b old b') {k : String} (hk : ∀ o ∈ old, keyPath k ≠ keyPath o) :
    b'.holds k ↔ b.holds k := by
  cases old with
  | none =>
    subst h
    exact Iff.rfl
  | some key => exact (Store.delete_ok h).2.2.2 k (hk key rfl)

theorem not_holds {key : String} (h : Removed b (some key) b') : ¬b'.holds key :=
  (Store.delete_ok h).2.1

end Removed

/-- A bucket after successive replacements of one object: each stores a new object under its
key, then removes the object before it, if there was one. -/
inductive Replaced : Store → Option String → List String → Store → Prop
  | nil {b : Store} {old : Option String} : Replaced b old [] b
  | cons {b b₁ b₂ b₃ : Store} {old : Option String} {key contentType url : String}
      {body : ByteArray} {keys : List String} :
      b.upload key contentType body = (b₁, .ok url) → Removed b₁ old b₂ →
      Replaced b₂ (some key) keys b₃ → Replaced b old (key :: keys) b₃

namespace Replaced

variable {b b' : Store} {old : Option String} {keys : List String}

/-- Keys at different paths, the first object's included, stay so past the first replacement,
and none of them lies at the first object's path. -/
theorem nodup_tail {key : String} (h : ((old.toList ++ key :: keys).map keyPath).Nodup) :
    (((some key).toList ++ keys).map keyPath).Nodup ∧
      ∀ o ∈ old, keyPath o ∉ (key :: keys).map keyPath := by
  rw [List.map_append, List.nodup_append] at h
  exact ⟨by simpa using h.2.1, fun o ho hm => h.2.2 _ (List.mem_map_of_mem (by simpa using ho)) _ hm rfl⟩

/-- A key of a path no replacement stores stays away. -/
theorem not_holds (h : Replaced b old keys b') {k : String} (hk : ¬b.holds k)
    (hfresh : keyPath k ∉ keys.map keyPath) : ¬b'.holds k := by
  induction h with
  | nil => exact hk
  | @cons b b₁ b₂ b₃ old key _ _ _ keys hup hrem _ ih =>
    have hpath : keyPath k ≠ keyPath key := fun he => hfresh (by simp [he])
    have hk₁ : ¬b₁.holds k := fun h₁ => hk (((Store.upload_ok hup).2.2.2 k hpath).1 h₁)
    have hk₂ : ¬b₂.holds k := fun h₂ => hk₁ (hrem.holds_of h₂)
    exact ih hk₂ fun hm => hfresh (List.mem_cons_of_mem _ hm)

/-- **Only the last object stays.**  After successive replacements whose keys, the first object
included, lie at different paths, every object but the last is gone. -/
theorem not_holds_dropLast (h : Replaced b old keys b')
    (hnodup : ((old.toList ++ keys).map keyPath).Nodup) :
    ∀ k ∈ (old.toList ++ keys).dropLast, ¬b'.holds k := by
  induction h with
  | @nil b old =>
    intro k hk
    cases old <;> simp at hk
  | @cons b b₁ b₂ b₃ old key _ _ _ keys hup hrem hrest ih =>
    obtain ⟨hnext, hold⟩ := nodup_tail hnodup
    intro k hk
    rw [List.dropLast_append_of_ne_nil (List.cons_ne_nil _ _)] at hk
    rcases List.mem_append.1 hk with hfirst | hlater
    · -- the first object is removed by the first replacement, and no later key takes its path
      cases old with
      | none => cases hfirst
      | some o =>
        obtain rfl := List.mem_singleton.1 hfirst
        have hfresh : keyPath k ∉ keys.map keyPath :=
          fun hm => hold k rfl (List.mem_cons_of_mem _ hm)
        exact hrest.not_holds hrem.not_holds hfresh
    · exact ih hnext k (by simpa using hlater)

/-- **The last object stays.** -/
theorem holds_getLast (h : Replaced b old keys b')
    (hnodup : ((old.toList ++ keys).map keyPath).Nodup) : ∀ k ∈ keys.getLast?, b'.holds k := by
  induction h with
  | nil =>
    intro k hk
    cases hk
  | @cons b b₁ b₂ b₃ old key _ _ _ keys hup hrem hrest ih =>
    obtain ⟨hnext, hold⟩ := nodup_tail hnodup
    cases keys with
    | nil =>
      -- a single replacement: its object is stored, and the removal is at another path
      intro k hk
      obtain rfl : k = key := by simpa using hk.symm
      cases hrest
      have hother : ∀ o ∈ old, keyPath k ≠ keyPath o :=
        fun o ho hsame => hold o ho (by simp [hsame])
      exact (hrem.holds_iff hother).2 (Store.upload_ok hup).2.2.1
    | cons k' ks =>
      intro k hk
      exact ih hnext k (by simpa [List.getLast?_cons_cons] using hk)

end Replaced

end Storefront.Bucket
