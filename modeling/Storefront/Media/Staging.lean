/-
  The staging folder: where an upload's file is written before it is sent to the bucket.

  The folder holds files by name, directly below it.  Writing a file replaces a file of the
  same name.  The disk may have limited room left: a write that does not fit stores the bytes
  that fit and then fails with the system's text, and the part written stays until it is
  removed.  Removing a file frees its bytes; removing a missing file is no error.
-/

namespace Storefront.Media

/-- The text of a write that does not fit on the disk. -/
def noSpace : String := "No space left on device (os error 28)"

/-- The text of a read of a missing file. -/
def noSuchFile : String := "No such file or directory (os error 2)"

/-- The staging folder. -/
structure Staging where
  files : List (String × ByteArray) := []
  /-- The bytes the disk can still take, when it is limited. -/
  room : Option Nat := none

namespace Staging

/-- The names of the files in the folder. -/
def names (st : Staging) : List String :=
  st.files.map (·.1)

/-- The bytes of a file. -/
def read? (st : Staging) (name : String) : Option ByteArray :=
  st.files.lookup name

/-- The bytes the files of a name take. -/
def taken (st : Staging) (name : String) : Nat :=
  (st.files.filter (·.1 == name)).foldr (fun f n => f.2.size + n) 0

/-- Removes a file, freeing its bytes. -/
def remove (st : Staging) (name : String) : Staging :=
  { files := st.files.filter (·.1 != name), room := st.room.map (· + st.taken name) }

/-- Writes a file, replacing one of the same name: all of it, or, when it does not fit, the
bytes that fit and the system's text of why the rest does not. -/
def write (st : Staging) (name : String) (data : ByteArray) : Staging × Except String Unit :=
  let st := st.remove name
  match st.room with
  | none => ({ st with files := st.files ++ [(name, data)] }, .ok ())
  | some n =>
    if data.size ≤ n then
      ({ files := st.files ++ [(name, data)], room := some (n - data.size) }, .ok ())
    else
      ({ files := st.files ++ [(name, data.extract 0 n)], room := some 0 }, .error noSpace)

/-! ## Removing what was written -/

@[simp] theorem remove_files (st : Staging) (name : String) :
    (st.remove name).files = st.files.filter (·.1 != name) := rfl

/-- A folder with no file of a name has no bytes taken under it. -/
theorem taken_eq_zero {st : Staging} {name : String} (h : ∀ f ∈ st.files, f.1 ≠ name) :
    st.taken name = 0 := by
  have hnone : st.files.filter (·.1 == name) = [] :=
    List.filter_eq_nil_iff.2 fun f hf => by simpa using h f hf
  simp [taken, hnone]

/-- Once a name is removed, no file of it is left. -/
theorem ne_of_mem_remove {st : Staging} {name : String} {f : String × ByteArray}
    (hf : f ∈ (st.remove name).files) : f.1 ≠ name := by
  simp only [remove_files, List.mem_filter, bne_iff_ne] at hf
  exact hf.2

/-- A file added to a folder with no file of its name is all that removing the name takes
away. -/
theorem remove_append {st : Staging} {name : String} (data : ByteArray) (room : Option Nat)
    (h : ∀ f ∈ st.files, f.1 ≠ name) :
    ({ files := st.files ++ [(name, data)], room } : Staging).remove name =
      { files := st.files, room := room.map (· + data.size) } := by
  have hkeep : st.files.filter (·.1 != name) = st.files :=
    List.filter_eq_self.2 fun f hf => by simpa using h f hf
  have hnone : st.files.filter (·.1 == name) = [] :=
    List.filter_eq_nil_iff.2 fun f hf => by simpa using h f hf
  simp [remove, taken, List.filter_append, hkeep, hnone]

/-- A write adds one file of its name to the folder without that name: the whole file, or the
bytes that fit, with the room it leaves. -/
theorem write_eq_append (st : Staging) (name : String) (data : ByteArray) :
    ∃ part room, (st.write name data).1 =
        { files := (st.remove name).files ++ [(name, part)], room } ∧
      room.map (· + part.size) = (st.remove name).room := by
  unfold write
  dsimp only
  rcases hroom : (st.remove name).room with _ | n
  · exact ⟨data, none, rfl, rfl⟩
  · by_cases hfit : data.size ≤ n
    · refine ⟨data, some (n - data.size), by simp [hfit], ?_⟩
      simp only [Option.map_some, Option.some.injEq]
      omega
    · refine ⟨data.extract 0 n, some 0, by simp [hfit], ?_⟩
      simp only [Option.map_some, ByteArray.size_extract, Option.some.injEq]
      omega

/-- **Removing a written file gives back the folder as it was without it**, whether the write
went through or stopped part way: the bytes it took are freed again. -/
theorem remove_write (st : Staging) (name : String) (data : ByteArray) :
    (st.write name data).1.remove name = st.remove name := by
  obtain ⟨part, room, hw, hroom⟩ := write_eq_append st name data
  rw [hw, remove_append part room fun f hf => ne_of_mem_remove hf, hroom]

/-- Removing a missing file changes nothing. -/
theorem remove_of_not_mem {st : Staging} {name : String} (h : name ∉ st.names) :
    st.remove name = st := by
  have hne : ∀ f ∈ st.files, f.1 ≠ name := fun f hf hname =>
    h (List.mem_map.2 ⟨f, hf, hname⟩)
  have hkeep : st.files.filter (·.1 != name) = st.files :=
    List.filter_eq_self.2 fun f hf => by simpa using hne f hf
  cases st
  simp only [remove, hkeep, taken_eq_zero hne, Nat.add_zero, Option.map_id']

/-- A write leaves the folder's other files as they were and adds its own name last. -/
theorem names_write (st : Staging) (name : String) (data : ByteArray) :
    (st.write name data).1.names = (st.remove name).names ++ [name] := by
  obtain ⟨part, room, hw, -⟩ := write_eq_append st name data
  simp [hw, names]

/-- A write that went through reads back its bytes. -/
theorem read?_write {st : Staging} {name : String} {data : ByteArray}
    (h : (st.write name data).2 = .ok ()) : (st.write name data).1.read? name = some data := by
  have hnone : (st.files.filter (·.1 != name)).lookup name = none :=
    List.lookup_eq_none_iff.2 fun _ hf => bne_iff_ne.2 (ne_of_mem_remove hf).symm
  unfold write at h ⊢
  dsimp only at h ⊢
  rcases hroom : (st.remove name).room with _ | n
  · simp [read?, List.lookup_append, hnone]
  · rw [hroom] at h
    by_cases hfit : data.size ≤ n
    · simp [hfit, read?, List.lookup_append, hnone]
    · simp [hfit] at h

end Staging

end Storefront.Media
