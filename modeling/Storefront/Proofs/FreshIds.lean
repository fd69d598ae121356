import Storefront.Proofs.ServiceRun

/-
  Fresh ids, and rows found by their id.

  The shop numbers the ids it hands out: the `n`-th is `idNumbered n`, a fixed prefix and `n`
  in lowercase hexadecimal, padded with zeros to twelve digits.  Different numbers give
  different ids (`idNumbered_injective`): leading zeros aside, the digits spell the number.

  The ids of a table are fresh for a count `n` (`IdsFresh`) when they are distinct and none of
  them is an id numbered above `n`.  The next id handed out is then new to the table, and the
  table with a row of that id is fresh for `n + 1`.  A shop is well formed (`WellFormed`) when
  its users, products and categories are fresh for the number of ids it has handed out; a shop
  with empty tables is.

  A table is read by id with `find?`, which gives the first row of the id.  The lemmas at the
  end say how adding a row of a new id, changing rows without changing their ids, and removing
  the rows of one id change what a lookup gives.
-/

namespace Storefront.Shop

/-! ## The numbering of ids -/

/-- The value of a hexadecimal digit as `Nat.digitChar` writes it. -/
def hexDigitValue (c : Char) : Nat :=
  ((List.range 16).find? (Nat.digitChar · = c)).getD 0

theorem hexDigitValue_digitChar {d : Nat} (h : d < 16) : hexDigitValue (Nat.digitChar d) = d := by
  have hall : ∀ d : Fin 16, hexDigitValue (Nat.digitChar d) = d := by decide
  exact hall ⟨d, h⟩

/-- The number a list of hexadecimal digits spells. -/
def hexNumber (cs : List Char) : Nat :=
  cs.foldl (fun acc c => 16 * acc + hexDigitValue c) 0

theorem hexNumber_append_digit (cs : List Char) (c : Char) :
    hexNumber (cs ++ [c]) = 16 * hexNumber cs + hexDigitValue c := by
  simp only [hexNumber, List.foldl_append, List.foldl_cons, List.foldl_nil]

/-- The digits `Nat.toDigits` writes spell the number. -/
theorem hexNumber_toDigits (n : Nat) : hexNumber (Nat.toDigits 16 n) = n := by
  induction n using Nat.strongRecOn with
  | ind n ih =>
    rw [Nat.toDigits_eq_if (by decide)]
    split
    · next hlt =>
      show 16 * 0 + hexDigitValue (Nat.digitChar n) = n
      rw [hexDigitValue_digitChar hlt]
      omega
    · next hge =>
      -- the last digit is the remainder, the others spell the quotient
      rw [hexNumber_append_digit, ih (n / 16) (by omega),
        hexDigitValue_digitChar (Nat.mod_lt n (by decide))]
      omega

/-- Leading zeros do not change the number. -/
theorem hexNumber_zeros_append (k : Nat) (cs : List Char) :
    hexNumber (List.replicate k '0' ++ cs) = hexNumber cs := by
  have hzeros : hexNumber (List.replicate k '0') = 0 := by
    induction k with
    | zero => rfl
    | succ k ih =>
      rw [List.replicate_succ', hexNumber_append_digit, ih]
      rfl
  unfold hexNumber at hzeros ⊢
  rw [List.foldl_append, hzeros]

theorem hexNumber_hexPadded (width n : Nat) : hexNumber (hexPadded width n).toList = n := by
  rw [hexPadded, String.toList_ofList, hexNumber_zeros_append, hexNumber_toDigits]

/-- Every digit `Nat.toDigits` writes is the digit of a value below the base. -/
theorem mem_toDigits {base n : Nat} {c : Char} (hbase : 1 < base)
    (h : c ∈ Nat.toDigits base n) : ∃ d < base, c = Nat.digitChar d := by
  induction n using Nat.strongRecOn with
  | ind n ih =>
    rw [Nat.toDigits_eq_if hbase] at h
    split at h
    · next hlt => exact ⟨n, hlt, List.mem_singleton.1 h⟩
    · next hge =>
      rcases List.mem_append.1 h with hhigh | hlast
      · exact ih (n / base) (Nat.div_lt_self (by omega) hbase) hhigh
      · exact ⟨n % base, Nat.mod_lt n (by omega), List.mem_singleton.1 hlast⟩

/-- The characters of a numbered id are hyphens and hexadecimal digits. -/
theorem idNumbered_char {n : Nat} {c : Char} (h : c ∈ (idNumbered n).toList) :
    c = '-' ∨ ∃ d < 16, c = Nat.digitChar d := by
  have hprefix : ∀ c ∈ "7c9e6679-7425-40de-944b-".toList,
      c = '-' ∨ ∃ d < 16, c = Nat.digitChar d := by
    simp
  unfold idNumbered at h
  rw [String.toList_append] at h
  rcases List.mem_append.1 h with hpre | hpad
  · exact hprefix c hpre
  -- the number, padded with zeros
  unfold hexPadded at hpad
  rw [String.toList_ofList] at hpad
  rcases List.mem_append.1 hpad with hzero | hdigit
  · exact .inr ⟨0, by decide, (List.eq_of_mem_replicate hzero).trans rfl⟩
  · exact .inr (mem_toDigits (by decide) hdigit)

/-- **Different numbers give different ids.** -/
theorem idNumbered_injective : Function.Injective idNumbered := by
  intro a b h
  have hdigits : (hexPadded 12 a).toList = (hexPadded 12 b).toList := by
    have hlists := congrArg String.toList h
    unfold idNumbered at hlists
    rw [String.toList_append, String.toList_append] at hlists
    exact List.append_cancel_left hlists
  calc
    a = hexNumber (hexPadded 12 a).toList := (hexNumber_hexPadded 12 a).symm
    _ = hexNumber (hexPadded 12 b).toList := by rw [hdigits]
    _ = b := hexNumber_hexPadded 12 b

/-! ## Tables whose ids are fresh -/

/-- The ids of a table are distinct, and none is an id numbered above `issued`. -/
structure IdsFresh (issued : Nat) (ids : List String) : Prop where
  nodup : ids.Nodup
  unissued : ∀ k, issued < k → idNumbered k ∉ ids

namespace IdsFresh

variable {n m : Nat} {ids ids' : List String}

theorem nil (n : Nat) : IdsFresh n [] := ⟨List.nodup_nil, fun _ _ h => nomatch h⟩

/-- Handing out more ids keeps a table fresh. -/
theorem mono (h : IdsFresh n ids) (hle : n ≤ m) : IdsFresh m ids :=
  ⟨h.nodup, fun k hk => h.unissued k (by omega)⟩

/-- The next id is new to the table. -/
theorem next_not_mem (h : IdsFresh n ids) : idNumbered (n + 1) ∉ ids :=
  h.unissued (n + 1) (by omega)

/-- A row of the next id keeps the table fresh once that id is handed out. -/
theorem append_next (h : IdsFresh n ids) : IdsFresh (n + 1) (ids ++ [idNumbered (n + 1)]) := by
  refine ⟨?_, ?_⟩
  · rw [List.nodup_append]
    refine ⟨h.nodup, by simp, ?_⟩
    intro a ha b hb hab
    rw [List.mem_singleton.1 hb] at hab
    exact h.next_not_mem (hab ▸ ha)
  · intro k hk hmem
    rcases List.mem_append.1 hmem with hold | hnew
    · exact h.unissued k (by omega) hold
    · -- the new id is numbered `n + 1`, below `k`
      have hsame := idNumbered_injective (List.mem_singleton.1 hnew)
      omega

/-- Removing rows keeps a table fresh. -/
theorem sublist (h : IdsFresh n ids) (hs : ids'.Sublist ids) : IdsFresh n ids' :=
  ⟨h.nodup.sublist hs, fun k hk hmem => h.unissued k hk (hs.subset hmem)⟩

end IdsFresh

/-- A shop is well formed: the ids of its users, products and categories are fresh for the
number of ids it has handed out. -/
structure WellFormed (s : State) : Prop where
  users : IdsFresh s.issued (s.tables.users.map (·.id))
  products : IdsFresh s.issued (s.tables.products.map (·.id))
  categories : IdsFresh s.issued (s.tables.categories.map (·.id))

/-- A shop with empty tables is well formed, whatever it has handed out. -/
theorem WellFormed.of_empty {s : State} (husers : s.tables.users = [])
    (hproducts : s.tables.products = []) (hcategories : s.tables.categories = []) :
    WellFormed s := by
  refine ⟨?_, ?_, ?_⟩
  · rw [husers]
    exact IdsFresh.nil _
  · rw [hproducts]
    exact IdsFresh.nil _
  · rw [hcategories]
    exact IdsFresh.nil _

/-! ## Rows found by their id -/

section Keyed

variable {α : Type} (key : α → String)

/-- The first row of a key finds nothing once no row has it. -/
theorem find?_key_eq_none {l : List α} {k : String} (h : k ∉ l.map key) :
    l.find? (fun r => key r == k) = none := by
  rw [List.find?_eq_none]
  intro r hr hk
  exact h (List.mem_map.2 ⟨r, hr, beq_iff_eq.1 hk⟩)

/-- A row of a new key is found by its key, and changes no other lookup. -/
theorem find?_append_new {l : List α} {r : α} (hnew : key r ∉ l.map key) (k : String) :
    (l ++ [r]).find? (fun x => key x == k) =
      if key r = k then some r else l.find? (fun x => key x == k) := by
  rw [List.find?_append]
  by_cases hk : key r = k
  · subst hk
    rw [find?_key_eq_none key hnew, if_pos rfl]
    simp
  · rw [if_neg hk]
    simp [hk]

/-- Changing rows without changing their keys changes what a lookup finds in the same way. -/
theorem find?_map_keyed {l : List α} {f : α → α} (hf : ∀ r, key (f r) = key r) (k : String) :
    (l.map f).find? (fun x => key x == k) = (l.find? (fun x => key x == k)).map f := by
  rw [List.find?_map]
  congr 2
  funext r
  simp only [Function.comp, hf]

/-- Removing the rows of one key finds nothing under it, and changes no other lookup. -/
theorem find?_filter_key_ne (l : List α) (j k : String) :
    (l.filter (fun x => key x != j)).find? (fun x => key x == k) =
      if j = k then none else l.find? (fun x => key x == k) := by
  rw [List.find?_filter]
  by_cases hjk : j = k
  · subst hjk
    rw [if_pos rfl, List.find?_eq_none]
    intro r _ hr
    simp at hr
  · rw [if_neg hjk]
    congr 1
    funext r
    by_cases hr : key r = k
    · simp [hr, Ne.symm hjk]
    · simp [hr]

/-- No row has a key exactly when a lookup of it finds nothing. -/
theorem filter_key_eq_nil_iff (l : List α) (k : String) :
    l.filter (fun x => key x == k) = [] ↔ l.find? (fun x => key x == k) = none := by
  rw [List.filter_eq_nil_iff, List.find?_eq_none]

/-- Removing the rows of a key removes some row exactly when a lookup of it finds one. -/
theorem length_sub_filter_key_ne_eq_zero (l : List α) (k : String) :
    l.length - (l.filter (fun x => key x != k)).length = 0 ↔
      l.find? (fun x => key x == k) = none := by
  rw [Nat.sub_eq_zero_iff_le, List.find?_eq_none]
  constructor
  · intro hle x hx hk
    have hall := List.length_filter_eq_length_iff.1
      (Nat.le_antisymm (List.length_filter_le _ _) hle) x hx
    simp_all
  · intro hnone
    have hsame : l.filter (fun x => key x != k) = l :=
      List.filter_eq_self.2 fun x hx => by simpa using hnone x hx
    exact Nat.le_of_eq (congrArg List.length hsame).symm

end Keyed

end Storefront.Shop
