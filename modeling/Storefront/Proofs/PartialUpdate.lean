import Mathlib.Data.List.Induction
import Mathlib.Data.List.Sort
import Storefront.Catalog.Product

/-
  Partial updates: the statement `build` writes after any history of `set` calls.

  A history is a list of calls `set c o` made in order on the empty update (`ofSets`).  Two
  facts carry everything.

  * The assignments never hold a column twice (`Keyed`).  So `set c (some v)` either replaces
    the one assignment of `c` or appends one, and after a history a column is assigned exactly
    when some call gave it a present value, with the LAST such value (`lastSet`); an absent
    value given later changes nothing (`mem_ofSets`).
  * `ordered` sorts the assignments by rank.  Distinct columns have distinct ranks and no column
    is assigned twice, so the ranks strictly increase (`ordered_pairwise`), and a list whose
    ranks strictly increase is fixed by its members.

  `build` then numbers the sorted clauses from 1 and binds their values in the same order, the
  row id last (`build_ofSets`).  The text of the statement depends only on which columns are
  present (`build_sql_eq_of_present`), and a product patch writes exactly its present fields in
  column order (`ProductPatch.build_toUpdate`).
-/

namespace Storefront.Sql.Update

/-- No column is assigned twice. -/
def Keyed {C : Type} (u : Update C) : Prop := (u.assignments.map Prod.fst).Nodup

theorem keyed_empty {C : Type} : (empty : Update C).Keyed := List.nodup_nil

section History

variable {C : Type} [DecidableEq C]

/-! ## The last present value of each column -/

/-- The value the last call of a history with a present value gave column `c`. -/
def lastSet (sets : List (C × Option Param)) (c : C) : Option Param :=
  (sets.filterMap fun s => if s.1 = c then s.2 else none).getLast?

@[simp] theorem lastSet_nil (c : C) : lastSet ([] : List (C × Option Param)) c = none := rfl

/-- A call on another column leaves the last value of `c` alone; a call on `c` replaces it when
its value is present. -/
theorem lastSet_append_singleton (sets : List (C × Option Param)) (d : C) (o : Option Param)
    (c : C) :
    lastSet (sets ++ [(d, o)]) c = if d = c then o.or (lastSet sets c) else lastSet sets c := by
  by_cases h : d = c
  · cases o <;> simp [lastSet, h]
  · simp [lastSet, h]

/-- A history that never names `c` gives it no value. -/
theorem lastSet_eq_none {sets : List (C × Option Param)} {c : C}
    (h : c ∉ sets.map Prod.fst) : lastSet sets c = none := by
  have hnone : (sets.filterMap fun s => if s.1 = c then s.2 else none) = [] := by
    rw [List.filterMap_eq_nil_iff]
    intro s hs
    have hne : s.1 ≠ c := fun he => h (List.mem_map.2 ⟨s, hs, he⟩)
    simp [hne]
  simp [lastSet, hnone]

/-- When a history names each column at most once, the last value of `c` is the value of its
one call. -/
theorem lastSet_eq_some_iff {sets : List (C × Option Param)} (h : (sets.map Prod.fst).Nodup)
    (c : C) (v : Param) : lastSet sets c = some v ↔ (c, some v) ∈ sets := by
  induction sets using List.reverseRecOn with
  | nil => simp
  | append_singleton sets s ih =>
    obtain ⟨d, o⟩ := s
    rw [List.map_append, List.nodup_append] at h
    rw [lastSet_append_singleton, List.mem_append, List.mem_singleton]
    by_cases hd : d = c
    · subst hd
      have hfresh : d ∉ sets.map Prod.fst := fun hm => h.2.2 d hm d (by simp) rfl
      have hout : (d, some v) ∉ sets := fun hm => hfresh (List.mem_map.2 ⟨_, hm, rfl⟩)
      simp [lastSet_eq_none hfresh, hout, eq_comm]
    · simp [hd, Ne.symm hd, ih h.1]

/-! ## Assignments never name a column twice -/

theorem fst_mem_assign (a : List (C × Param)) (c d : C) (v : Param) :
    d ∈ (assign a c v).map Prod.fst ↔ d = c ∨ d ∈ a.map Prod.fst := by
  induction a with
  | nil => simp [assign]
  | cons e rest ih =>
    obtain ⟨e1, e2⟩ := e
    by_cases he : e1 = c
    · subst he
      simp [assign]
    · simp only [assign, he, if_false, List.map_cons, List.mem_cons, ih]
      tauto

theorem nodup_assign {a : List (C × Param)} (h : (a.map Prod.fst).Nodup) (c : C) (v : Param) :
    ((assign a c v).map Prod.fst).Nodup := by
  induction a with
  | nil => simp [assign]
  | cons e rest ih =>
    obtain ⟨e1, e2⟩ := e
    rw [List.map_cons, List.nodup_cons] at h
    by_cases he : e1 = c
    · subst he
      simpa [assign] using h
    · rw [assign, if_neg he, List.map_cons, List.nodup_cons, fst_mem_assign]
      exact ⟨fun hm => hm.elim he h.1, ih h.2⟩

/-- Where no column is assigned twice, `assign` replaces the assignment of `c`, or adds one. -/
theorem mem_assign {a : List (C × Param)} (h : (a.map Prod.fst).Nodup) (c d : C) (v w : Param) :
    (d, w) ∈ assign a c v ↔ (d = c ∧ w = v) ∨ (d ≠ c ∧ (d, w) ∈ a) := by
  induction a with
  | nil => simp [assign]
  | cons e rest ih =>
    obtain ⟨e1, e2⟩ := e
    rw [List.map_cons, List.nodup_cons] at h
    by_cases he : e1 = c
    · subst he
      -- the one assignment of `e1` is at the head, so nothing in `rest` names it
      have hrest : ∀ w', (e1, w') ∉ rest := fun w' hm => h.1 (List.mem_map.2 ⟨_, hm, rfl⟩)
      simp only [assign, if_true, List.mem_cons, Prod.mk.injEq]
      constructor
      · rintro (⟨rfl, rfl⟩ | hm)
        · exact .inl ⟨rfl, rfl⟩
        · exact .inr ⟨fun hd => hrest w (hd ▸ hm), .inr hm⟩
      · rintro (⟨rfl, rfl⟩ | ⟨hd, ⟨rfl, rfl⟩ | hm⟩)
        · exact .inl ⟨rfl, rfl⟩
        · exact absurd rfl hd
        · exact .inr hm
    · simp only [assign, he, if_false, List.mem_cons, Prod.mk.injEq, ih h.2]
      constructor
      · rintro (⟨rfl, rfl⟩ | h' | h')
        · exact .inr ⟨he, .inl ⟨rfl, rfl⟩⟩
        · exact .inl h'
        · exact .inr ⟨h'.1, .inr h'.2⟩
      · rintro (h' | ⟨hd, ⟨rfl, rfl⟩ | hm⟩)
        · exact .inr (.inl h')
        · exact .inl ⟨rfl, rfl⟩
        · exact .inr (.inr ⟨hd, hm⟩)

theorem keyed_set {u : Update C} (hu : u.Keyed) (c : C) (o : Option Param) : (u.set c o).Keyed := by
  cases o with
  | none => exact hu
  | some v => exact nodup_assign hu c v

theorem ofSets_append_singleton (sets : List (C × Option Param)) (s : C × Option Param) :
    ofSets (sets ++ [s]) = (ofSets sets).set s.1 s.2 := by
  simp [ofSets, List.foldl_append]

theorem keyed_ofSets (sets : List (C × Option Param)) : (ofSets sets).Keyed := by
  induction sets using List.reverseRecOn with
  | nil => exact keyed_empty
  | append_singleton sets s ih =>
    rw [ofSets_append_singleton]
    exact keyed_set ih s.1 s.2

/-- After a history, a column holds exactly the last present value a call gave it. -/
theorem mem_ofSets (sets : List (C × Option Param)) (c : C) (v : Param) :
    (c, v) ∈ (ofSets sets).assignments ↔ lastSet sets c = some v := by
  induction sets using List.reverseRecOn with
  | nil => simp [ofSets, empty]
  | append_singleton sets s ih =>
    obtain ⟨d, o⟩ := s
    rw [ofSets_append_singleton, lastSet_append_singleton]
    cases o with
    | none => simpa [set] using ih
    | some w =>
      rw [set, mem_assign (keyed_ofSets sets), ih]
      by_cases hd : d = c
      · subst hd
        simp [eq_comm]
      · simp [hd, Ne.symm hd]

end History

/-! ## Sorting by rank -/

section Sorting

variable {C : Type} [Column C]

theorem ordered_perm (u : Update C) : u.ordered.Perm u.assignments :=
  List.mergeSort_perm _ _

/-- The sorted assignments of an update that names no column twice: their ranks strictly
increase. -/
theorem ordered_pairwise {u : Update C} (hu : u.Keyed) :
    u.ordered.Pairwise fun a b => Column.rank a.1 < Column.rank b.1 := by
  have hle : u.ordered.Pairwise fun a b => Column.rank a.1 ≤ Column.rank b.1 := by
    have h := @List.pairwise_mergeSort _
      (fun a b : C × Param => decide (Column.rank a.1 ≤ Column.rank b.1))
      (fun a b c hab hbc => by simp only [decide_eq_true_eq] at *; omega)
      (fun a b => by simp only [Bool.or_eq_true, decide_eq_true_eq]; omega) u.assignments
    simpa [ordered] using h
  have hne : u.ordered.Pairwise fun a b => a.1 ≠ b.1 :=
    List.pairwise_map.1 (((ordered_perm u).map Prod.fst).nodup_iff.2 hu)
  exact (hle.and hne).imp fun ⟨hab, hne⟩ =>
    Nat.lt_of_le_of_ne hab fun heq => hne (Column.rank_injective heq)

/-- Two lists of assignments whose ranks strictly increase and that hold the same assignments
are equal. -/
theorem eq_of_rank_pairwise {a b : List (C × Param)}
    (ha : a.Pairwise fun x y => Column.rank x.1 < Column.rank y.1)
    (hb : b.Pairwise fun x y => Column.rank x.1 < Column.rank y.1)
    (h : ∀ x, x ∈ a ↔ x ∈ b) : a = b := by
  have : Std.Irrefl fun x y : C × Param => Column.rank x.1 < Column.rank y.1 :=
    ⟨fun x => Nat.lt_irrefl _⟩
  exact List.Pairwise.eq_of_mem_iff ha hb h

/-- The text of the statement depends on the sorted columns only: not on their values, not on
the row id. -/
theorem build_sql (u : Update C) (id : String) :
    (u.build id).sql = "UPDATE " ++ Column.table (C := C) ++ " SET " ++ ", ".intercalate
        (((u.ordered.map Prod.fst).zipIdx 1).map fun (c, i) => clause c i) ++
      " WHERE id=$" ++ toString ((u.ordered.map Prod.fst).length + 1) := by
  simp only [build, List.zipIdx_map, List.map_map, List.length_map]
  rfl

end Sorting

/-! ## The statement -/

variable {C : Type} [DecidableEq C] [Column C]

/-- **The statement of a history.**  After any sequence of `set` calls, `build` names the
columns that received a present value, once each and in rank order, with the last such value of
each, and binds the row id last: `UPDATE t SET c₁=$1, …, cₖ=$k WHERE id=$(k+1)`. -/
theorem build_ofSets (sets : List (C × Option Param)) (id : String) :
    ∃ assigned : List (C × Param),
      assigned.Pairwise (fun a b => Column.rank a.1 < Column.rank b.1) ∧
      (∀ c v, (c, v) ∈ assigned ↔ lastSet sets c = some v) ∧
      (ofSets sets).build id =
        { sql := "UPDATE " ++ Column.table (C := C) ++ " SET " ++ ", ".intercalate
              ((assigned.zipIdx 1).map fun (a, i) => Column.name a.1 ++ "=$" ++ toString i) ++
            " WHERE id=$" ++ toString (assigned.length + 1)
          params := assigned.map Prod.snd ++ [.text id] } := by
  refine ⟨(ofSets sets).ordered, ordered_pairwise (keyed_ofSets sets), fun c v => ?_, rfl⟩
  rw [(ordered_perm _).mem_iff, mem_ofSets]

/-- Two histories that give present values to the same columns write the same text, whatever
the values, their order, the absent values and the row ids. -/
theorem build_sql_eq_of_present {sets sets' : List (C × Option Param)}
    (h : ∀ c, (lastSet sets c).isSome = (lastSet sets' c).isSome) (id id' : String) :
    ((ofSets sets).build id).sql = ((ofSets sets').build id').sql := by
  -- the sorted columns of both are strictly increasing in rank with the same members
  have hcols : (ofSets sets).ordered.map Prod.fst = (ofSets sets').ordered.map Prod.fst := by
    have : Std.Irrefl fun c d : C => Column.rank c < Column.rank d := ⟨fun c => Nat.lt_irrefl _⟩
    refine List.Pairwise.eq_of_mem_iff
      ((List.pairwise_map (R := fun c d : C => Column.rank c < Column.rank d)).2
        (ordered_pairwise (keyed_ofSets sets)))
      ((List.pairwise_map (R := fun c d : C => Column.rank c < Column.rank d)).2
        (ordered_pairwise (keyed_ofSets sets'))) fun c => ?_
    have hpresent : ∀ s : List (C × Option Param),
        c ∈ (ofSets s).ordered.map Prod.fst ↔ (lastSet s c).isSome := by
      intro s
      simp only [List.mem_map, Prod.exists, exists_and_right, exists_eq_right,
        (ordered_perm _).mem_iff, mem_ofSets, Option.isSome_iff_exists]
    rw [hpresent, hpresent, h]
  rw [build_sql, build_sql, hcols]

end Storefront.Sql.Update

namespace Storefront.Catalog

open Storefront.Sql

/-! ## Product patches -/

/-- A patch's nine fields as `set` calls, in column order; an absent field gives `none`. -/
def ProductPatch.sets (p : ProductPatch) : List (ProductColumn × Option Param) :=
  [(.title, p.title.map .text), (.image, p.image.map .text),
    (.price, p.price.map fun n => .int n), (.sale, p.sale.map fun n => .int n),
    (.saleOldPrice, p.saleOldPrice.map fun n => .int n), (.categoryId, p.categoryId.map .text),
    (.kind, p.kind.map .text), (.subtype, p.subtype.map .text),
    (.description, p.description.map .text)]

/-- The present fields of a patch with their values, in column order. -/
def ProductPatch.present (p : ProductPatch) : List (ProductColumn × Param) :=
  p.sets.filterMap fun s => s.2.map (s.1, ·)

namespace ProductPatch

theorem toUpdate_eq_ofSets (p : ProductPatch) : p.toUpdate = Update.ofSets p.sets := rfl

theorem sets_columns (p : ProductPatch) : p.sets.map Prod.fst = ProductColumn.all := rfl

theorem mem_present (p : ProductPatch) (c : ProductColumn) (v : Param) :
    (c, v) ∈ p.present ↔ (c, some v) ∈ p.sets := by
  simp only [present, List.mem_filterMap, Option.map_eq_some_iff, Prod.mk.injEq]
  constructor
  · rintro ⟨⟨d, o⟩, hs, w, rfl, rfl, rfl⟩
    exact hs
  · intro hs
    exact ⟨(c, some v), hs, v, rfl, rfl, rfl⟩

/-- The present fields come in strictly increasing rank. -/
theorem present_pairwise (p : ProductPatch) :
    p.present.Pairwise fun a b => ProductColumn.rank a.1 < ProductColumn.rank b.1 := by
  have hall : ProductColumn.all.Pairwise fun a b => a.rank < b.rank := by decide
  have hsets : p.sets.Pairwise fun a b => ProductColumn.rank a.1 < ProductColumn.rank b.1 := by
    rw [← p.sets_columns] at hall
    exact (List.pairwise_map (R := fun a b : ProductColumn => a.rank < b.rank)).1 hall
  rw [present, List.pairwise_filterMap]
  refine hsets.imp ?_
  rintro ⟨c, o⟩ ⟨d, o'⟩ hlt x hx y hy
  obtain ⟨v, -, rfl⟩ := Option.map_eq_some_iff.1 hx
  obtain ⟨w, -, rfl⟩ := Option.map_eq_some_iff.1 hy
  exact hlt

/-- **A product patch writes its present fields.**  The statement names exactly the fields of
the patch that are present, once each, in the order title, image, price, sale, sale_old_price,
category_id, type, subtype, description, and binds their values in that order, then the id. -/
theorem build_toUpdate (p : ProductPatch) (id : String) :
    p.toUpdate.build id =
      { sql := "UPDATE products SET " ++ ", ".intercalate
            ((p.present.zipIdx 1).map fun (a, i) => a.1.sqlName ++ "=$" ++ toString i) ++
          " WHERE id=$" ++ toString (p.present.length + 1)
        params := p.present.map Prod.snd ++ [.text id] } := by
  obtain ⟨assigned, hsorted, hmem, hbuild⟩ := Update.build_ofSets p.sets id
  have hnodup : (p.sets.map Prod.fst).Nodup := by
    rw [p.sets_columns]
    decide
  -- both lists hold the present fields in strictly increasing rank, so they are one list
  have hassigned : assigned = p.present :=
    Update.eq_of_rank_pairwise hsorted p.present_pairwise fun ⟨c, v⟩ => by
      rw [hmem, Update.lastSet_eq_some_iff hnodup, p.mem_present]
  rw [p.toUpdate_eq_ofSets, hbuild, hassigned]
  rfl

end ProductPatch

end Storefront.Catalog

namespace Storefront.Sql.Update

open Storefront.Catalog

/-- Partial updates write the statement of the last present value of each column.  For every
column type and every history of `set` calls, `build` lists the columns that received a present
value in rank order with their last present values, then the id; the text depends only on which
columns are present; and a product patch lists exactly its present fields in column order. -/
theorem statement_of_sets :
    (∀ (C : Type) [DecidableEq C] [Column C] (sets : List (C × Option Param)) (id : String),
      ∃ assigned : List (C × Param),
        assigned.Pairwise (fun a b => Column.rank a.1 < Column.rank b.1) ∧
        (∀ c v, (c, v) ∈ assigned ↔ lastSet sets c = some v) ∧
        (ofSets sets).build id =
          { sql := "UPDATE " ++ Column.table (C := C) ++ " SET " ++ ", ".intercalate
                ((assigned.zipIdx 1).map fun (a, i) => Column.name a.1 ++ "=$" ++ toString i) ++
              " WHERE id=$" ++ toString (assigned.length + 1)
            params := assigned.map Prod.snd ++ [.text id] }) ∧
    (∀ (C : Type) [DecidableEq C] [Column C] (sets sets' : List (C × Option Param))
      (id id' : String), (∀ c, (lastSet sets c).isSome = (lastSet sets' c).isSome) →
        ((ofSets sets).build id).sql = ((ofSets sets').build id').sql) ∧
    (∀ (p : ProductPatch) (id : String),
      p.toUpdate.build id =
        { sql := "UPDATE products SET " ++ ", ".intercalate
              ((p.present.zipIdx 1).map fun (a, i) => a.1.sqlName ++ "=$" ++ toString i) ++
            " WHERE id=$" ++ toString (p.present.length + 1)
          params := p.present.map Prod.snd ++ [.text id] }) :=
  ⟨fun _ _ _ sets id => build_ofSets sets id,
    fun _ _ _ _ _ id id' h => build_sql_eq_of_present h id id',
    ProductPatch.build_toUpdate⟩

/-- Two product histories that name the same present columns, in another order, with other
values, a later absent value and other ids, write one text. -/
theorem statement_of_sets_reordered :
    ((ofSets [(ProductColumn.price, some (.int 5)), (.title, some (.text "a"))]).build "x").sql =
      ((ofSets [(ProductColumn.title, some (.text "b")), (.price, some (.int 7)),
        (.title, none)]).build "y").sql :=
  statement_of_sets.2.1 ProductColumn _ _ "x" "y" fun c => by cases c <;> rfl

end Storefront.Sql.Update
