/-
  Partial updates of one table row, and the statement that applies them.

  A partial update is a list of column assignments.  `set c (some v)` gives column `c` the
  value `v`, replacing the value an earlier `set` gave it or else appending the assignment;
  `set c none` changes nothing.  `build` writes the statement

      UPDATE <table> SET c₁=$1, c₂=$2, …, cₖ=$k WHERE id=$(k+1)

  with the assigned columns in their declaration order, and binds their values in the same
  order followed by the row id.  An update with no assignment writes `SET  WHERE id=$1`, and
  is never run (`isEmpty`).
-/

namespace Storefront.Sql

/-- A value bound to a placeholder: text or a 64-bit integer. -/
inductive Param where
  | text (s : String)
  | int (n : Int)
  deriving DecidableEq, Repr

/-- The columns of one table: the table's name, each column's name, and their declaration
order as distinct ranks. -/
class Column (C : Type) where
  table : String
  name : C → String
  rank : C → Nat
  /-- Two columns have one rank only when they are the same column. -/
  rank_injective : Function.Injective rank

/-- A statement and the values bound to its placeholders `$1, $2, …`. -/
structure Statement where
  sql : String
  params : List Param
  deriving DecidableEq, Repr

/-- Column assignments, in the order they were first made. -/
structure Update (C : Type) where
  assignments : List (C × Param)
  deriving Repr

namespace Update

variable {C : Type}

/-- No assignment. -/
def empty : Update C := ⟨[]⟩

/-- Gives `c` the value `v`: in place of its earlier value, or as a new last assignment. -/
def assign [DecidableEq C] : List (C × Param) → C → Param → List (C × Param)
  | [], c, v => [(c, v)]
  | (d, w) :: rest, c, v => if d = c then (c, v) :: rest else (d, w) :: assign rest c v

/-- Records a present value for a column; an absent one changes nothing. -/
def set [DecidableEq C] (u : Update C) (c : C) : Option Param → Update C
  | none => u
  | some v => ⟨assign u.assignments c v⟩

/-- The update made by a sequence of `set` calls, starting from no assignment. -/
def ofSets [DecidableEq C] (sets : List (C × Option Param)) : Update C :=
  sets.foldl (fun u s => u.set s.1 s.2) empty

/-- Whether no column is assigned. -/
def isEmpty (u : Update C) : Bool := u.assignments.isEmpty

/-- The assignments in declaration order of their columns. -/
def ordered [Column C] (u : Update C) : List (C × Param) :=
  u.assignments.mergeSort fun a b => Column.rank a.1 ≤ Column.rank b.1

/-- The clause `name=$i` of one assigned column. -/
def clause [Column C] (c : C) (i : Nat) : String :=
  Column.name c ++ "=$" ++ toString i

/-- The statement that applies the update to row `id`. -/
def build [Column C] (u : Update C) (id : String) : Statement :=
  let cols := u.ordered
  let clauses := (cols.zipIdx 1).map fun (a, i) => clause a.1 i
  { sql := "UPDATE " ++ @Column.table C _ ++ " SET " ++ ", ".intercalate clauses ++
      " WHERE id=$" ++ toString (cols.length + 1)
    params := cols.map Prod.snd ++ [.text id] }

end Update

end Storefront.Sql
