import Storefront.Sql.Update
import Storefront.Json.Record
import Storefront.Time.Instant
import Storefront.Validation.Record

/-
  Categories of the catalog: a name each.  A new category is read from a record with a
  required name; a change from a record whose name may be absent, and then changes nothing.
-/

namespace Storefront.Catalog

open Storefront.Json Storefront.Sql Storefront.Time

/-- The one column of the categories table that a change can set. -/
inductive CategoryColumn where
  | name
  deriving DecidableEq, Repr

instance : Column CategoryColumn where
  table := "categories"
  name := fun _ => "name"
  rank := fun _ => 0
  rank_injective := fun a b _ => by cases a; cases b; rfl

/-- The column with a given SQL name. -/
def CategoryColumn.ofName? (name : String) : Option CategoryColumn :=
  if name = "name" then some .name else none

/-- A category row. -/
structure Category where
  id : String
  name : String
  createdAt : Instant
  deriving DecidableEq, Repr

/-- A change to a category. -/
structure CategoryPatch where
  name : Option String := none
  deriving DecidableEq, Repr

/-- The record a new category is read from. -/
def Category.draftShape : Shape :=
  { name := "CreateCategoryInput", fields := [⟨"name", .text, .required⟩] }

/-- The name of a new category from the fields read by `Category.draftShape`. -/
def Category.draftName (e : List Entry) : String :=
  (entryText? e "name").getD ""

/-- The rules a new category's name must keep: at least one character. -/
def Category.nameChecks (name : String) : List (String × String × Validation.Rule) :=
  [("name", name, .minLength 1)]

/-- The rules of a new category's record, on its fields as read. -/
def Category.draftRules : Validation.Rules := fun e => Category.nameChecks (Category.draftName e)

/-- The record a category change is read from. -/
def CategoryPatch.shape : Shape :=
  { name := "UpdateCategoryInput", fields := [⟨"name", .text, .optional⟩] }

/-- A patch from the fields read by `CategoryPatch.shape`. -/
def CategoryPatch.ofEntries (e : List Entry) : CategoryPatch :=
  { name := entryText? e "name" }

/-- The patch a JSON value describes. -/
def CategoryPatch.ofValue (v : Value) : Except Failure CategoryPatch :=
  (CategoryPatch.shape.readValue v).map CategoryPatch.ofEntries

/-- The partial update a patch makes. -/
def CategoryPatch.toUpdate (p : CategoryPatch) : Update CategoryColumn :=
  Update.empty.set .name (p.name.map .text)

namespace Category

/-- The row after an update's assignments. -/
def applyUpdate (r : Category) (u : Update CategoryColumn) : Category :=
  u.assignments.foldl
    (fun r a => match a.2 with
      | .text s => { r with name := s }
      | .int n => { r with name := toString n })
    r

/-- The category as a JSON object. -/
def toJson (r : Category) : Value :=
  .obj [("id", .str r.id), ("name", .str r.name), ("created_at", .str r.createdAt.rfc3339)]

end Category

end Storefront.Catalog
