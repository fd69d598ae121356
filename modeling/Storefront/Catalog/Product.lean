import Storefront.Sql.Update
import Storefront.Json.Record
import Storefront.Time.Instant
import Storefront.Validation.Record

/-
  Products of the catalog.

  A product has a title, an image URL (empty when it has none), a price, a sale and an old
  price, a category id, a type, a subtype and a description.  A new product is given by a
  `ProductDraft`, read from a record whose title and price are required and whose other fields
  default to the empty string or zero; a change is given by a `ProductPatch`, whose fields are
  each present or absent (an empty string or a zero is present).  A patch becomes a partial
  update of the product columns, in their declaration order: title, image, price, sale,
  sale_old_price, category_id, type, subtype, description.
-/

namespace Storefront.Catalog

open Storefront.Json Storefront.Sql Storefront.Time

/-- The columns of the products table that a patch can change, in declaration order. -/
inductive ProductColumn where
  | title
  | image
  | price
  | sale
  | saleOldPrice
  | categoryId
  | kind
  | subtype
  | description
  deriving DecidableEq, Repr

namespace ProductColumn

/-- Every column, in declaration order. -/
def all : List ProductColumn :=
  [.title, .image, .price, .sale, .saleOldPrice, .categoryId, .kind, .subtype, .description]

/-- The SQL name of a column. -/
def sqlName : ProductColumn → String
  | .title => "title"
  | .image => "image"
  | .price => "price"
  | .sale => "sale"
  | .saleOldPrice => "sale_old_price"
  | .categoryId => "category_id"
  | .kind => "type"
  | .subtype => "subtype"
  | .description => "description"

/-- The position of a column in declaration order. -/
def rank : ProductColumn → Nat
  | .title => 0
  | .image => 1
  | .price => 2
  | .sale => 3
  | .saleOldPrice => 4
  | .categoryId => 5
  | .kind => 6
  | .subtype => 7
  | .description => 8

/-- The column with a given SQL name. -/
def ofName? (name : String) : Option ProductColumn :=
  all.find? (·.sqlName == name)

theorem rank_injective : Function.Injective rank := by
  intro a b h
  cases a <;> cases b <;> simp [rank] at h ⊢

end ProductColumn

instance : Column ProductColumn where
  table := "products"
  name := ProductColumn.sqlName
  rank := ProductColumn.rank
  rank_injective := ProductColumn.rank_injective

/-- A product row. -/
structure Product where
  id : String
  title : String
  image : String
  price : Int
  sale : Int
  saleOldPrice : Int
  categoryId : String
  kind : String
  subtype : String
  description : String
  createdAt : Instant
  deriving DecidableEq, Repr

/-- A new product's fields. -/
structure ProductDraft where
  title : String
  image : String
  price : Nat
  sale : Nat
  saleOldPrice : Nat
  categoryId : String
  kind : String
  subtype : String
  description : String
  deriving DecidableEq, Repr

/-- A change to a product: each field present or absent. -/
structure ProductPatch where
  title : Option String := none
  image : Option String := none
  price : Option Nat := none
  sale : Option Nat := none
  saleOldPrice : Option Nat := none
  categoryId : Option String := none
  kind : Option String := none
  subtype : Option String := none
  description : Option String := none
  deriving DecidableEq, Repr

/-- The record a new product is read from. -/
def ProductDraft.shape : Shape :=
  { name := "CreateProductInput"
    fields := [⟨"title", .text, .required⟩, ⟨"image", .text, .defaulted⟩,
      ⟨"price", .count, .required⟩, ⟨"sale", .count, .defaulted⟩,
      ⟨"sale_old_price", .count, .defaulted⟩, ⟨"category_id", .text, .defaulted⟩,
      ⟨"type", .text, .defaulted⟩, ⟨"subtype", .text, .defaulted⟩,
      ⟨"description", .text, .defaulted⟩] }

/-- The record a product change is read from. -/
def ProductPatch.shape : Shape :=
  { name := "UpdateProductInput"
    fields := [⟨"title", .text, .optional⟩, ⟨"image", .text, .optional⟩,
      ⟨"price", .count, .optional⟩, ⟨"sale", .count, .optional⟩,
      ⟨"sale_old_price", .count, .optional⟩, ⟨"category_id", .text, .optional⟩,
      ⟨"type", .text, .optional⟩, ⟨"subtype", .text, .optional⟩,
      ⟨"description", .text, .optional⟩] }

/-- A draft from the fields read by `ProductDraft.shape`. -/
def ProductDraft.ofEntries (e : List Entry) : ProductDraft :=
  { title := (entryText? e "title").getD ""
    image := (entryText? e "image").getD ""
    price := (entryCount? e "price").getD 0
    sale := (entryCount? e "sale").getD 0
    saleOldPrice := (entryCount? e "sale_old_price").getD 0
    categoryId := (entryText? e "category_id").getD ""
    kind := (entryText? e "type").getD ""
    subtype := (entryText? e "subtype").getD ""
    description := (entryText? e "description").getD "" }

/-- The rules a new product must keep: a title of at least one character. -/
def ProductDraft.checks (d : ProductDraft) : List (String × String × Validation.Rule) :=
  [("title", d.title, .minLength 1)]

/-- The rules of a new product's record, on its fields as read. -/
def ProductDraft.rules : Validation.Rules := fun e => (ProductDraft.ofEntries e).checks

/-- A patch from the fields read by `ProductPatch.shape`. -/
def ProductPatch.ofEntries (e : List Entry) : ProductPatch :=
  { title := entryText? e "title"
    image := entryText? e "image"
    price := entryCount? e "price"
    sale := entryCount? e "sale"
    saleOldPrice := entryCount? e "sale_old_price"
    categoryId := entryText? e "category_id"
    kind := entryText? e "type"
    subtype := entryText? e "subtype"
    description := entryText? e "description" }

/-- The patch a JSON value describes. -/
def ProductPatch.ofValue (v : Value) : Except Failure ProductPatch :=
  (ProductPatch.shape.readValue v).map ProductPatch.ofEntries

/-- The partial update a patch makes: its present fields, counts as integers, in column
order. -/
def ProductPatch.toUpdate (p : ProductPatch) : Update ProductColumn :=
  (((((((((Update.empty.set .title (p.title.map .text)).set .image (p.image.map .text)).set
    .price (p.price.map fun n => .int n)).set .sale (p.sale.map fun n => .int n)).set
    .saleOldPrice (p.saleOldPrice.map fun n => .int n)).set .categoryId
    (p.categoryId.map .text)).set .kind (p.kind.map .text)).set .subtype
    (p.subtype.map .text)).set .description (p.description.map .text))

namespace Product

/-- The product a draft creates. -/
def ofDraft (id : String) (d : ProductDraft) (now : Instant) : Product :=
  { id := id, title := d.title, image := d.image, price := d.price, sale := d.sale,
    saleOldPrice := d.saleOldPrice, categoryId := d.categoryId, kind := d.kind,
    subtype := d.subtype, description := d.description, createdAt := now }

/-- The text a parameter binds, for a text column. -/
def paramText (p : Param) : String :=
  match p with
  | .text s => s
  | .int n => toString n

/-- The integer a parameter binds, for an integer column. -/
def paramInt (p : Param) : Int :=
  match p with
  | .int n => n
  | .text _ => 0

/-- One column assignment applied to the row. -/
def assign (r : Product) : ProductColumn × Param → Product
  | (.title, v) => { r with title := paramText v }
  | (.image, v) => { r with image := paramText v }
  | (.price, v) => { r with price := paramInt v }
  | (.sale, v) => { r with sale := paramInt v }
  | (.saleOldPrice, v) => { r with saleOldPrice := paramInt v }
  | (.categoryId, v) => { r with categoryId := paramText v }
  | (.kind, v) => { r with kind := paramText v }
  | (.subtype, v) => { r with subtype := paramText v }
  | (.description, v) => { r with description := paramText v }

/-- The row after an update's assignments. -/
def applyUpdate (r : Product) (u : Update ProductColumn) : Product :=
  u.assignments.foldl assign r

/-- The product as a JSON object. -/
def toJson (r : Product) : Value :=
  .obj [("id", .str r.id), ("title", .str r.title), ("image", .str r.image),
    ("price", .num (if r.price ≥ 0 then .nat r.price.toNat else .neg r.price)),
    ("sale", .num (if r.sale ≥ 0 then .nat r.sale.toNat else .neg r.sale)),
    ("sale_old_price",
      .num (if r.saleOldPrice ≥ 0 then .nat r.saleOldPrice.toNat else .neg r.saleOldPrice)),
    ("category_id", .str r.categoryId), ("type", .str r.kind), ("subtype", .str r.subtype),
    ("description", .str r.description), ("created_at", .str r.createdAt.rfc3339)]

end Product

end Storefront.Catalog
