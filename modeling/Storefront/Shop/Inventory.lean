import Storefront.Shop.State

/-
  Products and categories: adding, listing, finding, changing and removing them.

  Lists come in the order the rows were added.  A change names the fields it sets; a change
  that sets nothing succeeds without looking for the row, and any other change of a missing
  row fails.  Removing a product also removes its image from the bucket, when the product's
  image is a url into the bucket; if the bucket refuses, the product stays.
-/

namespace Storefront.Shop

open Storefront.Catalog

/-- The failure for a missing product. -/
def productNotFound (id : String) : Error := .notFound s!"product {id} not found"

/-- The failure for a missing category. -/
def categoryNotFound (id : String) : Error := .notFound s!"category {id} not found"

/-- Adds a product, answering its id. -/
def createProduct (d : ProductDraft) : Service String := do
  let id ← freshId
  let createdAt ← now
  modify fun s => { s with tables := s.tables.addProduct (Product.ofDraft id d createdAt) }
  pure id

/-- All products. -/
def products : Service (List Product) := do
  pure (← get).tables.products

/-- The product with an id. -/
def product (id : String) : Service Product := do
  orFail ((← get).tables.productById id) (productNotFound id)

/-- Changes the fields of a product that a patch sets. -/
def updateProduct (id : String) (p : ProductPatch) : Service Unit := do
  let hits ← withTables (·.updateProduct id p.toUpdate)
  require (hits ≠ some 0) (productNotFound id)

/-- Removes the image under a key from the bucket. -/
def removeObject (key : String) : Service Unit := do
  match ← withBucket (·.delete key) with
  | .ok () => pure ()
  | .error e => throw (Error.ofBucket e)

/-- Removes a product and its image. -/
def deleteProduct (id : String) : Service Unit := do
  let p ← product id
  if let some key := Bucket.imageKeyOfUrl p.image then removeObject key
  let gone ← withTables (·.removeProduct id)
  require (gone ≠ 0) (productNotFound id)

/-- Adds a category, answering its id. -/
def createCategory (name : String) : Service String := do
  let id ← freshId
  let createdAt ← now
  modify fun s => { s with tables := s.tables.addCategory ⟨id, name, createdAt⟩ }
  pure id

/-- All categories. -/
def categories : Service (List Category) := do
  pure (← get).tables.categories

/-- The category with an id. -/
def category (id : String) : Service Category := do
  orFail ((← get).tables.categoryById id) (categoryNotFound id)

/-- Changes the name of a category, if the patch sets it. -/
def updateCategory (id : String) (p : CategoryPatch) : Service Unit := do
  let hits ← withTables (·.updateCategory id p.toUpdate)
  require (hits ≠ some 0) (categoryNotFound id)

/-- Removes a category. -/
def deleteCategory (id : String) : Service Unit := do
  let gone ← withTables (·.removeCategory id)
  require (gone ≠ 0) (categoryNotFound id)

end Storefront.Shop
