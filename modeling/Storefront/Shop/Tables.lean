import Storefront.Account.User
import Storefront.Catalog.Product
import Storefront.Catalog.Category
import Storefront.Media.FileRecord

/-
  The shop's tables: users, products, categories and uploaded files.

  Rows are kept in the order they were added, which is the order of their creation times and
  so the order in which they are listed.  Keys are compared exactly.  A partial update with no
  assignments touches nothing and says so (`none`); otherwise it reports how many rows it
  changed.
-/

namespace Storefront.Shop

open Storefront.Account Storefront.Catalog Storefront.Media Storefront.Sql

/-- All rows of the shop. -/
structure Tables where
  users : List User := []
  products : List Product := []
  categories : List Category := []
  files : List FileRecord := []
  deriving Repr

namespace Tables

/-- The user with an e-mail address. -/
def userByEmail (t : Tables) (email : String) : Option User :=
  t.users.find? (·.email == email)

/-- The user with an id. -/
def userById (t : Tables) (id : String) : Option User :=
  t.users.find? (·.id == id)

/-- The tables with a new user, unless the e-mail address is taken. -/
def addUser (t : Tables) (u : User) : Option Tables :=
  if (t.userByEmail u.email).isSome then none else some { t with users := t.users ++ [u] }

/-- The tables without the user of an id, and how many rows went. -/
def removeUser (t : Tables) (id : String) : Tables × Nat :=
  let kept := t.users.filter (·.id != id)
  ({ t with users := kept }, t.users.length - kept.length)

/-- The product with an id. -/
def productById (t : Tables) (id : String) : Option Product :=
  t.products.find? (·.id == id)

/-- The tables with a new product. -/
def addProduct (t : Tables) (p : Product) : Tables :=
  { t with products := t.products ++ [p] }

/-- A partial update of the product of an id: nothing when it has no assignments, else the
number of rows changed. -/
def updateProduct (t : Tables) (id : String) (u : Update ProductColumn) : Tables × Option Nat :=
  if u.isEmpty then (t, none)
  else
    let hits := (t.products.filter (·.id == id)).length
    ({ t with products := t.products.map fun p => if p.id == id then p.applyUpdate u else p },
      some hits)

/-- The tables without the product of an id, and how many rows went. -/
def removeProduct (t : Tables) (id : String) : Tables × Nat :=
  let kept := t.products.filter (·.id != id)
  ({ t with products := kept }, t.products.length - kept.length)

/-- The category with an id. -/
def categoryById (t : Tables) (id : String) : Option Category :=
  t.categories.find? (·.id == id)

/-- The tables with a new category. -/
def addCategory (t : Tables) (c : Category) : Tables :=
  { t with categories := t.categories ++ [c] }

/-- A partial update of the category of an id, as for products. -/
def updateCategory (t : Tables) (id : String) (u : Update CategoryColumn) : Tables × Option Nat :=
  if u.isEmpty then (t, none)
  else
    let hits := (t.categories.filter (·.id == id)).length
    ({ t with categories := t.categories.map fun c => if c.id == id then c.applyUpdate u else c },
      some hits)

/-- The tables without the category of an id, and how many rows went. -/
def removeCategory (t : Tables) (id : String) : Tables × Nat :=
  let kept := t.categories.filter (·.id != id)
  ({ t with categories := kept }, t.categories.length - kept.length)

/-- Points a product at an uploaded file and records the file, both or neither: nothing
changes when the product does not exist. -/
def attachFile (t : Tables) (f : FileRecord) : Option Tables :=
  let (t', hits) := t.updateProduct f.productId (Update.empty.set .image (some (.text f.url)))
  if hits = some 1 then some { t' with files := t'.files ++ [f] } else none

/-- The files of a product, in upload order. -/
def filesOf (t : Tables) (productId : String) : List FileRecord :=
  t.files.filter (·.productId == productId)

end Tables

end Storefront.Shop
