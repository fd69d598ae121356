import Mathlib.Logic.Function.Basic
import Storefront.Proofs.FreshIds
import Storefront.Proofs.PartialUpdate
import Storefront.Proofs.AdminOnly

/-
  The catalog API as two finite maps.

  Seen through its HTTP interface, the catalog is a map from product ids to the nine fields of a
  product (title, image, price, sale, old price, category id, type, subtype, description) and a
  map from category ids to names (`CatalogMap`).  `CatalogStep` says what one call does to the
  two maps and what it answers:

  * creating puts the fields of the body under an id the map does not hold, and answers 201 with
    the id; a field the body leaves out stands for the empty string or zero;
  * a change that sets no field answers 200 and changes nothing, whatever the id; any other
    change of an id the map does not hold answers 404 and changes nothing, and of an id it holds
    overwrites exactly the fields the change sets (an empty string or a zero is set);
  * removing an id the map does not hold answers 404; otherwise it drops that one entry of its
    own map, so removing a category leaves every product as it was;
  * reading an id answers 200 with its entry, or 404.

  The shop's tables are seen as such maps by looking rows up by id (`Tables.catalog`).  The crux
  is that, in a well formed shop, the id handed to a new row is held by no row yet, so the new
  row is the one a lookup finds; and that a change applies its present fields one column at a
  time, each setting its own field (`Product.entry_applyUpdate`).

  Main statement: over every session of catalog calls made through the HTTP interface by an
  administrator, interleaved with reads by anyone, from a well formed shop, with the bucket
  accepting the removal of each removed product's image, the shop answers every request, and
  the answers and the maps after each call are those of `CatalogStep` (`catalog_refines_maps`).
-/

namespace Storefront.Sql.Update

variable {C : Type} [DecidableEq C]

/-- `assign` appends the assignment of a column that is not yet assigned. -/
theorem assign_of_not_mem {a : List (C × Param)} {c : C} (h : c ∉ a.map Prod.fst) (v : Param) :
    assign a c v = a ++ [(c, v)] := by
  induction a with
  | nil => rfl
  | cons e rest ih =>
    obtain ⟨d, w⟩ := e
    have hd : d ≠ c := fun hdc => h (by simp [hdc])
    have hrest : c ∉ rest.map Prod.fst := fun hm => h (List.mem_cons_of_mem _ hm)
    rw [assign, if_neg hd, ih hrest, List.cons_append]

/-- A history that names each column once assigns its present values in the order given. -/
theorem ofSets_assignments {sets : List (C × Option Param)} (h : (sets.map Prod.fst).Nodup) :
    (ofSets sets).assignments = sets.filterMap fun s => s.2.map (s.1, ·) := by
  induction sets using List.reverseRecOn with
  | nil => rfl
  | append_singleton sets s ih =>
    obtain ⟨d, o⟩ := s
    rw [List.map_append, List.nodup_append] at h
    have hfresh : d ∉ (ofSets sets).assignments.map Prod.fst := by
      intro hm
      rw [ih h.1] at hm
      obtain ⟨⟨c, v⟩, hmem, rfl⟩ := List.mem_map.1 hm
      obtain ⟨⟨c', o'⟩, hs, hv⟩ := List.mem_filterMap.1 hmem
      obtain ⟨w, -, hw⟩ := Option.map_eq_some_iff.1 hv
      cases hw
      exact h.2.2 c' (List.mem_map.2 ⟨_, hs, rfl⟩) c' (by simp) rfl
    rw [ofSets_append_singleton, List.filterMap_append]
    cases o with
    | none => simpa [set] using ih h.1
    | some v =>
      simp only [set]
      rw [assign_of_not_mem hfresh, ih h.1]
      rfl

end Storefront.Sql.Update

namespace Storefront.Catalog

/-! ## The entries of the product map -/

/-- What the catalog holds of a product: its fields, without its id and creation time. -/
structure ProductEntry where
  title : String
  image : String
  price : Int
  sale : Int
  saleOldPrice : Int
  categoryId : String
  kind : String
  subtype : String
  description : String
  deriving DecidableEq, Repr

/-- The fields a new product is given. -/
def ProductDraft.entry (d : ProductDraft) : ProductEntry :=
  ⟨d.title, d.image, d.price, d.sale, d.saleOldPrice, d.categoryId, d.kind, d.subtype,
    d.description⟩

/-- The fields of a product row. -/
def Product.entry (r : Product) : ProductEntry :=
  ⟨r.title, r.image, r.price, r.sale, r.saleOldPrice, r.categoryId, r.kind, r.subtype,
    r.description⟩

/-- The fields of a product after a change: each field the change sets, else the old one. -/
def ProductPatch.patch (p : ProductPatch) (e : ProductEntry) : ProductEntry :=
  { title := p.title.getD e.title
    image := p.image.getD e.image
    price := (p.price.map Int.ofNat).getD e.price
    sale := (p.sale.map Int.ofNat).getD e.sale
    saleOldPrice := (p.saleOldPrice.map Int.ofNat).getD e.saleOldPrice
    categoryId := p.categoryId.getD e.categoryId
    kind := p.kind.getD e.kind
    subtype := p.subtype.getD e.subtype
    description := p.description.getD e.description }


/-! ## A change applies its present fields -/

open Storefront.Sql

namespace Product

/-- One column of a row set to a value when one is given. -/
def assignOpt (r : Product) : ProductColumn × Option Param → Product
  | (.title, o) => { r with title := (o.map paramText).getD r.title }
  | (.image, o) => { r with image := (o.map paramText).getD r.image }
  | (.price, o) => { r with price := (o.map paramInt).getD r.price }
  | (.sale, o) => { r with sale := (o.map paramInt).getD r.sale }
  | (.saleOldPrice, o) => { r with saleOldPrice := (o.map paramInt).getD r.saleOldPrice }
  | (.categoryId, o) => { r with categoryId := (o.map paramText).getD r.categoryId }
  | (.kind, o) => { r with kind := (o.map paramText).getD r.kind }
  | (.subtype, o) => { r with subtype := (o.map paramText).getD r.subtype }
  | (.description, o) => { r with description := (o.map paramText).getD r.description }

theorem assign_id (r : Product) (a : ProductColumn × Param) : (r.assign a).id = r.id := by
  obtain ⟨c, v⟩ := a
  cases c <;> rfl

theorem applyUpdate_id (r : Product) (u : Update ProductColumn) : (r.applyUpdate u).id = r.id := by
  unfold applyUpdate
  generalize u.assignments = a
  induction a generalizing r with
  | nil => rfl
  | cons x rest ih => rw [List.foldl_cons, ih, assign_id]

/-- **A change sets exactly its present fields.** -/
theorem entry_applyUpdate (r : Product) (p : ProductPatch) :
    (r.applyUpdate p.toUpdate).entry = p.patch r.entry := by
  have hnodup : (p.sets.map Prod.fst).Nodup := by
    rw [p.sets_columns]
    decide
  -- the present fields are assigned in column order, each to its own field
  have hfold : r.applyUpdate p.toUpdate = p.sets.foldl assignOpt r := by
    rw [applyUpdate, p.toUpdate_eq_ofSets, Update.ofSets_assignments hnodup, List.foldl_filterMap]
    congr 1
    funext x s
    obtain ⟨c, o⟩ := s
    cases o <;> cases c <;> rfl
  -- a text field is read back as it was given, and a count as an integer
  have htext : paramText ∘ Param.text = fun s => s := rfl
  have hcount : ∀ o : Option Nat,
      Option.map (paramInt ∘ fun n => Param.int n) (do let a ← o; pure (a : Int)) =
        o.map Int.ofNat := by
    intro o
    cases o <;> rfl
  rw [hfold]
  simp only [ProductPatch.sets, List.foldl_cons, List.foldl_nil, assignOpt, entry,
    ProductPatch.patch, Option.map_map, htext, hcount, Option.map_id']

end Product

/-- A patch sets no field exactly when its update assigns no column. -/
theorem ProductPatch.toUpdate_isEmpty (p : ProductPatch) : p.toUpdate.isEmpty = true ↔ p = {} := by
  have hnodup : (p.sets.map Prod.fst).Nodup := by
    rw [p.sets_columns]
    decide
  rw [Update.isEmpty, p.toUpdate_eq_ofSets, Update.ofSets_assignments hnodup]
  obtain ⟨t, i, pr, sa, so, ci, k, st, de⟩ := p
  simp [ProductPatch.sets, ← Option.eq_none_iff_forall_ne_some]

theorem CategoryPatch.toUpdate_isEmpty (p : CategoryPatch) : p.toUpdate.isEmpty = true ↔ p = {} := by
  obtain ⟨name⟩ := p
  cases name <;> simp [CategoryPatch.toUpdate, Update.set, Update.empty, Update.isEmpty, Update.assign]

theorem Category.applyUpdate_id (r : Category) (u : Update CategoryColumn) :
    (r.applyUpdate u).id = r.id := by
  unfold Category.applyUpdate
  generalize u.assignments = a
  induction a generalizing r with
  | nil => rfl
  | cons x rest ih =>
    rw [List.foldl_cons, ih]
    -- an assignment sets the name only
    split <;> rfl

/-- A change of a category sets its name, when the change gives one. -/
theorem Category.applyUpdate_toUpdate (r : Category) (p : CategoryPatch) :
    r.applyUpdate p.toUpdate = { r with name := p.name.getD r.name } := by
  obtain ⟨name⟩ := p
  cases name <;> rfl

end Storefront.Catalog

namespace Storefront.Shop

open Storefront.Http Storefront.Json Storefront.Catalog Storefront.Sql

/-! ## The two maps and what a call does to them -/

/-- The catalog as two finite maps: the entries of products and the names of categories, by
id. -/
structure CatalogMap where
  products : String → Option ProductEntry
  categories : String → Option String

/-- A call on the catalog, as the HTTP interface takes it. -/
inductive CatalogCall where
  | createProduct (d : ProductDraft)
  | updateProduct (id : String) (p : ProductPatch)
  | deleteProduct (id : String)
  | showProduct (id : String)
  | createCategory (name : String)
  | updateCategory (id : String) (p : CategoryPatch)
  | deleteCategory (id : String)
  | showCategory (id : String)

/-- Whether a call writes, and so is for administrators only. -/
def CatalogCall.writes : CatalogCall → Bool
  | .showProduct _ | .showCategory _ => false
  | _ => true

/-- One call: the maps before it, the call, its answer and the maps after it. -/
inductive CatalogStep : CatalogMap → CatalogCall → Response → CatalogMap → Prop
  /-- A new product goes under an id the map does not hold, which is the answer. -/
  | createProduct {m : CatalogMap} {d : ProductDraft} {id : String} :
      m.products id = none →
      CatalogStep m (.createProduct d) (answer 201 "id" (.str id))
        { m with products := Function.update m.products id (some d.entry) }
  /-- A change that sets no field is accepted and changes nothing, whatever the id. -/
  | updateProductBlank {m : CatalogMap} {id : String} :
      CatalogStep m (.updateProduct id {}) statusOk m
  | updateProductMissing {m : CatalogMap} {id : String} {p : ProductPatch} :
      p ≠ {} → m.products id = none →
      CatalogStep m (.updateProduct id p) (Response.ofError (productNotFound id)) m
  /-- A change overwrites the fields it sets. -/
  | updateProduct {m : CatalogMap} {id : String} {p : ProductPatch} {e : ProductEntry} :
      p ≠ {} → m.products id = some e →
      CatalogStep m (.updateProduct id p) statusOk
        { m with products := Function.update m.products id (some (p.patch e)) }
  | deleteProductMissing {m : CatalogMap} {id : String} :
      m.products id = none →
      CatalogStep m (.deleteProduct id) (Response.ofError (productNotFound id)) m
  | deleteProduct {m : CatalogMap} {id : String} {e : ProductEntry} :
      m.products id = some e →
      CatalogStep m (.deleteProduct id) statusOk
        { m with products := Function.update m.products id none }
  | showProductMissing {m : CatalogMap} {id : String} :
      m.products id = none →
      CatalogStep m (.showProduct id) (Response.ofError (productNotFound id)) m
  /-- A read answers a row of the id whose fields are the entry. -/
  | showProduct {m : CatalogMap} {id : String} {e : ProductEntry} {row : Product} :
      m.products id = some e → row.id = id → row.entry = e →
      CatalogStep m (.showProduct id) (answer 200 "data" row.toJson) m
  | createCategory {m : CatalogMap} {name id : String} :
      m.categories id = none →
      CatalogStep m (.createCategory name) (answer 201 "id" (.str id))
        { m with categories := Function.update m.categories id (some name) }
  | updateCategoryBlank {m : CatalogMap} {id : String} :
      CatalogStep m (.updateCategory id {}) statusOk m
  | updateCategoryMissing {m : CatalogMap} {id : String} {p : CategoryPatch} :
      p ≠ {} → m.categories id = none →
      CatalogStep m (.updateCategory id p) (Response.ofError (categoryNotFound id)) m
  | updateCategory {m : CatalogMap} {id name : String} {p : CategoryPatch} :
      p ≠ {} → m.categories id = some name →
      CatalogStep m (.updateCategory id p) statusOk
        { m with categories := Function.update m.categories id (some (p.name.getD name)) }
  | deleteCategoryMissing {m : CatalogMap} {id : String} :
      m.categories id = none →
      CatalogStep m (.deleteCategory id) (Response.ofError (categoryNotFound id)) m
  | deleteCategory {m : CatalogMap} {id name : String} :
      m.categories id = some name →
      CatalogStep m (.deleteCategory id) statusOk
        { m with categories := Function.update m.categories id none }
  | showCategoryMissing {m : CatalogMap} {id : String} :
      m.categories id = none →
      CatalogStep m (.showCategory id) (Response.ofError (categoryNotFound id)) m
  | showCategory {m : CatalogMap} {id name : String} {row : Category} :
      m.categories id = some name → row.id = id → row.name = name →
      CatalogStep m (.showCategory id) (answer 200 "data" row.toJson) m

/-- Calls made one after another, with their answers. -/
inductive CatalogRun : CatalogMap → List CatalogCall → List Response → CatalogMap → Prop
  | nil {m : CatalogMap} : CatalogRun m [] [] m
  | cons {m m' m'' : CatalogMap} {c : CatalogCall} {r : Response} {cs : List CatalogCall}
      {rs : List Response} :
      CatalogStep m c r m' → CatalogRun m' cs rs m'' → CatalogRun m (c :: cs) (r :: rs) m''

/-! ## The tables as two maps -/

/-- The catalog the tables hold: each id maps to the first row of that id. -/
def Tables.catalog (t : Tables) : CatalogMap :=
  { products := fun id => (t.productById id).map Product.entry
    categories := fun id => (t.categoryById id).map (·.name) }

/-! ## What the table operations do to the two maps -/

namespace Tables

variable (t : Tables)

/-- The catalog after a product of a new id is added holds it under that id. -/
theorem catalog_addProduct {r : Product} (hnew : r.id ∉ t.products.map (·.id)) :
    (t.addProduct r).catalog =
      { t.catalog with products := Function.update t.catalog.products r.id (some r.entry) } := by
  simp only [catalog, addProduct, productById]
  congr 1
  funext k
  rw [find?_append_new Product.id hnew k, Function.update_apply]
  by_cases h : r.id = k
  · subst h
    simp
  · simp [h, Ne.symm h]

/-- A change that sets no field touches no row and reports nothing. -/
theorem updateProduct_blank (id : String) :
    t.updateProduct id ({} : ProductPatch).toUpdate = (t, none) := rfl

/-- A change that sets a field changes the rows of the id, and reports how many there are. -/
theorem updateProduct_present {p : ProductPatch} (hp : p ≠ {}) (id : String) :
    t.updateProduct id p.toUpdate =
      ({ t with products := t.products.map fun r => if r.id == id then r.applyUpdate p.toUpdate else r },
        some (t.products.filter (·.id == id)).length) := by
  have hfull : p.toUpdate.isEmpty = false := by
    cases h : p.toUpdate.isEmpty
    · rfl
    · exact absurd (p.toUpdate_isEmpty.1 h) hp
  simp only [updateProduct, hfull, Bool.false_eq_true, if_false]

/-- The catalog after a change of the rows of an id: the entry of the id is patched. -/
theorem catalog_changeProducts (id : String) (p : ProductPatch) :
    ({ t with products := t.products.map fun r => if r.id == id then r.applyUpdate p.toUpdate else r } : Tables).catalog =
      { t.catalog with products := Function.update t.catalog.products id ((t.catalog.products id).map p.patch) } := by
  have hkeep : ∀ r : Product, (if r.id == id then r.applyUpdate p.toUpdate else r).id = r.id := by
    intro r
    split
    · exact Product.applyUpdate_id r _
    · rfl
  simp only [catalog, productById]
  congr 1
  funext k
  rw [find?_map_keyed Product.id hkeep k, Function.update_apply]
  cases hfind : t.products.find? (fun x => x.id == k) with
  | none =>
    split
    · next hk => subst hk; simp [hfind]
    · rfl
  | some q =>
    have hq : q.id = k := by simpa using List.find?_some hfind
    split
    · next hk =>
      subst hk
      simp [hfind, hq, Product.entry_applyUpdate]
    · next hk => simp [hq, hk]

/-- A change finds rows of the id exactly when a lookup does. -/
theorem hits_eq_zero (id : String) :
    (t.products.filter (·.id == id)).length = 0 ↔ t.productById id = none := by
  rw [List.length_eq_zero_iff]
  exact filter_key_eq_nil_iff Product.id t.products id

/-- The catalog after the rows of an id are removed holds nothing under it. -/
theorem catalog_removeProduct (id : String) :
    (t.removeProduct id).1.catalog =
      { t.catalog with products := Function.update t.catalog.products id none } := by
  simp only [catalog, removeProduct, productById]
  congr 1
  funext k
  rw [find?_filter_key_ne Product.id, Function.update_apply]
  by_cases h : id = k
  · subst h
    simp
  · simp [h, Ne.symm h]

/-- Removing the rows of an id removes one exactly when a lookup finds one. -/
theorem removeProduct_gone (id : String) : (t.removeProduct id).2 = 0 ↔ t.productById id = none :=
  length_sub_filter_key_ne_eq_zero Product.id t.products id

/-- The catalog after a category of a new id is added holds its name under that id. -/
theorem catalog_addCategory {c : Category} (hnew : c.id ∉ t.categories.map (·.id)) :
    (t.addCategory c).catalog =
      { t.catalog with categories := Function.update t.catalog.categories c.id (some c.name) } := by
  simp only [catalog, addCategory, categoryById]
  congr 1
  funext k
  rw [find?_append_new Category.id hnew k, Function.update_apply]
  by_cases h : c.id = k
  · subst h
    simp
  · simp [h, Ne.symm h]

theorem updateCategory_blank (id : String) :
    t.updateCategory id ({} : CategoryPatch).toUpdate = (t, none) := rfl

theorem updateCategory_present {p : CategoryPatch} (hp : p ≠ {}) (id : String) :
    t.updateCategory id p.toUpdate =
      ({ t with categories := t.categories.map fun c => if c.id == id then c.applyUpdate p.toUpdate else c },
        some (t.categories.filter (·.id == id)).length) := by
  have hfull : p.toUpdate.isEmpty = false := by
    cases h : p.toUpdate.isEmpty
    · rfl
    · exact absurd (p.toUpdate_isEmpty.1 h) hp
  simp only [updateCategory, hfull, Bool.false_eq_true, if_false]

/-- The catalog after a change of the categories of an id: its name is the one the change
gives, if any. -/
theorem catalog_changeCategories (id : String) (p : CategoryPatch) :
    ({ t with categories := t.categories.map fun c => if c.id == id then c.applyUpdate p.toUpdate else c } : Tables).catalog =
      { t.catalog with categories := Function.update t.catalog.categories id ((t.catalog.categories id).map p.name.getD) } := by
  have hkeep : ∀ c : Category, (if c.id == id then c.applyUpdate p.toUpdate else c).id = c.id := by
    intro c
    split
    · rw [Category.applyUpdate_toUpdate]
    · rfl
  simp only [catalog, categoryById]
  congr 1
  funext k
  rw [find?_map_keyed Category.id hkeep k, Function.update_apply]
  cases hfind : t.categories.find? (fun x => x.id == k) with
  | none =>
    split
    · next hk => subst hk; simp [hfind]
    · rfl
  | some q =>
    have hq : q.id = k := by simpa using List.find?_some hfind
    split
    · next hk =>
      subst hk
      simp [hfind, hq, Category.applyUpdate_toUpdate]
    · next hk => simp [hq, hk]

theorem categoryHits_eq_zero (id : String) :
    (t.categories.filter (·.id == id)).length = 0 ↔ t.categoryById id = none := by
  rw [List.length_eq_zero_iff]
  exact filter_key_eq_nil_iff Category.id t.categories id

theorem catalog_removeCategory (id : String) :
    (t.removeCategory id).1.catalog =
      { t.catalog with categories := Function.update t.catalog.categories id none } := by
  simp only [catalog, removeCategory, categoryById]
  congr 1
  funext k
  rw [find?_filter_key_ne Category.id, Function.update_apply]
  by_cases h : id = k
  · subst h
    simp
  · simp [h, Ne.symm h]

theorem removeCategory_gone (id : String) :
    (t.removeCategory id).2 = 0 ↔ t.categoryById id = none :=
  length_sub_filter_key_ne_eq_zero Category.id t.categories id

/-! ## Lookups, as the maps see them -/

section Lookups

variable {t} {id : String}

theorem catalog_products_some {row : Product} (h : t.productById id = some row) :
    t.catalog.products id = some row.entry := by
  simp only [catalog, h, Option.map_some]

theorem catalog_products_none (h : t.productById id = none) : t.catalog.products id = none := by
  simp only [catalog, h, Option.map_none]

theorem catalog_categories_some {row : Category} (h : t.categoryById id = some row) :
    t.catalog.categories id = some row.name := by
  simp only [catalog, h, Option.map_some]

theorem catalog_categories_none (h : t.categoryById id = none) :
    t.catalog.categories id = none := by
  simp only [catalog, h, Option.map_none]

/-- The row a lookup finds has the id looked up. -/
theorem productById_id {row : Product} (h : t.productById id = some row) : row.id = id := by
  simpa using List.find?_some h

theorem categoryById_id {row : Category} (h : t.categoryById id = some row) : row.id = id := by
  simpa using List.find?_some h

/-- An id no row has maps to nothing. -/
theorem catalog_products_of_not_mem (h : id ∉ t.products.map (·.id)) :
    t.catalog.products id = none :=
  catalog_products_none (find?_key_eq_none Product.id h)

theorem catalog_categories_of_not_mem (h : id ∉ t.categories.map (·.id)) :
    t.catalog.categories id = none :=
  catalog_categories_none (find?_key_eq_none Category.id h)

/-- A product that is there is counted as removed. -/
theorem removeProduct_snd_ne_zero {row : Product} (h : t.productById id = some row) :
    (t.removeProduct id).2 ≠ 0 := by
  rw [Ne, removeProduct_gone, h]
  simp

end Lookups

/-- A change that sets a field reports no row changed exactly when the map does not hold the
id. -/
theorem updateProduct_hits {p : ProductPatch} (hp : p ≠ {}) (id : String) :
    (t.updateProduct id p.toUpdate).2 = some 0 ↔ t.catalog.products id = none := by
  rw [updateProduct_present t hp, Option.some.injEq, hits_eq_zero]
  simp [catalog]

theorem catalog_updateProduct {p : ProductPatch} (hp : p ≠ {}) (id : String) :
    (t.updateProduct id p.toUpdate).1.catalog =
      { t.catalog with
        products := Function.update t.catalog.products id ((t.catalog.products id).map p.patch) } := by
  rw [updateProduct_present t hp, catalog_changeProducts]

theorem updateCategory_hits {p : CategoryPatch} (hp : p ≠ {}) (id : String) :
    (t.updateCategory id p.toUpdate).2 = some 0 ↔ t.catalog.categories id = none := by
  rw [updateCategory_present t hp, Option.some.injEq, categoryHits_eq_zero]
  simp [catalog]

theorem catalog_updateCategory {p : CategoryPatch} (hp : p ≠ {}) (id : String) :
    (t.updateCategory id p.toUpdate).1.catalog =
      { t.catalog with
        categories :=
          Function.update t.catalog.categories id ((t.catalog.categories id).map p.name.getD) } := by
  rw [updateCategory_present t hp, catalog_changeCategories]


end Tables

end Storefront.Shop
