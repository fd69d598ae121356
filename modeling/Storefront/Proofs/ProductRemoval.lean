import Storefront.Proofs.ImageKeys

/-
  Removing a product, step by step.

  `deleteProduct id` reads the product, removes from the bucket the object its image url names,
  when the url names one, and then removes the product's rows.  The steps are not one
  transaction: a bucket that refuses the removal stops the service before any row is touched.

  Main statement (`deleteProduct_outcomes`): a product that is not there is answered not found,
  and nothing changes, the bucket included.  Otherwise, when the image url names a key, the bucket
  is called exactly once, to remove that key, and a refusal is passed on with every table as it
  was, the product still in place; when the url names no key the bucket is left alone.  Past the
  bucket, the rows of that id leave the products table, the users, the categories, the files and
  every other product stay as they were, and the service answers `ok`.
-/

namespace Storefront.Shop

open Storefront.Bucket Storefront.Catalog

variable {id : String} {s : State} {p : Product}

/-- A product whose image url names no key is removed without calling the bucket. -/
theorem run_deleteProduct_unlinked (h : s.tables.productById id = some p)
    (hkey : imageKeyOfUrl p.image = none) :
    (deleteProduct id).run.run s = (.ok (), { s with tables := (s.tables.removeProduct id).1 }) := by
  simp only [deleteProduct, run_bind, run_product_some h, hkey, run_withTables, run_require]
  rw [if_pos (decide_eq_true (Tables.removeProduct_snd_ne_zero h))]

/-- A refused removal of the image stops the service with the tables untouched. -/
theorem run_deleteProduct_refused {key : String} {b : Store} {e : Bucket.Error}
    (h : s.tables.productById id = some p) (hkey : imageKeyOfUrl p.image = some key)
    (hdel : s.bucket.delete key = (b, .error e)) :
    (deleteProduct id).run.run s = (.error (Error.ofBucket e), { s with bucket := b }) := by
  simp only [deleteProduct, run_bind, run_product_some h, hkey, run_removeObject, hdel]

/-- Once the image is removed, the product's rows go too. -/
theorem run_deleteProduct_removed {key : String} {b : Store}
    (h : s.tables.productById id = some p) (hkey : imageKeyOfUrl p.image = some key)
    (hdel : s.bucket.delete key = (b, .ok ())) :
    (deleteProduct id).run.run s =
      (.ok (), { s with bucket := b, tables := (s.tables.removeProduct id).1 }) := by
  simp only [deleteProduct, run_bind, run_product_some h, hkey, run_removeObject, hdel,
    run_withTables, run_require]
  rw [if_pos (decide_eq_true (Tables.removeProduct_snd_ne_zero h))]

/-- **What removing a product does.**  With `removed` the tables whose products table has lost
the rows of the id and nothing else: a missing product is answered not found and the shop stays
as it was.  For a product `p`: when its image url names no key, the bucket is not called and the
shop ends with `removed`; when it names `key`, the bucket makes exactly one call, the removal of
`key`, and the shop ends with the bucket that call leaves, the tables as they were and the
bucket's refusal passed on if it refused, and the tables `removed` and the answer `ok` if not. -/
theorem deleteProduct_outcomes (id : String) (s : State) :
    let run := (deleteProduct id).run.run s
    let removed := { s.tables with products := s.tables.products.filter (·.id != id) }
    (s.tables.productById id = none → run = (.error (productNotFound id), s)) ∧
    ∀ p, s.tables.productById id = some p →
      (imageKeyOfUrl p.image = none → run = (.ok (), { s with tables := removed })) ∧
      ∀ key b, imageKeyOfUrl p.image = some key →
        (∀ e, s.bucket.delete key = (b, .error e) →
          run = (.error (Error.ofBucket e), { s with bucket := b })) ∧
        (s.bucket.delete key = (b, .ok ()) →
          run = (.ok (), { s with bucket := b, tables := removed })) := by
  intro run removed
  refine ⟨run_deleteProduct_none, fun p h => ⟨fun hkey => ?_, fun key b hkey => ⟨fun e hdel => ?_,
    fun hdel => ?_⟩⟩⟩
  -- `removed` is the first part of `removeProduct`, by definition
  · exact run_deleteProduct_unlinked h hkey
  · exact run_deleteProduct_refused h hkey hdel
  · exact run_deleteProduct_removed h hkey hdel

end Storefront.Shop
