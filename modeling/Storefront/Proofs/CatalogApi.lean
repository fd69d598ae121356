import Storefront.Proofs.CatalogMaps
import Storefront.Proofs.BearerHeader

/-
  The catalog endpoints of the HTTP interface refine the two maps of `CatalogMaps`.

  A request asks for a catalog call (`Asks`) when its path names the products or the
  categories, or one of them by an id written percent-encoded, its method is the call's, and its
  body reads as the call's record (held to the record's rules, for a creation).

  Each service of the catalog is run once here, by the run equations of `ServiceRun`: a creation
  takes the next id and reads the clock, a change or a removal works on the rows of the id, and
  a read changes nothing.  What a run does to the tables is then seen through `Tables.catalog`
  by the lemmas of `CatalogMaps`.  A well formed shop stays well formed, so the id the next
  creation takes is again one the maps do not hold: that is the invariant the session carries.

  Main statements: one request is one `CatalogStep` (`respond_catalogStep`), and a session of
  such requests is a `CatalogRun` (`catalog_refines_maps`).
-/

namespace Storefront.Shop

open Storefront.Http Storefront.Json Storefront.Catalog Storefront.Account

/-! ## A well formed shop stays well formed -/

namespace WellFormed

variable {s s' : State}

/-- A step that only drops rows, or rewrites them keeping their ids, and hands out no id keeps
a shop well formed. -/
theorem of_sublists (hwf : WellFormed s) (hissued : s'.issued = s.issued)
    (husers : (s'.tables.users.map (·.id)).Sublist (s.tables.users.map (·.id)))
    (hproducts : (s'.tables.products.map (·.id)).Sublist (s.tables.products.map (·.id)))
    (hcategories : (s'.tables.categories.map (·.id)).Sublist (s.tables.categories.map (·.id))) :
    WellFormed s' := by
  refine ⟨?_, ?_, ?_⟩
  · rw [hissued]
    exact hwf.users.sublist husers
  · rw [hissued]
    exact hwf.products.sublist hproducts
  · rw [hissued]
    exact hwf.categories.sublist hcategories

/-- A product under the next id keeps a shop well formed once that id is handed out. -/
theorem addProduct (hwf : WellFormed s) {row : Product} (hid : row.id = idNumbered (s.issued + 1))
    (hissued : s'.issued = s.issued + 1) (htables : s'.tables = s.tables.addProduct row) :
    WellFormed s' := by
  refine ⟨?_, ?_, ?_⟩
  · rw [hissued, htables]
    exact hwf.users.mono (Nat.le_succ _)
  · rw [hissued, htables, Tables.addProduct, List.map_append, List.map_singleton, hid]
    exact hwf.products.append_next
  · rw [hissued, htables]
    exact hwf.categories.mono (Nat.le_succ _)

/-- A category under the next id keeps a shop well formed once that id is handed out. -/
theorem addCategory (hwf : WellFormed s) {row : Category}
    (hid : row.id = idNumbered (s.issued + 1)) (hissued : s'.issued = s.issued + 1)
    (htables : s'.tables = s.tables.addCategory row) : WellFormed s' := by
  refine ⟨?_, ?_, ?_⟩
  · rw [hissued, htables]
    exact hwf.users.mono (Nat.le_succ _)
  · rw [hissued, htables]
    exact hwf.products.mono (Nat.le_succ _)
  · rw [hissued, htables, Tables.addCategory, List.map_append, List.map_singleton, hid]
    exact hwf.categories.append_next

/-- Changing the products of an id keeps their ids, so keeps a shop well formed. -/
theorem updateProduct (hwf : WellFormed s) (id : String) (u : Sql.Update ProductColumn) :
    WellFormed { s with tables := (s.tables.updateProduct id u).1 } := by
  unfold Tables.updateProduct
  split
  · exact hwf
  · refine hwf.of_sublists rfl (List.Sublist.refl _) ?_ (List.Sublist.refl _)
    have hkeep : ∀ r : Product, (if r.id == id then r.applyUpdate u else r).id = r.id := by
      intro r
      split
      · exact Product.applyUpdate_id r u
      · rfl
    simp only [List.map_map, Function.comp_def, hkeep]
    exact List.Sublist.refl _

theorem updateCategory (hwf : WellFormed s) (id : String) (u : Sql.Update CategoryColumn) :
    WellFormed { s with tables := (s.tables.updateCategory id u).1 } := by
  unfold Tables.updateCategory
  split
  · exact hwf
  · refine hwf.of_sublists rfl (List.Sublist.refl _) (List.Sublist.refl _) ?_
    have hkeep : ∀ c : Category, (if c.id == id then c.applyUpdate u else c).id = c.id := by
      intro c
      split
      · exact Category.applyUpdate_id c u
      · rfl
    simp only [List.map_map, Function.comp_def, hkeep]
    exact List.Sublist.refl _

/-- Removing the products of an id keeps a shop well formed, whatever the bucket. -/
theorem removeProduct (hwf : WellFormed s) (id : String) (b : Bucket.Store) :
    WellFormed { s with tables := (s.tables.removeProduct id).1, bucket := b } :=
  hwf.of_sublists rfl (List.Sublist.refl _) (List.filter_sublist.map _) (List.Sublist.refl _)

theorem removeCategory (hwf : WellFormed s) (id : String) :
    WellFormed { s with tables := (s.tables.removeCategory id).1 } :=
  hwf.of_sublists rfl (List.Sublist.refl _) (List.Sublist.refl _) (List.filter_sublist.map _)

end WellFormed

/-! ## The catalog's services, run -/

/-- A new product takes the next id, and the time of the clock. -/
theorem run_createProduct (d : ProductDraft) (s : State) :
    (createProduct d).run.run s =
      (.ok (idNumbered (s.issued + 1)),
        { s with
          tables := s.tables.addProduct (Product.ofDraft (idNumbered (s.issued + 1)) d (instantAt s.clock))
          clock := s.clock + 1
          issued := s.issued + 1 }) := by
  simp only [createProduct, run_bind, run_freshId, run_now, run_modify, run_pure]

theorem run_createCategory (name : String) (s : State) :
    (createCategory name).run.run s =
      (.ok (idNumbered (s.issued + 1)),
        { s with
          tables := s.tables.addCategory ⟨idNumbered (s.issued + 1), name, instantAt s.clock⟩
          clock := s.clock + 1
          issued := s.issued + 1 }) := by
  simp only [createCategory, run_bind, run_freshId, run_now, run_modify, run_pure]

/-- A change fails as not found when it reports no row changed, and keeps its tables either
way. -/
theorem run_updateProduct (id : String) (p : ProductPatch) (s : State) :
    (updateProduct id p).run.run s =
      (if (s.tables.updateProduct id p.toUpdate).2 ≠ some 0 then .ok ()
        else .error (productNotFound id),
        { s with tables := (s.tables.updateProduct id p.toUpdate).1 }) := by
  simp only [updateProduct, run_bind, run_withTables, run_require, decide_eq_true_eq]

theorem run_updateCategory (id : String) (p : CategoryPatch) (s : State) :
    (updateCategory id p).run.run s =
      (if (s.tables.updateCategory id p.toUpdate).2 ≠ some 0 then .ok ()
        else .error (categoryNotFound id),
        { s with tables := (s.tables.updateCategory id p.toUpdate).1 }) := by
  simp only [updateCategory, run_bind, run_withTables, run_require, decide_eq_true_eq]

theorem run_product_some {id : String} {s : State} {row : Product}
    (h : s.tables.productById id = some row) : (product id).run.run s = (.ok row, s) := by
  simp only [product, run_bind, run_get, run_orFail, h]

theorem run_product_none {id : String} {s : State} (h : s.tables.productById id = none) :
    (product id).run.run s = (.error (productNotFound id), s) := by
  simp only [product, run_bind, run_get, run_orFail, h]

theorem run_category_some {id : String} {s : State} {row : Category}
    (h : s.tables.categoryById id = some row) : (category id).run.run s = (.ok row, s) := by
  simp only [category, run_bind, run_get, run_orFail, h]

theorem run_category_none {id : String} {s : State} (h : s.tables.categoryById id = none) :
    (category id).run.run s = (.error (categoryNotFound id), s) := by
  simp only [category, run_bind, run_get, run_orFail, h]

/-- Removing a product that is not there fails before anything is touched. -/
theorem run_deleteProduct_none {id : String} {s : State} (h : s.tables.productById id = none) :
    (deleteProduct id).run.run s = (.error (productNotFound id), s) := by
  simp only [deleteProduct, run_bind, run_product_none h]

/-- Removing a product whose image the bucket lets go removes its rows; only the bucket
changes besides. -/
theorem run_deleteProduct_some {id : String} {s : State} {row : Product}
    (h : s.tables.productById id = some row)
    (himage : ∀ key, Bucket.imageKeyOfUrl row.image = some key → (s.bucket.delete key).2 = .ok ()) :
    ∃ b, (deleteProduct id).run.run s =
      (.ok (), { s with tables := (s.tables.removeProduct id).1, bucket := b }) := by
  have hgone := Tables.removeProduct_snd_ne_zero h
  simp only [deleteProduct, run_bind, run_product_some h]
  -- an image url that names no key is left alone
  cases hkey : Bucket.imageKeyOfUrl row.image with
  | none =>
    refine ⟨s.bucket, ?_⟩
    simp only [run_bind, run_withTables, run_require]
    rw [if_pos (decide_eq_true hgone)]
  | some key =>
    refine ⟨(s.bucket.delete key).1, ?_⟩
    simp only [removeObject, run_bind, run_withBucket, himage key hkey, run_pure, run_withTables,
      run_require]
    rw [if_pos (decide_eq_true hgone)]

theorem run_deleteCategory (id : String) (s : State) :
    (deleteCategory id).run.run s =
      (if (s.tables.removeCategory id).2 ≠ 0 then .ok () else .error (categoryNotFound id),
        { s with tables := (s.tables.removeCategory id).1 }) := by
  simp only [deleteCategory, run_bind, run_withTables, run_require, decide_eq_true_eq]

/-! ## Answering a request -/

/-- A service whose failures are answered answers what the service answers, or the answer for
its failure, from the state the service leaves. -/
theorem run_answering (x : Service Response) (s : State) :
    (answering x).run.run s =
      match x.run.run s with
      | (.ok r, s') => (.ok r, s')
      | (.error e, s') => (.ok (Response.ofError e), s') := by
  unfold answering
  rw [run_tryCatch]
  rcases x.run.run s with ⟨_ | _, _⟩ <;> rfl

section Endpoint

variable {req : Request} {route : Route} {g : Guard} {a : Action} {caller : Option User}
  {s : State}

/-- A request on an endpoint whose guard lets the caller through is answered by the endpoint's
action, with its path parameter decoded first. -/
theorem run_respond_endpoint (hroute : Route.ofPath req.path = some route)
    (hend : route.endpoint req.method = some (g, a)) (hhead : req.method ≠ "HEAD")
    (hauth : (authorize g req).run.run s = (.ok caller, s)) :
    (respond req).run.run s =
      (answering (match a.param with
        | none => perform req caller a
        | some (name, raw, rebuild) =>
          match pathParam name raw with
          | .ok v => perform req caller (rebuild v)
          | .error r => pure r)).run.run s := by
  unfold respond
  rw [hroute]
  dsimp only
  rw [hend]
  -- a request other than `HEAD` keeps its body
  have hstrip : (fun r : Response => if req.method = "HEAD" then r.headOnly else r) = id := by
    funext r
    simp [hhead]
  rw [hstrip, id_map]
  -- both sides match on the parameter and on its decoding alike: split them, then run the guard
  cases hparam : a.param with
  | none => simp only [run_answering, run_bind, hauth, hparam]
  | some p =>
    obtain ⟨name, raw, rebuild⟩ := p
    cases hpath : pathParam name raw with
    | ok v => simp only [run_answering, run_bind, hauth, hparam, hpath]
    | error r => simp only [run_answering, run_bind, hauth, hparam, hpath]

/-- An action that reads no path parameter runs as it is. -/
theorem run_respond_action (hroute : Route.ofPath req.path = some route)
    (hend : route.endpoint req.method = some (g, a)) (hhead : req.method ≠ "HEAD")
    (hauth : (authorize g req).run.run s = (.ok caller, s)) (hparam : a.param = none) :
    (respond req).run.run s = (answering (perform req caller a)).run.run s := by
  rw [run_respond_endpoint hroute hend hhead hauth, hparam]

/-- An action whose path parameter decodes runs on the decoded parameter. -/
theorem run_respond_decoded {name raw v : String} {rebuild : String → Action}
    (hroute : Route.ofPath req.path = some route)
    (hend : route.endpoint req.method = some (g, a)) (hhead : req.method ≠ "HEAD")
    (hauth : (authorize g req).run.run s = (.ok caller, s))
    (hparam : a.param = some (name, raw, rebuild)) (hdecode : percentDecode raw = some v) :
    (respond req).run.run s = (answering (perform req caller (rebuild v))).run.run s := by
  have hpath : pathParam name raw = .ok v := by
    rw [pathParam, hdecode]
  rw [run_respond_endpoint hroute hend hhead hauth, hparam]
  dsimp only
  rw [hpath]

end Endpoint

/-- Anyone passes the open guard, as nobody. -/
theorem run_authorize_everyone (req : Request) (s : State) :
    (authorize .everyone req).run.run s = (.ok none, s) := rfl

/-- The guard for administrators lets an administrator's request through. -/
theorem AdminAuthorized.run_authorize {s : State} {req : Request} (h : AdminAuthorized s req) :
    ∃ user, (authorize .admin req).run.run s = (.ok (some user), s) := by
  rcases run_authorize_admin req s with ⟨-, hpass⟩ | ⟨hnot, -⟩
  · exact hpass
  · exact absurd h hnot

/-! ## One request, one call -/

/-- A service refines a call from a shop: it answers, it leaves a well formed shop, and its
answer and what it does to the catalog are those of the call on the maps. -/
def RefinesCall (s : State) (x : Service Response) (c : CatalogCall) : Prop :=
  ∃ resp, (x.run.run s).1 = .ok resp ∧ WellFormed (x.run.run s).2 ∧
    CatalogStep s.tables.catalog c resp (x.run.run s).2.tables.catalog

namespace RefinesCall

variable {s s' : State} {x y : Service Response} {c : CatalogCall}

theorem of_run {resp : Response} (hrun : x.run.run s = (.ok resp, s')) (hwf : WellFormed s')
    (hstep : CatalogStep s.tables.catalog c resp s'.tables.catalog) : RefinesCall s x c := by
  refine ⟨resp, ?_, ?_, ?_⟩
  · rw [hrun]
  · rw [hrun]
    exact hwf
  · rw [hrun]
    exact hstep

theorem congr (hrun : x.run.run s = y.run.run s) (h : RefinesCall s y c) : RefinesCall s x c := by
  unfold RefinesCall
  rw [hrun]
  exact h

end RefinesCall

section Actions

variable {req : Request} {caller : Option User} {s : State}

theorem refines_createProduct (hwf : WellFormed s) {e : List Entry}
    (hread : readChecked req ProductDraft.shape ProductDraft.rules = .ok e) :
    RefinesCall s (answering (perform req caller .createProduct))
      (.createProduct (ProductDraft.ofEntries e)) := by
  let id := idNumbered (s.issued + 1)
  let row := Product.ofDraft id (ProductDraft.ofEntries e) (instantAt s.clock)
  have hrun : (answering (perform req caller .createProduct)).run.run s =
      (.ok (answer 201 "id" (.str id)),
        { s with tables := s.tables.addProduct row, clock := s.clock + 1, issued := s.issued + 1 }) := by
    simp only [perform, run_answering, run_bind, run_ofExcept, hread, run_createProduct, run_pure]
    rfl
  -- the next id is new to the products
  have hnew : row.id ∉ s.tables.products.map (·.id) := hwf.products.next_not_mem
  refine .of_run hrun (hwf.addProduct rfl rfl rfl) ?_
  rw [Tables.catalog_addProduct _ hnew]
  exact .createProduct (Tables.catalog_products_of_not_mem hnew)

theorem refines_updateProduct (hwf : WellFormed s) {id : String} {e : List Entry}
    (hread : readJson req ProductPatch.shape = .ok e) :
    RefinesCall s (answering (perform req caller (.updateProduct id)))
      (.updateProduct id (ProductPatch.ofEntries e)) := by
  generalize hp : ProductPatch.ofEntries e = p
  have hrun : (answering (perform req caller (.updateProduct id))).run.run s =
      (.ok (if (s.tables.updateProduct id p.toUpdate).2 ≠ some 0 then statusOk
          else Response.ofError (productNotFound id)),
        { s with tables := (s.tables.updateProduct id p.toUpdate).1 }) := by
    simp only [perform, run_answering, run_bind, run_ofExcept, hread, hp, run_updateProduct]
    by_cases hc : (s.tables.updateProduct id p.toUpdate).2 ≠ some 0
    · rw [if_pos hc, if_pos hc]
      rfl
    · rw [if_neg hc, if_neg hc]
  refine .of_run hrun (hwf.updateProduct id _) ?_
  by_cases hblank : p = {}
  · -- a change that sets no field reports nothing
    subst hblank
    rw [Tables.updateProduct_blank]
    exact .updateProductBlank
  rcases hfind : s.tables.catalog.products id with _ | entry
  · -- no row has the id
    have hzero := (s.tables.updateProduct_hits hblank id).2 hfind
    simp only [hzero, ne_eq, not_true_eq_false, if_false]
    rw [Tables.catalog_updateProduct _ hblank, hfind, Option.map_none,
      Function.update_eq_self_iff.2 hfind.symm]
    exact .updateProductMissing hblank hfind
  · have hsome : (s.tables.updateProduct id p.toUpdate).2 ≠ some 0 := by
      rw [Ne, Tables.updateProduct_hits _ hblank, hfind]
      simp
    simp only [hsome, ne_eq, not_false_eq_true, if_true]
    rw [Tables.catalog_updateProduct _ hblank, hfind, Option.map_some]
    exact .updateProduct hblank hfind

theorem refines_deleteProduct (hwf : WellFormed s) {id : String}
    (himage : ∀ row key, s.tables.productById id = some row →
      Bucket.imageKeyOfUrl row.image = some key → (s.bucket.delete key).2 = .ok ()) :
    RefinesCall s (answering (perform req caller (.deleteProduct id))) (.deleteProduct id) := by
  rcases hfind : s.tables.productById id with _ | row
  · -- nothing to remove: the lookup fails first
    have hrun : (answering (perform req caller (.deleteProduct id))).run.run s =
        (.ok (Response.ofError (productNotFound id)), s) := by
      simp only [perform, run_answering, run_bind, run_deleteProduct_none hfind]
    exact .of_run hrun hwf (.deleteProductMissing (Tables.catalog_products_none hfind))
  · obtain ⟨b, hdel⟩ := run_deleteProduct_some hfind fun key => himage row key hfind
    have hrun : (answering (perform req caller (.deleteProduct id))).run.run s =
        (.ok statusOk, { s with tables := (s.tables.removeProduct id).1, bucket := b }) := by
      simp only [perform, run_answering, run_bind, hdel, run_pure]
    refine .of_run hrun (hwf.removeProduct id b) ?_
    show CatalogStep _ _ _ (s.tables.removeProduct id).1.catalog
    rw [Tables.catalog_removeProduct]
    exact .deleteProduct (Tables.catalog_products_some hfind)

theorem refines_showProduct (hwf : WellFormed s) (id : String) :
    RefinesCall s (answering (perform req caller (.showProduct id))) (.showProduct id) := by
  rcases hfind : s.tables.productById id with _ | row
  · have hrun : (answering (perform req caller (.showProduct id))).run.run s =
        (.ok (Response.ofError (productNotFound id)), s) := by
      simp only [perform, run_answering, run_bind, run_product_none hfind]
    exact .of_run hrun hwf (.showProductMissing (Tables.catalog_products_none hfind))
  · have hrun : (answering (perform req caller (.showProduct id))).run.run s =
        (.ok (answer 200 "data" row.toJson), s) := by
      simp only [perform, run_answering, run_bind, run_product_some hfind, run_pure]
    exact .of_run hrun hwf
      (.showProduct (Tables.catalog_products_some hfind) (Tables.productById_id hfind) rfl)

theorem refines_createCategory (hwf : WellFormed s) {e : List Entry}
    (hread : readChecked req Category.draftShape Category.draftRules = .ok e) :
    RefinesCall s (answering (perform req caller .createCategory))
      (.createCategory (Category.draftName e)) := by
  let row : Category := ⟨idNumbered (s.issued + 1), Category.draftName e, instantAt s.clock⟩
  have hrun : (answering (perform req caller .createCategory)).run.run s =
      (.ok (answer 201 "id" (.str row.id)),
        { s with tables := s.tables.addCategory row, clock := s.clock + 1, issued := s.issued + 1 }) := by
    simp only [perform, run_answering, run_bind, run_ofExcept, hread, run_createCategory, run_pure]
    rfl
  -- the next id is new to the categories
  have hnew : row.id ∉ s.tables.categories.map (·.id) := hwf.categories.next_not_mem
  refine .of_run hrun (hwf.addCategory rfl rfl rfl) ?_
  rw [Tables.catalog_addCategory _ hnew]
  exact .createCategory (Tables.catalog_categories_of_not_mem hnew)

theorem refines_updateCategory (hwf : WellFormed s) {id : String} {e : List Entry}
    (hread : readJson req CategoryPatch.shape = .ok e) :
    RefinesCall s (answering (perform req caller (.updateCategory id)))
      (.updateCategory id (CategoryPatch.ofEntries e)) := by
  generalize hp : CategoryPatch.ofEntries e = p
  have hrun : (answering (perform req caller (.updateCategory id))).run.run s =
      (.ok (if (s.tables.updateCategory id p.toUpdate).2 ≠ some 0 then statusOk
          else Response.ofError (categoryNotFound id)),
        { s with tables := (s.tables.updateCategory id p.toUpdate).1 }) := by
    simp only [perform, run_answering, run_bind, run_ofExcept, hread, hp, run_updateCategory]
    by_cases hc : (s.tables.updateCategory id p.toUpdate).2 ≠ some 0
    · rw [if_pos hc, if_pos hc]
      rfl
    · rw [if_neg hc, if_neg hc]
  refine .of_run hrun (hwf.updateCategory id _) ?_
  by_cases hblank : p = {}
  · -- a change that sets no name reports nothing
    subst hblank
    rw [Tables.updateCategory_blank]
    exact .updateCategoryBlank
  rcases hfind : s.tables.catalog.categories id with _ | name
  · -- no row has the id
    have hzero := (s.tables.updateCategory_hits hblank id).2 hfind
    simp only [hzero, ne_eq, not_true_eq_false, if_false]
    rw [Tables.catalog_updateCategory _ hblank, hfind, Option.map_none,
      Function.update_eq_self_iff.2 hfind.symm]
    exact .updateCategoryMissing hblank hfind
  · have hsome : (s.tables.updateCategory id p.toUpdate).2 ≠ some 0 := by
      rw [Ne, Tables.updateCategory_hits _ hblank, hfind]
      simp
    simp only [hsome, ne_eq, not_false_eq_true, if_true]
    rw [Tables.catalog_updateCategory _ hblank, hfind, Option.map_some]
    exact .updateCategory hblank hfind

theorem refines_deleteCategory (hwf : WellFormed s) (id : String) :
    RefinesCall s (answering (perform req caller (.deleteCategory id))) (.deleteCategory id) := by
  have hrun : (answering (perform req caller (.deleteCategory id))).run.run s =
      (.ok (if (s.tables.removeCategory id).2 ≠ 0 then statusOk
          else Response.ofError (categoryNotFound id)),
        { s with tables := (s.tables.removeCategory id).1 }) := by
    simp only [perform, run_answering, run_bind, run_deleteCategory]
    by_cases hc : (s.tables.removeCategory id).2 ≠ 0
    · rw [if_pos hc, if_pos hc]
      rfl
    · rw [if_neg hc, if_neg hc]
  refine .of_run hrun (hwf.removeCategory id) ?_
  show CatalogStep _ _ _ (s.tables.removeCategory id).1.catalog
  rw [Tables.catalog_removeCategory]
  rcases hfind : s.tables.categoryById id with _ | row
  · -- no row has the id
    have hzero := (Tables.removeCategory_gone _ id).2 hfind
    have hnone := Tables.catalog_categories_none hfind
    simp only [hzero, ne_eq, not_true_eq_false, if_false]
    rw [Function.update_eq_self_iff.2 hnone.symm]
    exact .deleteCategoryMissing hnone
  · have hsome : (s.tables.removeCategory id).2 ≠ 0 := by
      rw [Ne, Tables.removeCategory_gone, hfind]
      simp
    simp only [hsome, ne_eq, not_false_eq_true, if_true]
    exact .deleteCategory (Tables.catalog_categories_some hfind)

theorem refines_showCategory (hwf : WellFormed s) (id : String) :
    RefinesCall s (answering (perform req caller (.showCategory id))) (.showCategory id) := by
  rcases hfind : s.tables.categoryById id with _ | row
  · have hrun : (answering (perform req caller (.showCategory id))).run.run s =
        (.ok (Response.ofError (categoryNotFound id)), s) := by
      simp only [perform, run_answering, run_bind, run_category_none hfind]
    exact .of_run hrun hwf (.showCategoryMissing (Tables.catalog_categories_none hfind))
  · have hrun : (answering (perform req caller (.showCategory id))).run.run s =
        (.ok (answer 200 "data" row.toJson), s) := by
      simp only [perform, run_answering, run_bind, run_category_some hfind, run_pure]
    exact .of_run hrun hwf
      (.showCategory (Tables.catalog_categories_some hfind) (Tables.categoryById_id hfind) rfl)

end Actions

/-! ## Requests for catalog calls -/

/-- A request asks for a catalog call: its path names the resource, by an id written
percent-encoded that decodes to the call's id; its method is the call's; and its body reads as
the call's record, held to the record's rules when it creates something. -/
inductive Asks (req : Request) : CatalogCall → Prop
  | createProduct {e : List Entry} :
      Route.ofPath req.path = some .products → req.method = "POST" →
      readChecked req ProductDraft.shape ProductDraft.rules = .ok e →
      Asks req (.createProduct (ProductDraft.ofEntries e))
  | updateProduct {raw id : String} {e : List Entry} :
      Route.ofPath req.path = some (.product raw) → req.method = "PUT" →
      percentDecode raw = some id → readJson req ProductPatch.shape = .ok e →
      Asks req (.updateProduct id (ProductPatch.ofEntries e))
  | deleteProduct {raw id : String} :
      Route.ofPath req.path = some (.product raw) → req.method = "DELETE" →
      percentDecode raw = some id → Asks req (.deleteProduct id)
  | showProduct {raw id : String} :
      Route.ofPath req.path = some (.product raw) → req.method = "GET" →
      percentDecode raw = some id → Asks req (.showProduct id)
  | createCategory {e : List Entry} :
      Route.ofPath req.path = some .categories → req.method = "POST" →
      readChecked req Category.draftShape Category.draftRules = .ok e →
      Asks req (.createCategory (Category.draftName e))
  | updateCategory {raw id : String} {e : List Entry} :
      Route.ofPath req.path = some (.category raw) → req.method = "PUT" →
      percentDecode raw = some id → readJson req CategoryPatch.shape = .ok e →
      Asks req (.updateCategory id (CategoryPatch.ofEntries e))
  | deleteCategory {raw id : String} :
      Route.ofPath req.path = some (.category raw) → req.method = "DELETE" →
      percentDecode raw = some id → Asks req (.deleteCategory id)
  | showCategory {raw id : String} :
      Route.ofPath req.path = some (.category raw) → req.method = "GET" →
      percentDecode raw = some id → Asks req (.showCategory id)

/-- The bucket lets go of the image of the product a call removes, when its url names a key. -/
def CatalogCall.ImageRemovable (s : State) : CatalogCall → Prop
  | .deleteProduct id => ∀ row key, s.tables.productById id = some row →
      Bucket.imageKeyOfUrl row.image = some key → (s.bucket.delete key).2 = .ok ()
  | _ => True

/-- **One request, one call.**  From a well formed shop, a request that asks for a catalog call,
carries an administrator's token if the call writes, and whose removed image the bucket lets
go, is answered as the call answers on the maps, and leaves the maps as the call does. -/
theorem respond_catalogStep {s : State} {req : Request} {c : CatalogCall} (hwf : WellFormed s)
    (hasks : Asks req c) (hadmin : c.writes = true → AdminAuthorized s req)
    (himage : c.ImageRemovable s) : RefinesCall s (respond req) c := by
  cases hasks with
  | createProduct hroute hmethod hread =>
    obtain ⟨_, hauth⟩ := (hadmin rfl).run_authorize
    have hend : Route.products.endpoint req.method = some (.admin, .createProduct) := by
      rw [hmethod]
      rfl
    exact (refines_createProduct hwf hread).congr
      (run_respond_action hroute hend (by rw [hmethod]; decide) hauth rfl)
  | @updateProduct raw id e hroute hmethod hdecode hread =>
    obtain ⟨_, hauth⟩ := (hadmin rfl).run_authorize
    have hend : (Route.product raw).endpoint req.method = some (.admin, .updateProduct raw) := by
      rw [hmethod]
      rfl
    exact (refines_updateProduct hwf hread).congr
      (run_respond_decoded hroute hend (by rw [hmethod]; decide) hauth rfl hdecode)
  | @deleteProduct raw id hroute hmethod hdecode =>
    obtain ⟨_, hauth⟩ := (hadmin rfl).run_authorize
    have hend : (Route.product raw).endpoint req.method = some (.admin, .deleteProduct raw) := by
      rw [hmethod]
      rfl
    exact (refines_deleteProduct hwf himage).congr
      (run_respond_decoded hroute hend (by rw [hmethod]; decide) hauth rfl hdecode)
  | @showProduct raw id hroute hmethod hdecode =>
    have hend : (Route.product raw).endpoint req.method = some (.everyone, .showProduct raw) := by
      rw [hmethod]
      rfl
    exact (refines_showProduct hwf id).congr (run_respond_decoded hroute hend
      (by rw [hmethod]; decide) (run_authorize_everyone req s) rfl hdecode)
  | createCategory hroute hmethod hread =>
    obtain ⟨_, hauth⟩ := (hadmin rfl).run_authorize
    have hend : Route.categories.endpoint req.method = some (.admin, .createCategory) := by
      rw [hmethod]
      rfl
    exact (refines_createCategory hwf hread).congr
      (run_respond_action hroute hend (by rw [hmethod]; decide) hauth rfl)
  | @updateCategory raw id e hroute hmethod hdecode hread =>
    obtain ⟨_, hauth⟩ := (hadmin rfl).run_authorize
    have hend : (Route.category raw).endpoint req.method = some (.admin, .updateCategory raw) := by
      rw [hmethod]
      rfl
    exact (refines_updateCategory hwf hread).congr
      (run_respond_decoded hroute hend (by rw [hmethod]; decide) hauth rfl hdecode)
  | @deleteCategory raw id hroute hmethod hdecode =>
    obtain ⟨_, hauth⟩ := (hadmin rfl).run_authorize
    have hend : (Route.category raw).endpoint req.method = some (.admin, .deleteCategory raw) := by
      rw [hmethod]
      rfl
    exact (refines_deleteCategory hwf id).congr
      (run_respond_decoded hroute hend (by rw [hmethod]; decide) hauth rfl hdecode)
  | @showCategory raw id hroute hmethod hdecode =>
    have hend : (Route.category raw).endpoint req.method = some (.everyone, .showCategory raw) := by
      rw [hmethod]
      rfl
    exact (refines_showCategory hwf id).congr (run_respond_decoded hroute hend
      (by rw [hmethod]; decide) (run_authorize_everyone req s) rfl hdecode)

/-! ## Sessions -/

/-- A session of catalog requests from a shop, call by call: each request asks for its call,
one that writes carries the token of an administrator of the shop it reaches, and the bucket
lets go of the image of each product removed. -/
def CatalogSession : State → List Request → List CatalogCall → Prop
  | _, [], [] => True
  | s, req :: reqs, c :: cs =>
    Asks req c ∧ (c.writes = true → AdminAuthorized s req) ∧ c.ImageRemovable s ∧
      CatalogSession ((respond req).run.run s).2 reqs cs
  | _, _, _ => False

/-- **The catalog API refines two finite maps.**  Over every session of catalog requests from a
well formed shop, the shop answers every request, and its answers and its catalog are those of
the calls run on the maps. -/
theorem catalog_refines_maps {s : State} (hwf : WellFormed s) {reqs : List Request}
    {calls : List CatalogCall} (hsession : CatalogSession s reqs calls) :
    ∃ resps, ((reqs.mapM respond).run.run s).1 = .ok resps ∧
      CatalogRun s.tables.catalog calls resps ((reqs.mapM respond).run.run s).2.tables.catalog := by
  -- induction on the requests; well formedness is carried from each shop to the next
  induction reqs generalizing s calls with
  | nil =>
    cases calls with
    | nil => exact ⟨[], rfl, .nil⟩
    | cons c cs => exact hsession.elim
  | cons req reqs ih =>
    cases calls with
    | nil => exact hsession.elim
    | cons c cs =>
      obtain ⟨hasks, hadmin, himage, hrest⟩ := hsession
      obtain ⟨resp, hresp, hwf', hstep⟩ := respond_catalogStep hwf hasks hadmin himage
      obtain ⟨resps, hresps, hrun⟩ := ih hwf' hrest
      rw [run_mapM_cons]
      -- the first request answers, and the rest run from the shop it leaves
      rcases hfirst : (respond req).run.run s with ⟨r, s'⟩
      rw [hfirst] at hresp hstep hresps hrun
      cases hresp
      dsimp only
      rcases hnext : (reqs.mapM respond).run.run s' with ⟨rs, s''⟩
      rw [hnext] at hresps hrun
      cases hresps
      exact ⟨resp :: resps, rfl, .cons hstep hrun⟩

/-- An administrator's session is one: on a shop whose one user is its administrator, a product
is created, its price changed and the product removed, each request carrying a token the shop
signed for the administrator, and the image of the product removed is in a bucket that lets it
go. -/
theorem catalog_refines_maps_admin_session :
    let admin : User :=
      { id := idNumbered 1
        name := "admin"
        surname := ""
        email := "admin@shop.test"
        phone := ""
        role := .admin
        secret := ⟨"admin-password", "pepper"⟩
        createdAt := instantAt 0 }
    let s : State :=
      { tables := { users := [admin] }
        bucket := .memory (Bucket.Memory.empty "https://shop.test")
        settings := ⟨"secret", "pepper", 3600, 30000⟩
        issued := 1 }
    let bearer : String := "Bearer " ++ (Access.Claims.mk (idNumbered 1) 0 Reader.u64Max).sign "secret"
    let create : Request :=
      { method := "POST"
        target := "/api/products"
        headers := [("authorization", bearer), ("content-type", "application/json")]
        body := "\x7b\"title\":\"Lamp\",\"image\":\"https://shop.test/images/lamp.png\",\"price\":30\x7d".toUTF8 }
    let reprice : Request :=
      { method := "PUT"
        target := "/api/products/" ++ idNumbered 2
        headers := [("authorization", bearer), ("content-type", "application/json")]
        body := "\x7b\"price\":25\x7d".toUTF8 }
    let remove : Request :=
      { method := "DELETE"
        target := "/api/products/" ++ idNumbered 2
        headers := [("authorization", bearer)] }
    let reqs : List Request := [create, reprice, remove]
    let calls : List CatalogCall :=
      [.createProduct
        { title := "Lamp"
          image := "https://shop.test/images/lamp.png"
          price := 30
          sale := 0
          saleOldPrice := 0
          categoryId := ""
          kind := ""
          subtype := ""
          description := "" },
       .updateProduct (idNumbered 2) { price := some 25 },
       .deleteProduct (idNumbered 2)]
    WellFormed s ∧ CatalogSession s reqs calls ∧
      ∃ resps, ((reqs.mapM respond).run.run s).1 = .ok resps ∧
        CatalogRun s.tables.catalog calls resps ((reqs.mapM respond).run.run s).2.tables.catalog := by
  intro admin s bearer create reprice remove reqs calls
  have hwf : WellFormed s := ⟨(IdsFresh.nil 0).append_next, IdsFresh.nil 1, IdsFresh.nil 1⟩
  -- every shop the session reaches keeps the administrator and the secret
  have hadmin : ∀ s' (req : Request), AccountsKept s s' →
      req.header "authorization" = some bearer → AdminAuthorized s' req := by
    intro s' req hkept hheader
    have huser : s.tables.userById (idNumbered 1) = some admin := rfl
    have hsigned : req.header "authorization" = some ("Bearer " ++
        (Access.Claims.mk (idNumbered 1) 0 Reader.u64Max).sign s'.settings.secret) := by
      rw [hheader, hkept.settings]
    exact AdminAuthorized.of_signed hsigned (Nat.zero_le _) le_rfl
      ((stampWord_le _).trans (Nat.le_add_right _ _)) (hkept.userById huser) rfl
  -- the three requests, as the routes read them
  have hread₁ : readChecked create ProductDraft.shape ProductDraft.rules =
      .ok [("title", .text "Lamp"), ("image", .text "https://shop.test/images/lamp.png"),
        ("price", .count 30), ("sale", .count 0), ("sale_old_price", .count 0),
        ("category_id", .text ""), ("type", .text ""), ("subtype", .text ""),
        ("description", .text "")] := by
    decide +kernel
  have hread₂ : readJson reprice ProductPatch.shape = .ok [("price", .count 25)] := by
    decide +kernel
  have hroute₁ : Route.ofPath create.path = some .products := by decide +kernel
  have hroute₂ : Route.ofPath reprice.path = some (.product (idNumbered 2)) := by decide +kernel
  have hroute₃ : Route.ofPath remove.path = some (.product (idNumbered 2)) := by decide +kernel
  have hdecode : percentDecode (idNumbered 2) = some (idNumbered 2) := by decide +kernel
  -- the catalog's services before the removal leave the bucket alone
  have hbucket₁ : ((respond create).run.run s).2.bucket = s.bucket := by
    obtain ⟨_, hauth⟩ := (hadmin s create (.refl s) rfl).run_authorize
    rw [run_respond_action hroute₁ rfl (by decide) hauth rfl]
    simp only [perform, run_answering, run_bind, run_ofExcept, hread₁, run_createProduct, run_pure]
  have hbucket₂ : ∀ s', AccountsKept s s' → ((respond reprice).run.run s').2.bucket = s'.bucket := by
    intro s' hkept
    obtain ⟨_, hauth⟩ := (hadmin s' reprice hkept rfl).run_authorize
    rw [run_respond_decoded hroute₂ rfl (by decide) hauth rfl hdecode]
    simp only [perform, run_answering, run_bind, run_ofExcept, hread₂, run_updateProduct]
    split_ifs <;> rfl
  have hkept₂ := (keeps_respond create s).trans (keeps_respond reprice _)
  have hsession : CatalogSession s reqs calls := by
    refine ⟨.createProduct hroute₁ rfl hread₁, fun _ => hadmin s _ (.refl s) rfl, trivial,
      .updateProduct hroute₂ rfl hdecode hread₂, fun _ => hadmin _ _ (keeps_respond _ s) rfl,
      trivial, .deleteProduct hroute₃ rfl hdecode, fun _ => hadmin _ _ hkept₂ rfl, ?_, trivial⟩
    -- the removed product's image is in a bucket that refuses no removal
    intro row key _ _
    rw [hbucket₂ _ (keeps_respond create s), hbucket₁]
    rfl
  exact ⟨hwf, hsession, catalog_refines_maps hwf hsession⟩
end Storefront.Shop
