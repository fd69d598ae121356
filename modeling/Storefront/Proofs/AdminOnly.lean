import Storefront.Proofs.Upload
import Storefront.Shop.Routes

/-
  Who may change the shop.

  The shop has two kinds of user, customers and administrators, and its HTTP interface lets
  anyone sign up, but only as a customer.  The catalog (products and categories), the records
  of uploaded files and the image bucket change only through the endpoints guarded for
  administrators: a request reaches them only with a bearer token that verifies under the
  shop's secret, has not expired, and names a user who is an administrator at that moment.

  Two relations between the state before and after a step say what a step may change:
  `AccountsKept` (users are only added, each as a customer, and the settings stay) and
  `CatalogKept` (that, and the catalog, the files and the bucket stay).  Each is a `Guarantee`,
  so a service keeps it when every primitive of its `do` block does.  The route table sends
  every action that writes to an endpoint guarded for administrators (`endpoint_writes`), every
  other action keeps `CatalogKept`, and every action keeps `AccountsKept`; a request that
  changes the catalog was therefore let through by the guard (`respond_catalog`).

  Main statements: over every sequence of requests, users only join as customers, so the
  administrators are those of the start; every request that changes the catalog, the files or
  the bucket carries the token of such an administrator; and a write to the catalog without
  one is answered 401 and changes nothing (`catalog_writes_need_admin`).
-/

namespace Storefront.Shop

open Storefront.Account Storefront.Catalog Storefront.Http Guarantee

variable {α : Type}

/-! ## What a step may change -/

/-- From `s` to `s'` the settings stayed, and users were only added, each as a customer. -/
structure AccountsKept (s s' : State) : Prop where
  settings : s'.settings = s.settings
  joined : ∃ joined : List User,
    s'.tables.users = s.tables.users ++ joined ∧ ∀ u ∈ joined, u.role = .user

/-- As `AccountsKept`, and the products, categories, file records and bucket stayed. -/
structure CatalogKept (s s' : State) : Prop extends AccountsKept s s' where
  products : s'.tables.products = s.tables.products
  categories : s'.tables.categories = s.tables.categories
  files : s'.tables.files = s.tables.files
  bucket : s'.bucket = s.bucket

namespace AccountsKept

variable {s s₁ s₂ s₃ : State}

theorem of_users (hset : s₂.settings = s₁.settings) (husers : s₂.tables.users = s₁.tables.users) :
    AccountsKept s₁ s₂ :=
  ⟨hset, [], by rw [husers, List.append_nil], fun _ h => nomatch h⟩

theorem refl (s : State) : AccountsKept s s := of_users rfl rfl

theorem trans (h₁₂ : AccountsKept s₁ s₂) (h₂₃ : AccountsKept s₂ s₃) : AccountsKept s₁ s₃ := by
  obtain ⟨j₁, hu₁, hr₁⟩ := h₁₂.joined
  obtain ⟨j₂, hu₂, hr₂⟩ := h₂₃.joined
  refine ⟨h₂₃.settings.trans h₁₂.settings, j₁ ++ j₂, by rw [hu₂, hu₁, List.append_assoc], ?_⟩
  intro u hu
  rcases List.mem_append.1 hu with h | h
  · exact hr₁ u h
  · exact hr₂ u h

/-- A user of the shop before the step is one after it, with the same record: users are only
added. -/
theorem userById (h : AccountsKept s₁ s₂) {id : String} {u : User}
    (hu : s₁.tables.userById id = some u) : s₂.tables.userById id = some u := by
  obtain ⟨joined, husers, -⟩ := h.joined
  unfold Tables.userById at hu ⊢
  rw [husers, List.find?_append, hu, Option.some_or]

/-- A user who is an administrator after the step was one before it, with the same record:
the users added are customers. -/
theorem admin (h : AccountsKept s₁ s₂) {id : String} {u : User}
    (hu : s₂.tables.userById id = some u) (hadmin : u.role = .admin) :
    s₁.tables.userById id = some u := by
  obtain ⟨joined, husers, hroles⟩ := h.joined
  unfold Tables.userById at hu ⊢
  rw [husers, List.find?_append] at hu
  cases hfind : s₁.tables.users.find? (·.id == id) with
  | some v =>
    rw [hfind, Option.some_or] at hu
    exact hu
  | none =>
    -- the user would be one of the customers that joined
    rw [hfind, Option.none_or] at hu
    rw [hroles u (List.mem_of_find?_eq_some hu)] at hadmin
    cases hadmin

end AccountsKept

namespace CatalogKept

variable {s₁ s₂ s₃ : State}

theorem of_tables (hset : s₂.settings = s₁.settings) (htables : s₂.tables = s₁.tables)
    (hbucket : s₂.bucket = s₁.bucket) : CatalogKept s₁ s₂ :=
  { AccountsKept.of_users hset (by rw [htables]) with
    products := by rw [htables]
    categories := by rw [htables]
    files := by rw [htables]
    bucket := hbucket }

theorem refl (s : State) : CatalogKept s s := of_tables rfl rfl rfl

/-- A customer joining keeps the catalog. -/
theorem join {s : State} {u : User} (hu : u.role = .user) :
    CatalogKept s { s with tables := { s.tables with users := s.tables.users ++ [u] } } :=
  { settings := rfl
    joined := ⟨[u], rfl, fun v hv => by rw [List.mem_singleton.1 hv]; exact hu⟩
    products := rfl
    categories := rfl
    files := rfl
    bucket := rfl }

theorem trans (h₁₂ : CatalogKept s₁ s₂) (h₂₃ : CatalogKept s₂ s₃) : CatalogKept s₁ s₃ :=
  { AccountsKept.trans h₁₂.toAccountsKept h₂₃.toAccountsKept with
    products := h₂₃.products.trans h₁₂.products
    categories := h₂₃.categories.trans h₁₂.categories
    files := h₂₃.files.trans h₁₂.files
    bucket := h₂₃.bucket.trans h₁₂.bucket }

end CatalogKept

/-- Users only join as customers, and the settings stay. -/
def accountsKept : Guarantee := ⟨AccountsKept, AccountsKept.refl, AccountsKept.trans⟩

/-- Only users change, and only by customers joining. -/
def catalogKept : Guarantee := ⟨CatalogKept, CatalogKept.refl, CatalogKept.trans⟩

/-- Reading the clock or taking an id changes nothing either relation looks at. -/
theorem catalogKept_now (s : State) : catalogKept.holds s { s with clock := s.clock + 1 } :=
  CatalogKept.of_tables rfl rfl rfl

theorem catalogKept_freshId (s : State) : catalogKept.holds s { s with issued := s.issued + 1 } :=
  CatalogKept.of_tables rfl rfl rfl

theorem accountsKept_of_catalogKept {x : Service α} (hx : catalogKept.Keeps x) :
    accountsKept.Keeps x :=
  hx.mono fun _ _ h => CatalogKept.toAccountsKept h

/-! ## The services

Reading services change nothing; signing up and signing in keep the catalog; every service
keeps the accounts. -/

theorem keeps_whoIs (token : String) : unchanged.Keeps (whoIs token) := by
  unfold whoIs
  exact keeps_bind keeps_get fun _ => keeps_bind (keeps_orFail _ _) fun _ => keeps_orFail _ _

/-- Checking the caller changes nothing. -/
theorem keeps_authorize (g : Guard) (req : Request) : unchanged.Keeps (authorize g req) := by
  unfold authorize
  split
  · exact keeps_pure _
  · exact keeps_bind (keeps_ofExcept _) fun token => keeps_bind (keeps_whoIs token) fun _ =>
      keeps_bind (keeps_require _ _) fun _ => keeps_pure _

theorem keeps_products : unchanged.Keeps products :=
  keeps_bind keeps_get fun _ => keeps_pure _

theorem keeps_product (id : String) : unchanged.Keeps (product id) :=
  keeps_bind keeps_get fun _ => keeps_orFail _ _

theorem keeps_categories : unchanged.Keeps categories :=
  keeps_bind keeps_get fun _ => keeps_pure _

theorem keeps_category (id : String) : unchanged.Keeps (category id) :=
  keeps_bind keeps_get fun _ => keeps_orFail _ _

/-- Serving an object reads the bucket and answers or fails. -/
theorem keeps_serveObject (key : String) : unchanged.Keeps (serveObject key) := by
  unfold serveObject
  dsimp only
  split
  · exact keeps_throw_bind _ _
  · refine keeps_bind keeps_get fun sh => ?_
    split
    · -- in memory: the system refuses the path, or finds nothing
      split
      · exact keeps_throw_bind _ _
      · exact keeps_throw _
    · -- on disk: the system refuses the path, or answers by what lies at it
      split
      · exact keeps_throw_bind _ _
      · split
        · split
          · exact keeps_throw _
          · exact keeps_pure _
        · exact keeps_pure _
        · exact keeps_throw _
        · exact keeps_throw _
        · exact keeps_throw _

/-- The tables after a user is added: the user is the last row. -/
theorem Tables.addUser_eq_some {t t' : Tables} {u : User} (h : t.addUser u = some t') :
    t' = { t with users := t.users ++ [u] } := by
  unfold Tables.addUser at h
  split at h
  · cases h
  · cases h
    rfl

/-- Signing up adds one customer and nothing else. -/
theorem keeps_signUp (form : SignUp) : catalogKept.Keeps (signUp form) := by
  unfold signUp addUser
  refine keeps_bind (keeps_freshId catalogKept_freshId) fun id =>
    keeps_bind keeps_get fun _ => keeps_bind (keeps_now catalogKept_now) fun createdAt =>
      keeps_get_bind fun s => ?_
  split
  · next t hadd =>
    obtain rfl := Tables.addUser_eq_some hadd
    simp only [run_bind, run_modify, run_pure]
    exact CatalogKept.join rfl
  · exact keeps_throw _ s

/-- Signing in reads the clock and the users, and changes nothing else. -/
theorem keeps_signIn (form : SignIn) : catalogKept.Keeps (signIn form) := by
  unfold signIn mintToken
  exact keeps_bind keeps_get fun _ => keeps_bind (keeps_orFail _ _) fun _ =>
    keeps_bind keeps_get fun _ => keeps_bind (keeps_require _ _) fun _ =>
      keeps_bind (keeps_now catalogKept_now) fun _ => keeps_bind keeps_get fun _ =>
        keeps_bind (keeps_require _ _) fun _ => keeps_pure _

/-! ### The writes of the catalog keep the users -/

@[simp] theorem Tables.updateProduct_users (t : Tables) (id : String) (u : Sql.Update ProductColumn) :
    (t.updateProduct id u).1.users = t.users := by
  unfold Tables.updateProduct
  split <;> rfl

@[simp] theorem Tables.updateCategory_users (t : Tables) (id : String)
    (u : Sql.Update CategoryColumn) : (t.updateCategory id u).1.users = t.users := by
  unfold Tables.updateCategory
  split <;> rfl

/-- A step that leaves the users and the settings keeps the accounts. -/
theorem accountsKept_of_users {s s' : State} (hset : s'.settings = s.settings)
    (husers : s'.tables.users = s.tables.users) : accountsKept.holds s s' :=
  AccountsKept.of_users hset husers

theorem keeps_createProduct (d : ProductDraft) : accountsKept.Keeps (createProduct d) := by
  unfold createProduct
  exact keeps_bind (keeps_freshId fun _ => accountsKept_of_users rfl rfl) fun _ =>
    keeps_bind (keeps_now fun _ => accountsKept_of_users rfl rfl) fun _ =>
      keeps_bind (keeps_modify fun _ => accountsKept_of_users rfl rfl) fun _ => keeps_pure _

theorem keeps_updateProduct (id : String) (p : ProductPatch) :
    accountsKept.Keeps (updateProduct id p) := by
  unfold updateProduct
  exact keeps_bind (keeps_withTables fun s => accountsKept_of_users rfl
    (Tables.updateProduct_users s.tables id p.toUpdate)) fun _ => keeps_require _ _

theorem keeps_removeObject (key : String) : accountsKept.Keeps (removeObject key) := by
  unfold removeObject
  refine keeps_bind (keeps_withBucket fun _ => accountsKept_of_users rfl rfl) fun r => ?_
  cases r with
  | ok => exact keeps_pure _
  | error e => exact keeps_throw _

theorem keeps_deleteProduct (id : String) : accountsKept.Keeps (deleteProduct id) := by
  unfold deleteProduct
  refine keeps_bind (Keeps.of_unchanged (keeps_product id)) fun p => ?_
  -- the image goes first, when its url names an object, then the row
  have hrow : accountsKept.Keeps (do
      let gone ← withTables fun t => t.removeProduct id
      require (decide (gone ≠ 0)) (productNotFound id)) :=
    keeps_bind (keeps_withTables fun _ => accountsKept_of_users rfl rfl) fun _ => keeps_require _ _
  split
  · exact keeps_bind (keeps_removeObject _) fun _ => hrow
  · exact hrow

theorem keeps_createCategory (name : String) : accountsKept.Keeps (createCategory name) := by
  unfold createCategory
  exact keeps_bind (keeps_freshId fun _ => accountsKept_of_users rfl rfl) fun _ =>
    keeps_bind (keeps_now fun _ => accountsKept_of_users rfl rfl) fun _ =>
      keeps_bind (keeps_modify fun _ => accountsKept_of_users rfl rfl) fun _ => keeps_pure _

theorem keeps_updateCategory (id : String) (p : CategoryPatch) :
    accountsKept.Keeps (updateCategory id p) := by
  unfold updateCategory
  exact keeps_bind (keeps_withTables fun s => accountsKept_of_users rfl
    (Tables.updateCategory_users s.tables id p.toUpdate)) fun _ => keeps_require _ _

theorem keeps_deleteCategory (id : String) : accountsKept.Keeps (deleteCategory id) := by
  unfold deleteCategory
  exact keeps_bind (keeps_withTables fun _ => accountsKept_of_users rfl rfl) fun _ =>
    keeps_require _ _

/-- An upload changes the bucket, and at most one product and the file records. -/
theorem keeps_uploadImage (form : UploadForm) : accountsKept.Keeps (uploadImage form) := by
  intro s
  rcases hrun : (uploadImage form).run.run s with ⟨r, s'⟩
  cases UploadRun.of_run hrun with
  | rejected => exact AccountsKept.refl s
  | stagingFailed | timedOut | uploadFailed | productMissing | previousKept | attachFailed =>
    exact accountsKept_of_users rfl rfl
  | stored _ _ _ _ _ _ hatt =>
    obtain ⟨-, rfl⟩ := Tables.attachFile_eq_some.1 hatt
    exact accountsKept_of_users rfl rfl

/-! ## Actions -/

/-- Whether an action writes the catalog, the file records or the bucket. -/
def Action.writes : Action → Bool
  | .createProduct | .updateProduct _ | .deleteProduct _ | .createCategory | .updateCategory _
  | .deleteCategory _ | .upload => true
  | _ => false

/-- An action that does not write keeps the catalog. -/
theorem keeps_perform_catalog (req : Request) (caller : Option User) {a : Action}
    (ha : a.writes = false) : catalogKept.Keeps (perform req caller a) := by
  cases a with
  | signUp =>
    exact keeps_bind (keeps_ofExcept _) fun _ => keeps_bind (keeps_signUp _) fun _ => keeps_pure _
  | signIn =>
    exact keeps_bind (keeps_ofExcept _) fun _ => keeps_bind (keeps_signIn _) fun _ => keeps_pure _
  | profile => exact keeps_bind (keeps_orFail _ _) fun _ => keeps_pure _
  | listProducts => exact keeps_bind (Keeps.of_unchanged keeps_products) fun _ => keeps_pure _
  | showProduct id => exact keeps_bind (Keeps.of_unchanged (keeps_product id)) fun _ => keeps_pure _
  | listCategories => exact keeps_bind (Keeps.of_unchanged keeps_categories) fun _ => keeps_pure _
  | showCategory id =>
    exact keeps_bind (Keeps.of_unchanged (keeps_category id)) fun _ => keeps_pure _
  | serveObject key => exact Keeps.of_unchanged (keeps_serveObject key)
  | createProduct | updateProduct _ | deleteProduct _ | createCategory | updateCategory _
  | deleteCategory _ | upload => cases ha

/-- Every action keeps the accounts. -/
theorem keeps_perform (req : Request) (caller : Option User) (a : Action) :
    accountsKept.Keeps (perform req caller a) := by
  cases hw : a.writes
  · exact accountsKept_of_catalogKept (keeps_perform_catalog req caller hw)
  cases a with
  | createProduct =>
    exact keeps_bind (keeps_ofExcept _) fun _ => keeps_bind (keeps_createProduct _) fun _ =>
      keeps_pure _
  | updateProduct id =>
    exact keeps_bind (keeps_ofExcept _) fun _ => keeps_bind (keeps_updateProduct id _) fun _ =>
      keeps_pure _
  | deleteProduct id => exact keeps_bind (keeps_deleteProduct id) fun _ => keeps_pure _
  | createCategory =>
    exact keeps_bind (keeps_ofExcept _) fun _ => keeps_bind (keeps_createCategory _) fun _ =>
      keeps_pure _
  | updateCategory id =>
    exact keeps_bind (keeps_ofExcept _) fun _ => keeps_bind (keeps_updateCategory id _) fun _ =>
      keeps_pure _
  | deleteCategory id => exact keeps_bind (keeps_deleteCategory id) fun _ => keeps_pure _
  | upload =>
    -- the form is read, and a form that can be read is uploaded
    unfold perform
    dsimp only
    split
    · exact keeps_pure _
    · split
      · exact keeps_throw_bind _ _
      · split
        · exact keeps_throw _
        · exact keeps_bind (keeps_uploadImage _) fun _ => keeps_pure _
  | signUp | signIn | profile | listProducts | showProduct _ | listCategories | showCategory _
  | serveObject _ => cases hw

/-- Decoding a path parameter keeps the action's kind. -/
theorem Action.param_writes {a : Action} {name raw : String} {rebuild : String → Action}
    (h : a.param = some (name, raw, rebuild)) (v : String) : (rebuild v).writes = a.writes := by
  cases a <;> simp only [Action.param, reduceCtorEq, Option.some.injEq, Prod.mk.injEq] at h <;>
    obtain ⟨-, -, rfl⟩ := h <;> rfl

/-- Every endpoint whose action writes is guarded for administrators. -/
theorem Route.endpoint_writes {r : Route} {method : String} {g : Guard} {a : Action}
    (h : r.endpoint method = some (g, a)) (hw : a.writes = true) : g = .admin := by
  unfold Route.endpoint at h
  generalize (if method = "HEAD" then "GET" else method) = method at h
  dsimp only at h
  -- the table, one endpoint at a time
  split at h <;> cases h <;> simp [Action.writes] at hw ⊢

/-! ## The guard for administrators -/

/-- The text of a request's `Authorization` header, as the guard reads it. -/
def authorizationText (req : Request) : Option String :=
  (req.header "authorization").map fun v => (visibleText v).getD ""

/-- A request carries the token of an administrator of `s`: its `Authorization` header holds a
bearer token that verifies under the shop's secret and has not expired by the shop's clock,
and whose subject is a user of `s` who is an administrator. -/
def AdminAuthorized (s : State) (req : Request) : Prop :=
  ∃ token claims user,
    Access.bearerToken (authorizationText req) = .ok token ∧
    Access.verify s.settings.secret (Access.stampWord (instantAt s.clock).seconds) token =
      some claims ∧
    s.tables.userById claims.sub = some user ∧ user.role = .admin

/-- A header that holds no bearer token is refused as unauthorized. -/
theorem bearerToken_error {header : Option String} {e : Error}
    (h : Access.bearerToken header = .error e) : ∃ msg, e = .unauthorized msg := by
  unfold Access.bearerToken at h
  split at h
  · cases h
    exact ⟨_, rfl⟩
  · cases h
    exact ⟨_, rfl⟩
  · -- two words: the scheme, then the token
    split at h
    · split at h
      · cases h
        exact ⟨_, rfl⟩
      · split at h
        · cases h
          exact ⟨_, rfl⟩
        · cases h
    · cases h
      exact ⟨_, rfl⟩

/-- The token an administrator's request shows verifies, and names an administrator. -/
theorem AdminAuthorized.claims {s : State} {req : Request} {token : String}
    (h : AdminAuthorized s req) (htok : Access.bearerToken (authorizationText req) = .ok token) :
    ∃ claims user,
      Access.verify s.settings.secret (Access.stampWord (instantAt s.clock).seconds) token =
        some claims ∧
      s.tables.userById claims.sub = some user ∧ user.role = .admin := by
  obtain ⟨token', claims, user, htok', hver, huser, hrole⟩ := h
  rw [htok] at htok'
  cases htok'
  exact ⟨claims, user, hver, huser, hrole⟩

/-- **The guard for administrators.**  It answers the caller when the request carries the token
of an administrator, and otherwise fails as unauthorized; either way the state stays. -/
theorem run_authorize_admin (req : Request) (s : State) :
    (AdminAuthorized s req ∧ ∃ user, (authorize .admin req).run.run s = (.ok (some user), s)) ∨
      (¬AdminAuthorized s req ∧
        ∃ msg, (authorize .admin req).run.run s = (.error (.unauthorized msg), s)) := by
  have hauth : authorize .admin req = do
      let user ← whoIs (← ofExcept (Access.bearerToken (authorizationText req)))
      require (user.role = .admin) (.unauthorized "you don't have admin role")
      return some user := rfl
  rcases htok : Access.bearerToken (authorizationText req) with e | token
  · -- no bearer token
    obtain ⟨msg, rfl⟩ := bearerToken_error htok
    refine .inr ⟨fun ⟨_, _, _, h, _⟩ => ?_, msg, ?_⟩
    · rw [htok] at h
      cases h
    · simp only [hauth, run_bind, run_ofExcept, htok]
  rcases hver : Access.verify s.settings.secret (Access.stampWord (instantAt s.clock).seconds) token
    with _ | claims
  · -- a token that does not verify now
    refine .inr ⟨fun h => ?_, "invalid token", ?_⟩
    · obtain ⟨_, _, hv, -⟩ := h.claims htok
      rw [hver] at hv
      cases hv
    · simp only [hauth, run_bind, run_ofExcept, htok, whoIs, run_get, run_orFail, hver, invalidToken]
  rcases huser : s.tables.userById claims.sub with _ | user
  · -- a token of a user who is gone
    refine .inr ⟨fun h => ?_, "invalid token", ?_⟩
    · obtain ⟨_, _, hv, hu, -⟩ := h.claims htok
      rw [hver] at hv
      cases hv
      rw [huser] at hu
      cases hu
    · simp only [hauth, run_bind, run_ofExcept, htok, whoIs, run_get, run_orFail, hver, huser,
        invalidToken]
  by_cases hrole : user.role = .admin
  · exact .inl ⟨⟨token, claims, user, htok, hver, huser, hrole⟩, user,
      by simp only [hauth, run_bind, run_ofExcept, htok, whoIs, run_get, run_orFail, hver, huser,
        run_require, hrole, decide_true, if_true, run_pure]⟩
  · -- a customer's token
    refine .inr ⟨fun h => ?_, "you don't have admin role", ?_⟩
    · obtain ⟨_, _, hv, hu, hr⟩ := h.claims htok
      rw [hver] at hv
      cases hv
      rw [huser] at hu
      cases hu
      exact hrole hr
    · simp only [hauth, run_bind, run_ofExcept, htok, whoIs, run_get, run_orFail, hver, huser,
        run_require, hrole, decide_false, Bool.false_eq_true, if_false]

/-! ## Answering a request -/

/-- A service whose failures are answered leaves the state the service leaves. -/
theorem answering_state (x : Service Response) (s : State) :
    ((answering x).run.run s).2 = (x.run.run s).2 := by
  unfold answering
  rw [run_tryCatch]
  rcases x.run.run s with ⟨_ | _, _⟩ <;> rfl

theorem run_map_state {β : Type} (f : α → β) (x : Service α) (s : State) :
    ((f <$> x).run.run s).2 = (x.run.run s).2 := by
  rw [run_map]
  rcases x.run.run s with ⟨_ | _, _⟩ <;> rfl

/-- Every request keeps the accounts: users only join as customers. -/
theorem keeps_respond (req : Request) : accountsKept.Keeps (respond req) := by
  unfold respond
  split
  · exact keeps_pure _
  · refine keeps_map _ (keeps_tryCatch ?_ fun _ => keeps_pure _)
    split
    · exact keeps_bind (Keeps.of_unchanged (keeps_authorize _ _)) fun _ => keeps_pure _
    · refine keeps_bind (Keeps.of_unchanged (keeps_authorize _ _)) fun caller => ?_
      split
      · exact keeps_perform req caller _
      · split
        · exact keeps_perform req caller _
        · exact keeps_pure _

/-- **A request that changes the catalog was let through by the guard for administrators.**
Either the request keeps the catalog, the files and the bucket, or it carries the token of an
administrator. -/
theorem respond_catalog (req : Request) (s : State) :
    CatalogKept s ((respond req).run.run s).2 ∨ AdminAuthorized s req := by
  by_cases hadm : AdminAuthorized s req
  · exact .inr hadm
  refine .inl ?_
  unfold respond
  split
  · exact CatalogKept.refl s
  · dsimp only
    rw [run_map_state, answering_state]
    split
    · -- a method the route does not answer: the caller is checked, then refused
      exact (keeps_bind (Keeps.of_unchanged (keeps_authorize _ _)) fun _ => keeps_pure _ :
        catalogKept.Keeps _) s
    · next guard action hend =>
      cases hw : action.writes
      · -- an action that does not write, whoever calls it
        refine (keeps_bind (Keeps.of_unchanged (keeps_authorize _ _)) fun caller => ?_ :
          catalogKept.Keeps _) s
        split
        · exact keeps_perform_catalog req caller hw
        · next name raw rebuild hparam =>
          split
          · exact keeps_perform_catalog req caller ((Action.param_writes hparam _).trans hw)
          · exact keeps_pure _
      · -- a write is guarded for administrators, and the guard refuses the caller
        obtain rfl := Route.endpoint_writes hend hw
        rcases run_authorize_admin req s with ⟨h, -⟩ | ⟨-, msg, hfail⟩
        · exact absurd h hadm
        · rw [run_bind, hfail]
          exact CatalogKept.refl s

/-- The guard a request meets on a route: its endpoint's, or, for a method the route does not
answer, the route's own. -/
def Route.guardFor (r : Route) (method : String) : Guard :=
  match r.endpoint method with
  | some (g, _) => g
  | none => r.fallbackGuard

/-- Every `POST`, `PUT` and `DELETE` on the products, the categories and the upload meets the
guard for administrators. -/
theorem Route.guardFor_catalog {route : Route} {method : String}
    (hroute : route = .products ∨ route = .categories ∨ route = .upload ∨
      ∃ id, route = .product id ∨ route = .category id)
    (hmethod : method = "POST" ∨ method = "PUT" ∨ method = "DELETE") :
    route.guardFor method = .admin := by
  rcases hmethod with rfl | rfl | rfl <;> rcases hroute with rfl | rfl | rfl | ⟨id, rfl | rfl⟩ <;> rfl

/-- A request that meets the guard for administrators without the token of one is answered
401, and nothing changes. -/
theorem respond_unauthorized {req : Request} {s : State} {route : Route}
    (hroute : Route.ofPath req.path = some route) (hguard : route.guardFor req.method = .admin)
    (hadm : ¬AdminAuthorized s req) :
    ∃ resp, (respond req).run.run s = (.ok resp, s) ∧ resp.status = 401 := by
  obtain ⟨msg, hfail⟩ : ∃ msg, (authorize .admin req).run.run s = (.error (.unauthorized msg), s) := by
    rcases run_authorize_admin req s with ⟨h, -⟩ | ⟨-, h⟩
    · exact absurd h hadm
    · exact h
  -- the guard fails first, whatever the endpoint, and its failure is the answer
  have hrun : (respond req).run.run s =
      (.ok (if req.method = "HEAD" then (Response.ofError (.unauthorized msg)).headOnly
        else Response.ofError (.unauthorized msg)), s) := by
    unfold respond
    rw [hroute]
    dsimp only
    unfold Route.guardFor at hguard
    rcases hend : route.endpoint req.method with _ | ⟨g, a⟩
    · rw [hend] at hguard
      simp only [hguard, run_map, answering, run_tryCatch, run_bind, hfail, run_pure]
    · rw [hend] at hguard
      dsimp only at hguard
      simp only [hguard, run_map, answering, run_tryCatch, run_bind, hfail, run_pure]
  refine ⟨_, hrun, ?_⟩
  split <;> rfl

/-- A service whose failures are answered always answers. -/
theorem map_answering_answers {β : Type} (f : Response → β) (x : Service Response) (s : State) :
    ∃ r, ((f <$> answering x).run.run s).1 = .ok r := by
  unfold answering
  rw [run_map, run_tryCatch]
  rcases x.run.run s with ⟨_ | resp, _⟩
  · exact ⟨_, rfl⟩
  · exact ⟨f resp, rfl⟩

/-- The shop answers every request, so a sequence of requests is answered in full. -/
theorem respond_answers (req : Request) (s : State) :
    ∃ resp, ((respond req).run.run s).1 = .ok resp := by
  unfold respond
  split
  · exact ⟨_, rfl⟩
  · exact map_answering_answers _ _ s

/-! ## Every sequence of requests -/

/-- **Only administrators change the catalog.**  Every request is answered, so a sequence of
requests is answered one after another in full.  Over every such sequence from any state:
users only join, each as a customer, so no request makes an
administrator or changes a role; every request that changes the products, the categories, the
file records or the bucket carries a bearer token that verifies under the shop's secret and
has not expired at that moment, and whose subject is an administrator at that moment and was
one, with the same record, from the start; and a `POST`, `PUT` or `DELETE` on the products,
the categories or the upload without the token of an administrator is answered 401 and
changes nothing. -/
theorem catalog_writes_need_admin :
    (∀ (req : Request) (s : State), ∃ resp, ((respond req).run.run s).1 = .ok resp) ∧
    (∀ (reqs : List Request) (s : State), ∃ joined : List User,
      ((reqs.mapM respond).run.run s).2.tables.users = s.tables.users ++ joined ∧
      ∀ u ∈ joined, u.role = .user) ∧
    (∀ (earlier : List Request) (req : Request) (s : State),
      let before := ((earlier.mapM respond).run.run s).2
      let after := ((respond req).run.run before).2
      (after.tables.products ≠ before.tables.products ∨
        after.tables.categories ≠ before.tables.categories ∨
        after.tables.files ≠ before.tables.files ∨ after.bucket ≠ before.bucket) →
      ∃ token claims user,
        Access.bearerToken (authorizationText req) = .ok token ∧
        Access.verify s.settings.secret (Access.stampWord (instantAt before.clock).seconds) token =
          some claims ∧
        before.tables.userById claims.sub = some user ∧ user.role = .admin ∧
        s.tables.userById claims.sub = some user) ∧
    (∀ (req : Request) (s : State) (route : Route), Route.ofPath req.path = some route →
      (route = .products ∨ route = .categories ∨ route = .upload ∨
        ∃ id, route = .product id ∨ route = .category id) →
      (req.method = "POST" ∨ req.method = "PUT" ∨ req.method = "DELETE") →
      ¬AdminAuthorized s req →
      ∃ resp, (respond req).run.run s = (.ok resp, s) ∧ resp.status = 401) := by
  refine ⟨respond_answers, fun reqs s => (keeps_mapM keeps_respond reqs s).joined, ?_, ?_⟩
  · intro earlier req s
    dsimp only
    intro hchanged
    -- the requests before keep the accounts: the settings and the administrators are the start's
    have hbefore : AccountsKept s ((earlier.mapM respond).run.run s).2 :=
      keeps_mapM keeps_respond earlier s
    rcases respond_catalog req ((earlier.mapM respond).run.run s).2 with hkept | hadm
    · exfalso
      rcases hchanged with h | h | h | h
      · exact h hkept.products
      · exact h hkept.categories
      · exact h hkept.files
      · exact h hkept.bucket
    · obtain ⟨token, claims, user, htok, hver, huser, hrole⟩ := hadm
      rw [hbefore.settings] at hver
      exact ⟨token, claims, user, htok, hver, huser, hrole, hbefore.admin huser hrole⟩
  · intro req s route hroute hcatalog hmethod hadm
    exact respond_unauthorized hroute (Route.guardFor_catalog hcatalog hmethod) hadm

end Storefront.Shop
