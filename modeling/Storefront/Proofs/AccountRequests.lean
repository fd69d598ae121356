import Storefront.Proofs.Accounts
import Storefront.Proofs.CatalogApi
import Storefront.Proofs.BearerHeader

/-
  Accounts over HTTP.

  The account routes are `POST /auth/sign-up`, `POST /auth/sign-in` and `GET /auth/get-me`.
  A sign-up or a sign-in whose body passes validation answers what its service answers, and a
  failure as the error's answer (`run_respond_signUp`, `run_respond_signIn`); a get-me request
  answers the user the guard for signed-in users resolved (`run_respond_profile`).  Every
  request on the
  account routes keeps the accounts in order (`keeps_respond_account`), and so does seeding the
  administrator.

  Main statement: the contract of the three routes (`account_routes_contract`).  Sign-up adds
  one customer with a fresh id, or answers 409 with the users unchanged; sign-in answers a
  token exactly when address and password are those of a user and the token's expiry lies in
  the calendar, and one 401 error for every unknown address or wrong password; the token names
  the user to get-me until it expires, whatever requests come in between; the seed of the
  administrator leaves an existing account as it is.  A token lifetime that reaches past the
  calendar fails the sign-in of every user with a 500 (`sign_in_past_calendar`).
-/

namespace Storefront.Shop

open Storefront.Account Storefront.Access Storefront.Time Storefront.Http Storefront.Json
  Guarantee

section Routes

variable {req : Request} {s : State}

/-! ## The account routes, one request at a time -/

/-- Some user has an address exactly when the lookup by it finds one. -/
theorem userByEmail_isSome_iff {t : Tables} {email : String} :
    (t.userByEmail email).isSome ↔ ∃ u ∈ t.users, u.email = email := by
  rw [← Option.ne_none_iff_isSome, ne_eq, userByEmail_eq_none_iff]
  simp

/-- **The guard for signed-in users** lets a request through with the user its bearer token
names. -/
theorem run_authorize_bearer {t : String} {u : User}
    (hheader : req.header "authorization" = some ("Bearer " ++ t))
    (ht : ∀ c ∈ t.toList, BearerChar c) (hne : t ≠ "")
    (hwho : (whoIs t).run.run s = (.ok u, s)) :
    (authorize .signedIn req).run.run s = (.ok (some u), s) := by
  have hauth : authorize .signedIn req = do
      let user ← whoIs (← ofExcept (bearerToken (authorizationText req)))
      require (Guard.signedIn = .signedIn || user.role = .admin)
        (.unauthorized "you don't have admin role")
      return some user := rfl
  have htext : authorizationText req = some ("Bearer " ++ t) := by
    rw [authorizationText, hheader, Option.map_some, visibleText_bearer ht, Option.getD_some]
  rw [hauth]
  simp only [run_bind, run_ofExcept, htext, bearerToken_bearer ht hne, hwho, run_require,
    decide_true, Bool.true_or, if_true, run_pure]

/-- A sign-up whose body passes validation answers the new customer's id, or the conflict of a
taken address. -/
theorem run_respond_signUp {e : List Entry} (hroute : Route.ofPath req.path = some .signUp)
    (hpost : req.method = "POST") (hvalid : readChecked req SignUp.shape SignUp.rules = .ok e) :
    (respond req).run.run s =
      if (s.tables.userByEmail (SignUp.ofEntries e).email).isSome then
        (.ok (answer 409 "message" (.str "email is already registered")), s.tick)
      else
        (.ok (answer 201 "id" (.str (idNumbered (s.issued + 1)))),
          s.tick.join (newUser (SignUp.ofEntries e) .user s)) := by
  have hend : Route.signUp.endpoint req.method = some (.everyone, .signUp) := by
    rw [hpost]
    rfl
  rw [run_respond_action hroute hend (by rw [hpost]; decide) (run_authorize_everyone req s) rfl,
    run_answering]
  simp only [perform, run_bind, run_ofExcept, hvalid, run_signUp]
  by_cases htaken : (s.tables.userByEmail (SignUp.ofEntries e).email).isSome
  · simp only [htaken, if_true]
    rfl
  · simp only [htaken]
    rfl

/-- A sign-in whose body passes validation answers the token its service mints, or the failure
of the service. -/
theorem run_respond_signIn {e : List Entry} (hroute : Route.ofPath req.path = some .signIn)
    (hpost : req.method = "POST") (hvalid : readChecked req SignIn.shape SignIn.rules = .ok e) :
    (respond req).run.run s =
      match (signIn (SignIn.ofEntries e)).run.run s with
      | (.ok t, s') => (.ok (answer 200 "access_token" (.str t)), s')
      | (.error err, s') => (.ok (Response.ofError err), s') := by
  have hend : Route.signIn.endpoint req.method = some (.everyone, .signIn) := by
    rw [hpost]
    rfl
  rw [run_respond_action hroute hend (by rw [hpost]; decide) (run_authorize_everyone req s) rfl,
    run_answering]
  simp only [perform, run_bind, run_ofExcept, hvalid]
  rcases (signIn (SignIn.ofEntries e)).run.run s with ⟨_ | _, _⟩ <;> rfl

/-- A get-me request that the guard lets through answers the signed-in user. -/
theorem run_respond_profile {u : User} (hroute : Route.ofPath req.path = some .profile)
    (hget : req.method = "GET") (hauth : (authorize .signedIn req).run.run s = (.ok (some u), s)) :
    (respond req).run.run s = (.ok (answer 200 "data" u.toJson), s) := by
  have hend : Route.profile.endpoint req.method = some (.signedIn, .profile) := by
    rw [hget]
    rfl
  rw [run_respond_action hroute hend (by rw [hget]; decide) hauth rfl, run_answering]
  simp only [perform, run_bind, run_orFail, run_pure]

/-- Runs that answer with different statuses differ. -/
theorem ok_answer_ne {n n' : Nat} {k k' : String} {v v' : Value} {s' s'' : State} (h : n ≠ n') :
    ((.ok (answer n k v), s') : Except Error Response × State) ≠ (.ok (answer n' k' v'), s'') :=
  fun heq => h (congrArg Response.status (Except.ok.inj (Prod.mk.inj heq).1))

/-- An answer of one text gives the text back: its body reads back as the object written. -/
theorem answer_str_injective {n : Nat} {k t t' : String}
    (h : answer n k (.str t) = answer n k (.str t')) : t = t' := by
  have hplain : ∀ t : String, ∀ m ∈ [(k, Value.str t)], Reader.Plain m.2 := by
    intro t m hm
    rw [List.mem_singleton.1 hm]
    exact .str t
  have hbody := congrArg Response.body h
  simp only [answer, Response.json, Body.bytes.injEq] at hbody
  have hread := congrArg Json.parse hbody
  rw [Reader.parse_write_obj (hplain t), Reader.parse_write_obj (hplain t')] at hread
  simpa using hread

/-- **The outcome of a sign-in.**  When a user has the address and the password, the answer is
that user's token, or a 500 when the token's expiry falls outside the calendar, and the clock
moves on; when no user has both, the answer is the one 401 error and nothing changes. -/
theorem run_respond_signIn_cases {e : List Entry} (hok : AccountsOk s)
    (hroute : Route.ofPath req.path = some .signIn) (hpost : req.method = "POST")
    (hvalid : readChecked req SignIn.shape SignIn.rules = .ok e) :
    (∃ u ∈ s.tables.users, u.email = (SignIn.ofEntries e).email ∧
        u.secret.password = (SignIn.ofEntries e).password ∧
        (respond req).run.run s =
          if (expiresAt s).inRange then
            (.ok (answer 200 "access_token" (.str ((accessClaims u.id s).sign s.settings.secret))),
              { s with clock := s.clock + 1 })
          else
            (.ok (answer 500 "message" (.str "internal server error")),
              { s with clock := s.clock + 1 })) ∨
    ((¬∃ u ∈ s.tables.users, u.email = (SignIn.ofEntries e).email ∧
        u.secret.password = (SignIn.ofEntries e).password) ∧
      (respond req).run.run s =
        (.ok (answer 401 "message" (.str "invalid email or password")), s)) := by
  rw [run_respond_signIn hroute hpost hvalid]
  cases hfind : s.tables.userByEmail (SignIn.ofEntries e).email with
  | none =>
    -- no user has the address
    have hnone := userByEmail_eq_none_iff.1 hfind
    refine .inr ⟨fun ⟨u, hu, hemail, _⟩ => hnone u hu hemail, ?_⟩
    rw [run_signIn_unknown hfind]
    rfl
  | some u =>
    obtain ⟨hu, hemail⟩ := hok.userByEmail_eq_some_iff.1 hfind
    cases hmatch : u.secret.matches (SignIn.ofEntries e).password s.settings.pepper with
    | false =>
      -- the one user of the address was created with another password
      refine .inr ⟨fun ⟨v, hv, hvemail, hvpass⟩ => ?_, ?_⟩
      · obtain rfl : v = u := hok.eq_of_email hv hu (hvemail.trans hemail.symm)
        rw [(hok.matches_iff hv _).2 hvpass] at hmatch
        cases hmatch
      · rw [run_signIn_wrong hfind hmatch]
        rfl
    | true =>
      refine .inl ⟨u, hu, hemail, (hok.matches_iff hu _).1 hmatch, ?_⟩
      rw [run_signIn_match hfind hmatch, run_mintToken]
      by_cases hrange : (expiresAt s).inRange
      · simp only [hrange, if_true]
      · simp only [hrange]
        rfl

/-- A sign-in with the address and password of a user answers that user's token, or a 500
when the token's expiry falls outside the calendar. -/
theorem run_respond_signIn_user {e : List Entry} {u : User} (hok : AccountsOk s)
    (hroute : Route.ofPath req.path = some .signIn) (hpost : req.method = "POST")
    (hvalid : readChecked req SignIn.shape SignIn.rules = .ok e) (hu : u ∈ s.tables.users)
    (hemail : u.email = (SignIn.ofEntries e).email)
    (hpass : u.secret.password = (SignIn.ofEntries e).password) :
    (respond req).run.run s =
      if (expiresAt s).inRange then
        (.ok (answer 200 "access_token" (.str ((accessClaims u.id s).sign s.settings.secret))),
          { s with clock := s.clock + 1 })
      else
        (.ok (answer 500 "message" (.str "internal server error")),
          { s with clock := s.clock + 1 }) := by
  rcases run_respond_signIn_cases hok hroute hpost hvalid with
    ⟨v, hv, hvemail, -, hrun⟩ | ⟨hnone, -⟩
  · obtain rfl : v = u := hok.eq_of_email hv hu (hvemail.trans hemail.symm)
    exact hrun
  · exact absurd ⟨u, hu, hemail, hpass⟩ hnone

/-- **A sign-in answers a token exactly when** a user has its address and password and the
token's expiry lies in the calendar. -/
theorem run_respond_signIn_token_iff {e : List Entry} (hok : AccountsOk s)
    (hroute : Route.ofPath req.path = some .signIn) (hpost : req.method = "POST")
    (hvalid : readChecked req SignIn.shape SignIn.rules = .ok e) :
    (∃ t s', (respond req).run.run s = (.ok (answer 200 "access_token" (.str t)), s')) ↔
      (∃ u ∈ s.tables.users, u.email = (SignIn.ofEntries e).email ∧
        u.secret.password = (SignIn.ofEntries e).password) ∧ (expiresAt s).inRange := by
  rcases run_respond_signIn_cases hok hroute hpost hvalid with
    ⟨u, hu, hemail, hpass, hrun⟩ | ⟨hnone, hrun⟩
  · rw [hrun]
    by_cases hrange : (expiresAt s).inRange
    · simp only [hrange, if_true, and_true]
      exact ⟨fun _ => ⟨u, hu, hemail, hpass⟩, fun _ => ⟨_, _, rfl⟩⟩
    · -- the token's expiry falls outside the calendar: a 500, not a token
      simp only [hrange, Bool.false_eq_true, if_false, and_false, iff_false]
      rintro ⟨t, s', hanswer⟩
      exact ok_answer_ne (by decide) hanswer
  · rw [hrun]
    exact ⟨fun ⟨t, s', hanswer⟩ => absurd hanswer (ok_answer_ne (by decide)),
      fun h => absurd h.1 hnone⟩

/-- **A token names its user to get-me** in every later shop whose users are those of the shop
it was minted in and more after them, with the same settings, until it expires. -/
theorem run_respond_profile_token {s' : State} {u : User} {me : Request} (hok : AccountsOk s)
    (hu : u ∈ s.tables.users) (hrange : (expiresAt s).inRange = true) (hkept : AccountsKept s s')
    (hlive : (instantAt s'.clock).seconds ≤ (expiresAt s).seconds)
    (hroute : Route.ofPath me.path = some .profile) (hget : me.method = "GET")
    (hheader : me.header "authorization" =
      some ("Bearer " ++ (accessClaims u.id s).sign s.settings.secret)) :
    (respond me).run.run s' = (.ok (answer 200 "data" u.toJson), s') :=
  run_respond_profile hroute hget (run_authorize_bearer hheader (sign_bearer _ _)
    (sign_ne_empty _ _) (whoIs_after_kept hok hu hrange hkept hlive))

/-- **The token a sign-in answers names its user to get-me**, after any requests, until it
expires. -/
theorem run_respond_signIn_then_profile {e : List Entry} {u : User} {t : String} {s₁ : State}
    {me : Request} (hok : AccountsOk s) (hroute : Route.ofPath req.path = some .signIn)
    (hpost : req.method = "POST") (hvalid : readChecked req SignIn.shape SignIn.rules = .ok e)
    (hu : u ∈ s.tables.users) (hemail : u.email = (SignIn.ofEntries e).email)
    (hsign : (respond req).run.run s = (.ok (answer 200 "access_token" (.str t)), s₁))
    (reqs : List Request) (hmeroute : Route.ofPath me.path = some .profile)
    (hget : me.method = "GET") (hheader : me.header "authorization" = some ("Bearer " ++ t))
    (hlive : (instantAt ((reqs.mapM respond).run.run s₁).2.clock).seconds ≤
      (instantAt s.clock).seconds + s.settings.tokenTtlSeconds) :
    (respond me).run.run ((reqs.mapM respond).run.run s₁).2 =
      (.ok (answer 200 "data" u.toJson), ((reqs.mapM respond).run.run s₁).2) := by
  rcases run_respond_signIn_cases hok hroute hpost hvalid with
    ⟨v, hv, hvemail, -, hrun⟩ | ⟨-, hrun⟩
  · -- the user of the address is `u`
    obtain rfl : v = u := hok.eq_of_email hv hu (hvemail.trans hemail.symm)
    by_cases hrange : (expiresAt s).inRange
    · rw [hrun, if_pos hrange] at hsign
      obtain ⟨htoken, rfl⟩ := Prod.mk.inj hsign
      rw [← answer_str_injective (Except.ok.inj htoken)] at hheader
      -- the requests in between only add users after the others
      have hclock : AccountsKept s { s with clock := s.clock + 1 } := AccountsKept.of_users rfl rfl
      have hkept : AccountsKept s ((reqs.mapM respond).run.run { s with clock := s.clock + 1 }).2 :=
        hclock.trans (keeps_mapM keeps_respond reqs _)
      exact run_respond_profile_token hok hv hrange hkept hlive hmeroute hget hheader
    · rw [hrun, if_neg hrange] at hsign
      exact absurd hsign (ok_answer_ne (by decide))
  · rw [hrun] at hsign
    exact absurd hsign (ok_answer_ne (by decide))

end Routes

/-! ## The accounts stay in order -/

/-- The accounts stay in order from one state to the next. -/
def accountsInOrder : Guarantee :=
  ⟨fun s s' => AccountsOk s → AccountsOk s', fun _ h => h, fun h₁₂ h₂₃ h => h₂₃ (h₁₂ h)⟩

/-- Adding a user keeps the accounts in order: a taken address adds nobody, a free one adds a
user with the next id. -/
theorem keeps_addUser_inOrder (form : SignUp) (role : Role) :
    accountsInOrder.Keeps (addUser form role) := by
  intro s hok
  rw [run_addUser]
  split
  · exact hok.of_users rfl rfl (by simp)
  · next hfree => exact hok.join form role (Option.not_isSome_iff_eq_none.1 hfree)

/-- Signing in keeps the accounts in order: at most the clock moves. -/
theorem keeps_signIn_inOrder (form : SignIn) : accountsInOrder.Keeps (signIn form) := by
  intro s hok
  cases hfind : s.tables.userByEmail form.email with
  | none =>
    rw [run_signIn_unknown hfind]
    exact hok
  | some u =>
    cases hmatch : u.secret.matches form.password s.settings.pepper with
    | false =>
      rw [run_signIn_wrong hfind hmatch]
      exact hok
    | true =>
      rw [run_signIn_match hfind hmatch, run_mintToken]
      split
      · exact hok.of_users rfl rfl le_rfl
      · exact hok.of_users rfl rfl le_rfl

/-- The actions of the account routes are signing up, signing in and get-me. -/
theorem Route.endpoint_account {route : Route} {method : String} {g : Guard} {a : Action}
    (haccount : route = .signUp ∨ route = .signIn ∨ route = .profile)
    (h : route.endpoint method = some (g, a)) : a = .signUp ∨ a = .signIn ∨ a = .profile := by
  unfold Route.endpoint at h
  generalize (if method = "HEAD" then "GET" else method) = method at h
  -- the table, one endpoint at a time: the rows of other routes do not apply
  rcases haccount with rfl | rfl | rfl <;> dsimp only at h <;> split at h <;> simp_all

/-- **A request on the account routes keeps the accounts in order**, whatever it asks. -/
theorem keeps_respond_account {req : Request} {route : Route}
    (hroute : Route.ofPath req.path = some route)
    (haccount : route = .signUp ∨ route = .signIn ∨ route = .profile) :
    accountsInOrder.Keeps (respond req) := by
  unfold respond
  rw [hroute]
  refine keeps_map _ (keeps_tryCatch ?_ fun _ => keeps_pure _)
  split
  · exact keeps_bind (Keeps.of_unchanged (keeps_authorize _ _)) fun _ => keeps_pure _
  · next g a hend =>
    refine keeps_bind (Keeps.of_unchanged (keeps_authorize _ _)) fun caller => ?_
    rcases Route.endpoint_account haccount hend with rfl | rfl | rfl
    · exact keeps_bind (keeps_ofExcept _) fun _ =>
        keeps_bind (keeps_addUser_inOrder _ _) fun _ => keeps_pure _
    · exact keeps_bind (keeps_ofExcept _) fun _ =>
        keeps_bind (keeps_signIn_inOrder _) fun _ => keeps_pure _
    · exact keeps_bind (keeps_orFail _ _) fun _ => keeps_pure _

/-! ## The administrator's seed -/

/-- The seed of the administrator leaves a shop with a user of its address as it is. -/
theorem run_ensureAdmin_taken {s : State} {email password : String}
    (htaken : (s.tables.userByEmail email).isSome) :
    (ensureAdmin email password).run.run s = (.ok (), s) := by
  unfold ensureAdmin
  simp only [run_bind, run_get, htaken, if_true, run_pure]

/-- The seed of the administrator keeps the accounts in order. -/
theorem keeps_ensureAdmin_inOrder (email password : String) :
    accountsInOrder.Keeps (ensureAdmin email password) := by
  unfold ensureAdmin
  refine keeps_get_bind fun s => ?_
  split
  · exact keeps_pure _ s
  · exact keeps_bind (keeps_addUser_inOrder _ _) (fun _ => keeps_pure _) s

end Storefront.Shop

namespace Storefront.Shop

open Storefront.Account Storefront.Access Storefront.Time Storefront.Http Storefront.Json

/-! ## The contract of the account routes -/

/-- **The account routes.**  The accounts of a shop without users are in order, and every
request on the account routes and every seed of the administrator keeps them so.  In a shop
whose accounts are in order:
* a sign-up that passes validation adds one customer, with the form's fields and an id no user
  has, when no user has its address, and otherwise answers 409 with the users unchanged;
* a sign-in that passes validation, with the address and password of a user, answers that
  user's token, or a 500 when the token's expiry falls outside the calendar; it answers a token
  exactly when both hold; and it answers the one 401 error whenever no user has both, changing
  nothing;
* the token a sign-in answers names its user to get-me, after any requests, until it expires;
* the seed of the administrator leaves a shop with a user of its address as it is. -/
theorem account_routes_contract :
    (∀ s : State, s.tables.users = [] → AccountsOk s) ∧
    (∀ (s : State) (req : Request) (route : Route), AccountsOk s →
      Route.ofPath req.path = some route → (route = .signUp ∨ route = .signIn ∨ route = .profile) →
      AccountsOk ((respond req).run.run s).2) ∧
    (∀ (s : State) (email password : String), AccountsOk s →
      AccountsOk ((ensureAdmin email password).run.run s).2) ∧
    (∀ (s : State) (req : Request) (e : List Entry), AccountsOk s →
      Route.ofPath req.path = some .signUp → req.method = "POST" →
      readChecked req SignUp.shape SignUp.rules = .ok e →
      ((∀ u ∈ s.tables.users, u.email ≠ (SignUp.ofEntries e).email) →
        idNumbered (s.issued + 1) ∉ s.tables.users.map (·.id) ∧
        (respond req).run.run s = (.ok (answer 201 "id" (.str (idNumbered (s.issued + 1)))),
          s.tick.join (newUser (SignUp.ofEntries e) .user s))) ∧
      ((∃ u ∈ s.tables.users, u.email = (SignUp.ofEntries e).email) →
        (respond req).run.run s =
          (.ok (answer 409 "message" (.str "email is already registered")), s.tick))) ∧
    (∀ (s : State) (req : Request) (e : List Entry), AccountsOk s →
      Route.ofPath req.path = some .signIn → req.method = "POST" →
      readChecked req SignIn.shape SignIn.rules = .ok e →
      (∀ u ∈ s.tables.users, u.email = (SignIn.ofEntries e).email →
        u.secret.password = (SignIn.ofEntries e).password →
        (respond req).run.run s =
          if (expiresAt s).inRange then
            (.ok (answer 200 "access_token" (.str ((accessClaims u.id s).sign s.settings.secret))),
              { s with clock := s.clock + 1 })
          else
            (.ok (answer 500 "message" (.str "internal server error")),
              { s with clock := s.clock + 1 })) ∧
      ((∃ t s', (respond req).run.run s = (.ok (answer 200 "access_token" (.str t)), s')) ↔
        (∃ u ∈ s.tables.users, u.email = (SignIn.ofEntries e).email ∧
          u.secret.password = (SignIn.ofEntries e).password) ∧ (expiresAt s).inRange) ∧
      ((¬∃ u ∈ s.tables.users, u.email = (SignIn.ofEntries e).email ∧
          u.secret.password = (SignIn.ofEntries e).password) →
        (respond req).run.run s =
          (.ok (answer 401 "message" (.str "invalid email or password")), s))) ∧
    (∀ (s s₁ : State) (req me : Request) (e : List Entry) (u : User) (t : String)
        (reqs : List Request), AccountsOk s →
      Route.ofPath req.path = some .signIn → req.method = "POST" →
      readChecked req SignIn.shape SignIn.rules = .ok e →
      u ∈ s.tables.users → u.email = (SignIn.ofEntries e).email →
      (respond req).run.run s = (.ok (answer 200 "access_token" (.str t)), s₁) →
      Route.ofPath me.path = some .profile → me.method = "GET" →
      me.header "authorization" = some ("Bearer " ++ t) →
      (instantAt ((reqs.mapM respond).run.run s₁).2.clock).seconds ≤
        (instantAt s.clock).seconds + s.settings.tokenTtlSeconds →
      (respond me).run.run ((reqs.mapM respond).run.run s₁).2 =
        (.ok (answer 200 "data" u.toJson), ((reqs.mapM respond).run.run s₁).2)) ∧
    (∀ (s : State) (email password : String), (∃ u ∈ s.tables.users, u.email = email) →
      (ensureAdmin email password).run.run s = (.ok (), s)) := by
  refine ⟨fun s hempty => AccountsOk.of_empty hempty,
    fun s req route hok hroute haccount => keeps_respond_account hroute haccount s hok,
    fun s email password hok => keeps_ensureAdmin_inOrder email password s hok,
    ?signUp, ?signIn, ?token, ?seed⟩
  case signUp =>
    intro s req e hok hroute hpost hvalid
    rw [run_respond_signUp hroute hpost hvalid]
    refine ⟨fun hfree => ?_, fun htaken => ?_⟩
    · rw [userByEmail_eq_none_iff.2 hfree]
      exact ⟨hok.ids.next_not_mem, rfl⟩
    · rw [if_pos (userByEmail_isSome_iff.2 htaken)]
  case signIn =>
    intro s req e hok hroute hpost hvalid
    refine ⟨fun u hu hemail hpass => run_respond_signIn_user hok hroute hpost hvalid hu hemail hpass,
      run_respond_signIn_token_iff hok hroute hpost hvalid, fun hnone => ?_⟩
    rcases run_respond_signIn_cases hok hroute hpost hvalid with
      ⟨u, hu, hemail, hpass, -⟩ | ⟨-, hrun⟩
    · exact absurd ⟨u, hu, hemail, hpass⟩ hnone
    · exact hrun
  case token =>
    intro s s₁ req me e u t reqs hok hroute hpost hvalid hu hemail hsign hmeroute hget hheader
      hlive
    exact run_respond_signIn_then_profile hok hroute hpost hvalid hu hemail hsign reqs hmeroute
      hget hheader hlive
  case seed =>
    intro s email password htaken
    exact run_ensureAdmin_taken (userByEmail_isSome_iff.2 htaken)


/-- In a shop without users, a customer signs up, signs in, and get-me with the token names the
customer. -/
theorem account_routes_sign_up_sign_in_get_me :
    let s : State :=
      { bucket := .memory (Bucket.Memory.empty "https://shop.test")
        settings := ⟨"secret", "pepper", 3600, 30000⟩ }
    let signUpReq : Request :=
      { method := "POST", target := "/auth/sign-up",
        headers := [("content-type", "application/json")],
        body := ("\x7b\"name\":\"Ann\",\"surname\":\"Lee\",\"email\":\"ann@shop.test\"," ++
          "\"phone\":\"1\",\"password\":\"secret-1\"\x7d").toUTF8 }
    let signInReq : Request :=
      { method := "POST", target := "/auth/sign-in",
        headers := [("content-type", "application/json")],
        body := "\x7b\"email\":\"ann@shop.test\",\"password\":\"secret-1\"\x7d".toUTF8 }
    let form : SignUp := ⟨"Ann", "Lee", "ann@shop.test", "1", "secret-1"⟩
    let s₁ := s.tick.join (newUser form .user s)
    (respond signUpReq).run.run s = (.ok (answer 201 "id" (.str (idNumbered 1))), s₁) ∧
      ∃ t s₂, (respond signInReq).run.run s₁ = (.ok (answer 200 "access_token" (.str t)), s₂) ∧
        (respond
          { method := "GET", target := "/auth/get-me",
            headers := [("authorization", "Bearer " ++ t)] }).run.run s₂ =
          (.ok (answer 200 "data" (newUser form .user s).toJson), s₂) := by
  intro s signUpReq signInReq form s₁
  have hempty : AccountsOk s := account_routes_contract.1 s rfl
  have hupRoute : Route.ofPath signUpReq.path = some .signUp := by decide
  have hupValid : readChecked signUpReq SignUp.shape SignUp.rules = .ok [("name", .text "Ann"),
      ("surname", .text "Lee"), ("email", .text "ann@shop.test"), ("phone", .text "1"),
      ("password", .text "secret-1")] := by
    decide +kernel
  have hup := (account_routes_contract.2.2.2.1 s signUpReq _ hempty hupRoute rfl hupValid).1
    (fun u hu => nomatch hu)
  have hok₁ : AccountsOk s₁ := by
    have hkeep := account_routes_contract.2.1 s signUpReq .signUp hempty hupRoute (.inl rfl)
    rwa [hup.2] at hkeep
  have hinRoute : Route.ofPath signInReq.path = some .signIn := by decide
  have hinValid : readChecked signInReq SignIn.shape SignIn.rules =
      .ok [("email", .text "ann@shop.test"), ("password", .text "secret-1")] := by
    decide +kernel
  have hmem : newUser form .user s ∈ s₁.tables.users := by simp [s₁]
  have hsign := (account_routes_contract.2.2.2.2.1 s₁ signInReq _ hok₁ hinRoute rfl hinValid).1
    (newUser form .user s) hmem rfl rfl
  rw [if_pos (by decide)] at hsign
  refine ⟨hup.2, _, _, hsign, ?_⟩
  exact account_routes_contract.2.2.2.2.2.1 s₁ _ signInReq _ _ (newUser form .user s) _ [] hok₁
    hinRoute rfl hinValid hmem rfl hsign (by decide) rfl rfl (by decide)


/-- **A token lifetime past the calendar.**  With tokens that last three billion hours, a
customer who has just signed up signs in with the right password and is answered 500: the
token's expiry would fall after the calendar's last day. -/
theorem sign_in_past_calendar :
    let s : State :=
      { bucket := .memory (Bucket.Memory.empty "https://shop.test")
        settings := ⟨"secret", "pepper", 3000000000 * 3600, 30000⟩ }
    let signUpReq : Request :=
      { method := "POST", target := "/auth/sign-up",
        headers := [("content-type", "application/json")],
        body := ("\x7b\"name\":\"Ann\",\"surname\":\"Lee\",\"email\":\"ann@shop.test\"," ++
          "\"phone\":\"1\",\"password\":\"secret-1\"\x7d").toUTF8 }
    let signInReq : Request :=
      { method := "POST", target := "/auth/sign-in",
        headers := [("content-type", "application/json")],
        body := "\x7b\"email\":\"ann@shop.test\",\"password\":\"secret-1\"\x7d".toUTF8 }
    let form : SignUp := ⟨"Ann", "Lee", "ann@shop.test", "1", "secret-1"⟩
    let s₁ := s.tick.join (newUser form .user s)
    (respond signUpReq).run.run s = (.ok (answer 201 "id" (.str (idNumbered 1))), s₁) ∧
      (∃ u ∈ s₁.tables.users, u.email = "ann@shop.test" ∧ u.secret.password = "secret-1") ∧
      (respond signInReq).run.run s₁ =
        (.ok (answer 500 "message" (.str "internal server error")), { s₁ with clock := 2 }) := by
  intro s signUpReq signInReq form s₁
  have hupValid : readChecked signUpReq SignUp.shape SignUp.rules = .ok [("name", .text "Ann"),
      ("surname", .text "Lee"), ("email", .text "ann@shop.test"), ("phone", .text "1"),
      ("password", .text "secret-1")] := by
    decide +kernel
  have hup : (respond signUpReq).run.run s =
      (.ok (answer 201 "id" (.str (idNumbered 1))), s₁) := by
    rw [run_respond_signUp (by decide) rfl hupValid]
    rfl
  -- the shop after the sign-up has its accounts in order, with the customer in it
  have hok₁ : AccountsOk s₁ := (AccountsOk.of_empty rfl).join form .user rfl
  have hmem : newUser form .user s ∈ s₁.tables.users := by simp [s₁]
  have hinValid : readChecked signInReq SignIn.shape SignIn.rules =
      .ok [("email", .text "ann@shop.test"), ("password", .text "secret-1")] := by
    decide +kernel
  have hsign := run_respond_signIn_user hok₁ (by decide) rfl hinValid hmem rfl rfl
  -- now plus three billion hours is after the year 262142
  have hpast : (expiresAt s₁).inRange = false := by decide
  rw [if_neg (by rw [hpast]; decide)] at hsign
  exact ⟨hup, ⟨_, hmem, rfl, rfl⟩, hsign⟩

end Storefront.Shop
