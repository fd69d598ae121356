import Mathlib.Data.List.Nodup
import Storefront.Proofs.TokenRoundTrip
import Storefront.Proofs.AdminOnly

/-
  Accounts: signing up, signing in, and the user a token names.

  The accounts of a shop are in order (`AccountsOk`) when the ids of its users are fresh, their
  e-mail addresses distinct, and every password kept under the shop's pepper; a shop without
  users is.  Signing up adds one customer with the next id when no user has the address, and
  fails with a conflict otherwise, the users unchanged (`run_addUser`).  Signing in fails with
  one and the same error for an unknown address and for a wrong password, and otherwise mints a
  token, unless its expiry falls outside the calendar (`run_mintToken`).  A minted token reads
  back (`verify_sign`), so it names the signed-in user to `whoIs` until it expires, whatever
  requests come in between: requests only add users after the existing ones
  (`whoIs_after_kept`).
-/

namespace Storefront.Shop

open Storefront.Account Storefront.Access Storefront.Time Storefront.Http Guarantee

/-! ## Accounts in order -/

/-- The accounts of a shop are in order: the ids of its users are fresh, their e-mail
addresses distinct, and every password is kept under the shop's pepper. -/
structure AccountsOk (s : State) : Prop where
  ids : IdsFresh s.issued (s.tables.users.map (·.id))
  emails : (s.tables.users.map (·.email)).Nodup
  peppered : ∀ u ∈ s.tables.users, u.secret.pepper = s.settings.pepper

/-- The user `addUser` adds for a form: the next id, the form's fields, the role, the password
under the shop's pepper, and the time on the clock. -/
def newUser (form : SignUp) (role : Role) (s : State) : User :=
  { id := idNumbered (s.issued + 1), name := form.name, surname := form.surname,
    email := form.email, phone := form.phone, role := role,
    secret := ⟨form.password, s.settings.pepper⟩, createdAt := instantAt s.clock }

/-- The shop once `addUser` has taken an id and read the clock. -/
def State.tick (s : State) : State := { s with issued := s.issued + 1, clock := s.clock + 1 }

/-- The shop with a user added after the others. -/
def State.join (s : State) (u : User) : State :=
  { s with tables := { s.tables with users := s.tables.users ++ [u] } }

@[simp] theorem State.tick_users (s : State) : s.tick.tables.users = s.tables.users := rfl

@[simp] theorem State.tick_settings (s : State) : s.tick.settings = s.settings := rfl

@[simp] theorem State.tick_issued (s : State) : s.tick.issued = s.issued + 1 := rfl

@[simp] theorem State.join_users (s : State) (u : User) :
    (s.join u).tables.users = s.tables.users ++ [u] := rfl

@[simp] theorem State.join_settings (s : State) (u : User) : (s.join u).settings = s.settings :=
  rfl

@[simp] theorem State.join_issued (s : State) (u : User) : (s.join u).issued = s.issued := rfl

/-- Among users of distinct keys, the first user with the key of `u` is `u`. -/
theorem find?_key_of_mem {key : User → String} {l : List User} {u : User}
    (hnodup : (l.map key).Nodup) (hu : u ∈ l) : l.find? (fun v => key v == key u) = some u := by
  obtain ⟨v, hv⟩ : ∃ v, l.find? (fun v => key v == key u) = some v := by
    cases h : l.find? (fun v => key v == key u) with
    | none => exact absurd (by simp) ((List.find?_eq_none.1 h) u hu)
    | some v => exact ⟨v, rfl⟩
  have hvkey := List.find?_some hv
  simp only [beq_iff_eq] at hvkey
  rw [hv, List.inj_on_of_nodup_map hnodup (List.mem_of_find?_eq_some hv) hu hvkey]

/-- No user has an address exactly when the lookup by it finds nobody. -/
theorem userByEmail_eq_none_iff {t : Tables} {email : String} :
    t.userByEmail email = none ↔ ∀ u ∈ t.users, u.email ≠ email := by
  unfold Tables.userByEmail
  rw [List.find?_eq_none]
  simp

namespace AccountsOk

variable {s s' : State}

/-- A shop without users has its accounts in order. -/
theorem of_empty (h : s.tables.users = []) : AccountsOk s := by
  refine ⟨?_, ?_, ?_⟩
  · rw [h]
    exact IdsFresh.nil _
  · rw [h]
    exact List.nodup_nil
  · rw [h]
    intro u hu
    cases hu

/-- A step that keeps the users and the settings, and hands out no id or more, keeps the
accounts in order. -/
theorem of_users (hok : AccountsOk s) (husers : s'.tables.users = s.tables.users)
    (hset : s'.settings = s.settings) (hissued : s.issued ≤ s'.issued) : AccountsOk s' := by
  refine ⟨?_, ?_, ?_⟩
  · rw [husers]
    exact hok.ids.mono hissued
  · rw [husers]
    exact hok.emails
  · rw [husers, hset]
    exact hok.peppered

/-- A user with a new address, added with the next id, keeps the accounts in order. -/
theorem join (hok : AccountsOk s) (form : SignUp) (role : Role)
    (hfree : s.tables.userByEmail form.email = none) :
    AccountsOk (s.tick.join (newUser form role s)) := by
  have hnew : ∀ u ∈ s.tables.users, u.email ≠ form.email := userByEmail_eq_none_iff.1 hfree
  refine ⟨?_, ?_, ?_⟩
  · simp only [State.join_users, State.tick_users, State.join_issued, State.tick_issued,
      List.map_append, List.map_singleton]
    exact hok.ids.append_next
  · simp only [State.join_users, State.tick_users, List.map_append, List.map_singleton]
    rw [List.nodup_append]
    refine ⟨hok.emails, by simp, ?_⟩
    intro a ha b hb hab
    obtain ⟨u, hu, rfl⟩ := List.mem_map.1 ha
    rw [List.mem_singleton.1 hb] at hab
    exact hnew u hu hab
  · intro u hu
    simp only [State.join_users, State.tick_users, List.mem_append, List.mem_singleton] at hu
    rcases hu with hu | rfl
    · exact hok.peppered u hu
    · rfl

/-- Two users of a shop with one address are one user. -/
theorem eq_of_email (hok : AccountsOk s) {u v : User} (hu : u ∈ s.tables.users)
    (hv : v ∈ s.tables.users) (h : u.email = v.email) : u = v :=
  List.inj_on_of_nodup_map hok.emails hu hv h

/-- The user of an address is the one user with it. -/
theorem userByEmail_eq_some_iff (hok : AccountsOk s) {email : String} {u : User} :
    s.tables.userByEmail email = some u ↔ u ∈ s.tables.users ∧ u.email = email := by
  unfold Tables.userByEmail
  constructor
  · intro h
    have hemail := List.find?_some h
    simp only [beq_iff_eq] at hemail
    exact ⟨List.mem_of_find?_eq_some h, hemail⟩
  · -- the first user with the address is `u`, since no two users share one
    rintro ⟨hu, rfl⟩
    exact find?_key_of_mem hok.emails hu

/-- A password matches a user's secret exactly when it is the password the user was created
with. -/
theorem matches_iff (hok : AccountsOk s) {u : User} (hu : u ∈ s.tables.users)
    (password : String) :
    u.secret.matches password s.settings.pepper = true ↔ u.secret.password = password := by
  simp [Secret.matches, hok.peppered u hu]

end AccountsOk

/-! ## Signing up -/

/-- **Adding a user**: with a free address, the user joins after the others with the next id;
with a taken one, the users stay and the answer is a conflict. -/
theorem run_addUser (form : SignUp) (role : Role) (s : State) :
    (addUser form role).run.run s =
      if (s.tables.userByEmail form.email).isSome then
        (.error (.conflict "email is already registered"), s.tick)
      else (.ok (idNumbered (s.issued + 1)), s.tick.join (newUser form role s)) := by
  unfold addUser
  simp only [run_bind, run_freshId, run_get, run_now]
  unfold Tables.addUser
  split
  · next t hadd =>
    split at hadd
    · cases hadd
    · next hfree =>
      cases hadd
      rw [if_neg hfree]
      rfl
  · next hadd =>
    split at hadd
    · next htaken =>
      rw [if_pos htaken]
      rfl
    · cases hadd

theorem run_signUp (form : SignUp) (s : State) :
    (signUp form).run.run s =
      if (s.tables.userByEmail form.email).isSome then
        (.error (.conflict "email is already registered"), s.tick)
      else (.ok (idNumbered (s.issued + 1)), s.tick.join (newUser form .user s)) :=
  run_addUser form .user s

/-! ## Signing in -/

/-- When a token minted now expires. -/
def expiresAt (s : State) : Instant := (instantAt s.clock).addSeconds s.settings.tokenTtlSeconds

/-- The claims of a token minted now for a user id. -/
def accessClaims (id : String) (s : State) : Claims :=
  { sub := id, iat := stampWord (instantAt s.clock).seconds, exp := stampWord (expiresAt s).seconds }

/-- A token is minted unless its expiry falls outside the calendar. -/
theorem run_mintToken (id : String) (s : State) :
    (mintToken id).run.run s =
      if (expiresAt s).inRange then
        (.ok ((accessClaims id s).sign s.settings.secret), { s with clock := s.clock + 1 })
      else (.error (.internal "token expiry overflow"), { s with clock := s.clock + 1 }) := by
  unfold mintToken expiresAt
  simp only [run_bind, run_now, run_get, run_require]
  cases ((instantAt s.clock).addSeconds s.settings.tokenTtlSeconds).inRange <;> rfl

theorem run_signIn_unknown {form : SignIn} {s : State}
    (h : s.tables.userByEmail form.email = none) :
    (signIn form).run.run s = (.error invalidCredentials, s) := by
  unfold signIn
  simp only [run_bind, run_get, run_orFail, h]

theorem run_signIn_wrong {form : SignIn} {s : State} {u : User}
    (h : s.tables.userByEmail form.email = some u)
    (hwrong : u.secret.matches form.password s.settings.pepper = false) :
    (signIn form).run.run s = (.error invalidCredentials, s) := by
  unfold signIn
  simp only [run_bind, run_get, run_orFail, h, run_require, hwrong, Bool.false_eq_true, if_false]

theorem run_signIn_match {form : SignIn} {s : State} {u : User}
    (h : s.tables.userByEmail form.email = some u)
    (hmatch : u.secret.matches form.password s.settings.pepper = true) :
    (signIn form).run.run s = (mintToken u.id).run.run s := by
  unfold signIn
  simp only [run_bind, run_get, run_orFail, h, run_require, hmatch, if_true]

/-! ## The user a token names -/

/-- A time stamp of the calendar after the epoch is its own word. -/
theorem stampWord_of_lt {t : Int} (h0 : 0 ≤ t) (h : t < endOfCalendar) :
    stampWord t = t.toNat := by
  have hpow : Int.pow 2 64 = 18446744073709551616 := by decide
  unfold stampWord endOfCalendar at *
  rw [hpow, Int.emod_eq_of_lt h0 (by omega)]

/-- Every time stamp is a 64-bit word. -/
theorem stampWord_le (t : Int) : stampWord t ≤ Json.Reader.u64Max := by
  have hpow : Int.pow 2 64 = 18446744073709551616 := by decide
  have hmax : Json.Reader.u64Max = 18446744073709551615 := by decide
  unfold stampWord
  rw [hpow, hmax]
  have := Int.emod_lt_of_pos t (show (0 : Int) < 18446744073709551616 by decide)
  have := Int.emod_nonneg t (show (18446744073709551616 : Int) ≠ 0 by decide)
  omega

/-- The clock never reads before the epoch. -/
theorem instantAt_seconds_pos (ms : Nat) : 0 < (instantAt ms).seconds := by
  simp only [instantAt, epochStart]
  omega

/-- **A minted token names its user** to `whoIs` in every later shop whose users are those of
the shop it was minted in and more after them, with the same settings, until it expires. -/
theorem whoIs_after_kept {s s' : State} {u : User} (hok : AccountsOk s) (hu : u ∈ s.tables.users)
    (hrange : (expiresAt s).inRange = true) (hkept : AccountsKept s s')
    (hlive : (instantAt s'.clock).seconds ≤ (expiresAt s).seconds) :
    (whoIs ((accessClaims u.id s).sign s.settings.secret)).run.run s' = (.ok u, s') := by
  obtain ⟨joined, husers, -⟩ := hkept.joined
  have hnodup : (s.tables.users.map (·.id)).Nodup := hok.ids.nodup
  -- the token verifies at the later time: its expiry is a word of the calendar after it
  have hnow := instantAt_seconds_pos s'.clock
  have hbounds : startOfCalendar ≤ (expiresAt s).seconds ∧ (expiresAt s).seconds < endOfCalendar := by
    simpa [Instant.inRange] using hrange
  have hverify : verify s.settings.secret (stampWord (instantAt s'.clock).seconds)
      ((accessClaims u.id s).sign s.settings.secret) = some (accessClaims u.id s) := by
    have hnowWord : stampWord (instantAt s'.clock).seconds = (instantAt s'.clock).seconds.toNat :=
      stampWord_of_lt (by omega) (by omega)
    have hexpWord : stampWord (expiresAt s).seconds = (expiresAt s).seconds.toNat :=
      stampWord_of_lt (by omega) hbounds.2
    apply verify_sign _ _ (stampWord_le (instantAt s.clock).seconds)
      (stampWord_le (expiresAt s).seconds)
    show stampWord (instantAt s'.clock).seconds ≤ stampWord (expiresAt s).seconds + leeway
    rw [hnowWord, hexpWord]
    unfold leeway
    omega
  have hfind : s'.tables.userById u.id = some u := by
    unfold Tables.userById
    rw [husers, List.find?_append, find?_key_of_mem hnodup hu]
    rfl
  unfold whoIs
  simp only [run_bind, run_get, run_orFail, hkept.settings, hverify]
  simp only [accessClaims, hfind]

end Storefront.Shop
