import Storefront.Shop.State
import Storefront.Account.Credentials
import Storefront.Access.Token

/-
  Accounts: signing up, signing in, and finding who a token belongs to.

  E-mail addresses are compared exactly, so two addresses that differ only in case belong to
  two accounts.  Signing in with an unknown address and with a wrong password fail alike.  An
  access token carries only the user's id, the time it was issued and the time it expires;
  the user is looked up again each time the token is shown, so a token outlives neither its
  user nor its expiry.
-/

namespace Storefront.Shop

open Storefront.Account Storefront.Access Storefront.Time

/-- The failure for a wrong e-mail address or password. -/
def invalidCredentials : Error := .unauthorized "invalid email or password"

/-- The failure for a token that is not accepted. -/
def invalidToken : Error := .unauthorized "invalid token"

/-- Adds a user with a role, answering the new id. -/
def addUser (s : SignUp) (role : Role) : Service String := do
  let id ← freshId
  let pepper := (← get).settings.pepper
  let createdAt ← now
  let user : User :=
    { id := id, name := s.name, surname := s.surname, email := s.email, phone := s.phone,
      role := role, secret := ⟨s.password, pepper⟩, createdAt := createdAt }
  match (← get).tables.addUser user with
  | some t => modify fun sh => { sh with tables := t }; pure id
  | none => throw (.conflict "email is already registered")

/-- Registers a customer, answering the new id. -/
def signUp (s : SignUp) : Service String :=
  addUser s .user

/-- Makes sure an administrator with the e-mail address exists; an existing account of that
address is left as it is, whatever its role and password. -/
def ensureAdmin (email password : String) : Service Unit := do
  if ((← get).tables.userByEmail email).isSome then return
  let _ ← addUser
    { name := "admin", surname := "", email := email, phone := "", password := password } .admin

/-- A fresh access token for a user: issued now, expiring after the configured lifetime. -/
def mintToken (userId : String) : Service String := do
  let issued ← now
  let sh ← get
  let expires := issued.addSeconds sh.settings.tokenTtlSeconds
  require expires.inRange (.internal "token expiry overflow")
  let claims : Claims :=
    { sub := userId, iat := stampWord issued.seconds, exp := stampWord expires.seconds }
  pure (claims.sign sh.settings.secret)

/-- Signs a user in, answering an access token. -/
def signIn (s : SignIn) : Service String := do
  let user ← orFail ((← get).tables.userByEmail s.email) invalidCredentials
  require (user.secret.matches s.password (← get).settings.pepper) invalidCredentials
  mintToken user.id

/-- The user a token was issued for, if the token is accepted and the user still exists. -/
def whoIs (token : String) : Service User := do
  let sh ← get
  let claims ← orFail (verify sh.settings.secret (stampWord (instantAt sh.clock).seconds) token)
    invalidToken
  orFail (sh.tables.userById claims.sub) invalidToken

end Storefront.Shop
