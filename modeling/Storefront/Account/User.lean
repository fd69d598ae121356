import Storefront.Json.Value
import Storefront.Time.Instant

/-
  Accounts of the shop.

  A user has a name, surname, e-mail address (unique among users), phone, a role and the
  secret they sign in with.  The secret is kept together with the pepper that was mixed into
  it, so that a password checks only under the same pepper.  The record shown to a user
  leaves the secret out.
-/

namespace Storefront.Account

open Storefront.Json Storefront.Time

/-- What a user may do: an administrator may change the catalog. -/
inductive Role where
  | admin
  | user
  deriving DecidableEq, Repr

/-- The written name of a role. -/
def Role.name : Role → String
  | .admin => "ADMIN"
  | .user => "USER"

/-- A password as kept: the password and the pepper it was kept under. -/
structure Secret where
  password : String
  pepper : String
  deriving DecidableEq, Repr

/-- Whether a password matches a kept secret under the current pepper. -/
def Secret.matches (s : Secret) (password pepper : String) : Bool :=
  s.password == password && s.pepper == pepper

/-- A user row. -/
structure User where
  id : String
  name : String
  surname : String
  email : String
  phone : String
  role : Role
  secret : Secret
  createdAt : Instant
  deriving DecidableEq, Repr

/-- The record of a user as shown to them. -/
def User.toJson (u : User) : Value :=
  .obj [("id", .str u.id), ("name", .str u.name), ("surname", .str u.surname),
    ("email", .str u.email), ("phone", .str u.phone), ("role", .str u.role.name),
    ("created_at", .str u.createdAt.rfc3339)]

end Storefront.Account
