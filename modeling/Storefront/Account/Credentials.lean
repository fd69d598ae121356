import Storefront.Validation.Record

/-
  What a visitor sends to sign up and to sign in.

  A sign-up names the person (name, surname, phone), the e-mail address they sign in with
  and a password; all five fields are required.  A sign-in has the e-mail address and the
  password.  The rules: every field at least one character, the e-mail of a sign-up an
  address, and its password at least five characters.
-/

namespace Storefront.Account

open Storefront.Json Storefront.Validation

/-- A request to sign up. -/
structure SignUp where
  name : String
  surname : String
  email : String
  phone : String
  password : String
  deriving DecidableEq, Repr

/-- A request to sign in. -/
structure SignIn where
  email : String
  password : String
  deriving DecidableEq, Repr

/-- The record a sign-up is read from. -/
def SignUp.shape : Shape :=
  { name := "SignUpInput"
    fields := ["name", "surname", "email", "phone", "password"].map fun k => ⟨k, .text, .required⟩ }

/-- The record a sign-in is read from. -/
def SignIn.shape : Shape :=
  { name := "SignInInput", fields := ["email", "password"].map fun k => ⟨k, .text, .required⟩ }

/-- A sign-up from the fields read by `SignUp.shape`. -/
def SignUp.ofEntries (e : List Entry) : SignUp :=
  { name := (entryText? e "name").getD "", surname := (entryText? e "surname").getD ""
    email := (entryText? e "email").getD "", phone := (entryText? e "phone").getD ""
    password := (entryText? e "password").getD "" }

/-- A sign-in from the fields read by `SignIn.shape`. -/
def SignIn.ofEntries (e : List Entry) : SignIn :=
  { email := (entryText? e "email").getD "", password := (entryText? e "password").getD "" }

/-- The rules a sign-up must keep. -/
def SignUp.checks (s : SignUp) : List (String × String × Rule) :=
  [("name", s.name, .minLength 1), ("surname", s.surname, .minLength 1),
   ("email", s.email, .email), ("phone", s.phone, .minLength 1),
   ("password", s.password, .minLength 5)]

/-- The rules a sign-in must keep. -/
def SignIn.checks (s : SignIn) : List (String × String × Rule) :=
  [("email", s.email, .minLength 1), ("password", s.password, .minLength 1)]

/-- The rules of a sign-up record, on its fields as read. -/
def SignUp.rules : Rules := fun e => (SignUp.ofEntries e).checks

/-- The rules of a sign-in record, on its fields as read. -/
def SignIn.rules : Rules := fun e => (SignIn.ofEntries e).checks

end Storefront.Account
