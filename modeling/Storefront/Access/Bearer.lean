import Storefront.Error
import Storefront.Text.Blank

/-
  The token in an `Authorization` header.

  The header must be exactly two words separated by one space, the first being `Bearer` and
  the second not empty.  Each way of failing has its own text, all of them `unauthorized`.
-/

namespace Storefront.Access

/-- The bearer token of an `Authorization` header, if there is a well-formed one. -/
def bearerToken (header : Option String) : Except Error String :=
  match header with
  | none | some "" => .error (.unauthorized "empty auth header")
  | some value =>
    match Text.splitChars ' ' value.toList with
    | [scheme, token] =>
      if scheme ≠ "Bearer".toList then .error (.unauthorized "invalid bearer")
      else if token = [] then .error (.unauthorized "empty token")
      else .ok (String.ofList token)
    | _ => .error (.unauthorized "invalid auth header")

example : bearerToken (some "Bearer abc") = .ok "abc" := by rfl
example : bearerToken (some "Bearer  abc") = .error (.unauthorized "invalid auth header") := by
  rfl

end Storefront.Access
