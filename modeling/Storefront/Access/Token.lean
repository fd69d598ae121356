import Storefront.Crypto.Sha2
import Storefront.Text.Base64
import Storefront.Json.Reader

/-
  Signed access tokens (JSON Web Tokens with an HMAC signature).

  A token is three base64url texts joined by `.`: a header naming the algorithm, the claims,
  and the HMAC of the first two parts (as written, dot included) under the shared secret.
  The service issues HS256 tokens whose claims are the user id (`sub`), the time of issue
  (`iat`) and the time of expiry (`exp`), in seconds since the epoch.

  `verify` accepts a token only when all of this holds: it splits at its last two dots; the
  header is a JSON object whose `alg` is HS256; the signature is exactly the base64url text of
  the HMAC-SHA256 of the signed part; the claims are a JSON object with a string `sub` and
  64-bit unsigned `iat` and `exp`; and `exp` is not more than 60 seconds in the past.
-/

namespace Storefront.Access

open Storefront.Json Storefront.Crypto

/-- The HMAC algorithms a token can be signed with. -/
inductive Algorithm where
  | hs256
  | hs384
  | hs512
  deriving DecidableEq, Repr

namespace Algorithm

/-- The name of the algorithm in a token header. -/
def name : Algorithm → String
  | .hs256 => "HS256"
  | .hs384 => "HS384"
  | .hs512 => "HS512"

/-- The hash function under the HMAC. -/
def variant : Algorithm → Variant
  | .hs256 => sha256
  | .hs384 => sha384
  | .hs512 => sha512

end Algorithm

/-- The claims of an access token. -/
structure Claims where
  sub : String
  iat : Nat
  exp : Nat
  deriving DecidableEq, Repr

/-- How far in the past an expiry may lie and still be accepted, in seconds. -/
def leeway : Nat := 60

/-- A time stamp as an unsigned 64-bit word: a negative one wraps around. -/
def stampWord (t : Int) : Nat :=
  (t % Int.pow 2 64).toNat

/-- The header of a token signed with `alg`. -/
def headerJson (alg : Algorithm) : Value :=
  .obj [("typ", .str "JWT"), ("alg", .str alg.name)]

/-- The JSON of the claims of an access token. -/
def Claims.toJson (c : Claims) : Value :=
  .obj [("sub", .str c.sub), ("iat", .num (.nat c.iat)), ("exp", .num (.nat c.exp))]

/-- A token with the given header and claims, signed under `secret`. -/
def signJson (alg : Algorithm) (secret : String) (header claims : Value) : String :=
  let signed := Text.Base64.encode header.write.toUTF8 ++ "." ++
    Text.Base64.encode claims.write.toUTF8
  signed ++ "." ++ Text.Base64.encode (alg.variant.hmac secret.toUTF8 signed.toUTF8)

/-- An HS256 access token for the claims. -/
def Claims.sign (c : Claims) (secret : String) : String :=
  signJson .hs256 secret (headerJson .hs256) c.toJson

/-- A text split at its last occurrence of `sep`, if there is one. -/
def splitLast (sep : Char) (s : String) : Option (String × String) :=
  let cs := s.toList
  match cs.reverse.idxOf? sep with
  | some j =>
    let i := cs.length - 1 - j
    some (String.ofList (cs.take i), String.ofList (cs.drop (i + 1)))
  | none => none

/-- Whether some key appears more than once among the members. -/
def hasRepeated (keys : List String) (members : List (String × Value)) : Bool :=
  keys.any fun k => 1 < (members.filter (·.1 = k)).length

/-- Whether a member, if present, is a string or null. -/
def optionalText (members : List (String × Value)) (k : String) : Bool :=
  match members.lookup k with
  | none | some .null | some (.str _) => true
  | _ => false

/-- Whether a decoded header is acceptable: a JSON object whose `alg` is HS256 and whose other
known members have their types. -/
def headerAccepted (text : ByteArray) : Bool :=
  match parse text with
  | .ok (.obj ms) =>
    let keys := ["typ", "alg", "cty", "jku", "jwk", "kid", "x5u", "x5c", "x5t", "x5t#S256"]
    !hasRepeated keys ms &&
      ["typ", "cty", "jku", "kid", "x5u", "x5t", "x5t#S256"].all (optionalText ms) &&
      (match ms.lookup "jwk" with | none | some .null => true | _ => false) &&
      (match ms.lookup "x5c" with
        | none | some .null => true
        | some (.arr xs) => xs.all fun x => (x.str?).isSome
        | _ => false) &&
      (match ms.lookup "alg" with
        | some (.str a) => a = "HS256"
        | _ => false)
  | _ => false

/-- A 64-bit unsigned member. -/
def wordMember (members : List (String × Value)) (k : String) : Option Nat :=
  match members.lookup k with
  | some (.num (.nat n)) => some n
  | _ => none

/-- The claims of a decoded claims text, if it has them with their types. -/
def claimsOf (text : ByteArray) : Option Claims :=
  match parse text with
  | .ok (.obj ms) =>
    if hasRepeated ["sub", "iat", "exp", "nbf", "iss", "aud"] ms then none
    else do
      let sub ← (ms.lookup "sub").bind Value.str?
      let iat ← wordMember ms "iat"
      let exp ← wordMember ms "exp"
      return { sub, iat, exp }
  | _ => none

/-- The claims of a token signed under `secret` that has not expired at `now`, or nothing. -/
def verify (secret : String) (now : Nat) (token : String) : Option Claims := do
  let (signed, signature) ← splitLast '.' token
  let (header, payload) ← splitLast '.' signed
  let headerText ← Text.Base64.decode header
  if !headerAccepted headerText then none
  if signature ≠ Text.Base64.encode (sha256.hmac secret.toUTF8 signed.toUTF8) then none
  let claims ← claimsOf (← Text.Base64.decode payload)
  if claims.exp + leeway < now then none
  return claims

end Storefront.Access
