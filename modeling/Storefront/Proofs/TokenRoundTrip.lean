import Storefront.Proofs.JsonObjects
import Storefront.Proofs.Base64Codec
import Storefront.Access.Token

/-
  Signed tokens read back.

  A token is the base64url text of its header, a dot, that of its claims, a dot, and that of
  the HMAC of the two first parts.  No base64url text has a dot (`dot_not_mem_encode`), so
  splitting at the last dot and then at the last dot of what comes before gives the three
  parts back; `decode` gives back the bytes `encode` wrote (`decode_encode`); the header and
  the claims are objects of strings and numbers, which `parse` reads back (`parse_write_obj`).
  Main statement: a token signed under a secret is verified under it, with the claims it was
  signed with, exactly as long as its expiry is at most 60 seconds past, when its times fit 64
  bits (`verify_sign_eq`, and `verify_sign` for a time before the expiry).
-/

namespace Storefront.Access

open Storefront.Json Storefront.Json.Reader

/-- A text is split at its last dot when no dot follows it. -/
theorem splitLast_append {a t : String} (h : '.' ∉ t.toList) :
    splitLast '.' (a ++ "." ++ t) = some (a, t) := by
  have hchars : (a ++ "." ++ t).toList = a.toList ++ '.' :: t.toList := by
    simp [String.toList_append]
  -- the last dot is the first one of the reversed text, after the reversed `t`
  have hindex : (a.toList ++ '.' :: t.toList).reverse.idxOf? '.' = some t.toList.length := by
    rw [List.idxOf?_eq_some_iff]
    refine ⟨by simp, by simp [List.getElem_append_right], ?_⟩
    intro j hj hdot
    have hj' : j < t.toList.reverse.length := by simpa using hj
    have hmem : t.toList.reverse[j] ∈ t.toList.reverse := List.getElem_mem hj'
    simp only [List.reverse_append, List.reverse_cons, List.append_assoc,
      List.getElem_append_left hj'] at hdot
    exact h (List.mem_reverse.1 (hdot ▸ hmem))
  -- the dot stands at the length of `a`: the text before it is `a`, the text after it `t`
  rw [splitLast, hchars, hindex]
  simp

/-- The header of an HS256 token is accepted. -/
theorem headerAccepted_hs256 : headerAccepted (headerJson .hs256).write.toUTF8 = true := by
  have hplain : ∀ m ∈ [("typ", Value.str "JWT"), ("alg", Value.str Algorithm.hs256.name)],
      Plain m.2 := by
    intro m hm
    simp only [List.mem_cons, List.not_mem_nil, or_false] at hm
    rcases hm with rfl | rfl
    · exact .str _
    · exact .str _
  rw [headerAccepted, headerJson, parse_write_obj hplain]
  rfl

/-- **The claims of a token read back** when its times fit 64 bits. -/
theorem claimsOf_toJson {c : Claims} (hiat : c.iat ≤ u64Max) (hexp : c.exp ≤ u64Max) :
    claimsOf c.toJson.write.toUTF8 = some c := by
  have hplain : ∀ m ∈ [("sub", Value.str c.sub), ("iat", Value.num (.nat c.iat)),
      ("exp", Value.num (.nat c.exp))], Plain m.2 := by
    intro m hm
    simp only [List.mem_cons, List.not_mem_nil, or_false] at hm
    rcases hm with rfl | rfl | rfl
    · exact .str _
    · exact .nat hiat
    · exact .nat hexp
  rw [claimsOf, Claims.toJson, parse_write_obj hplain]
  simp [hasRepeated, wordMember, Value.str?, List.lookup_cons]

/-- **A signed token reads back until it expires**: verified under the secret it was signed
with, it gives the claims it was signed with at every time up to its expiry and the leeway
after it, and nothing later, as long as its times fit 64 bits. -/
theorem verify_sign_eq (c : Claims) (secret : String) (now : Nat) (hiat : c.iat ≤ u64Max)
    (hexp : c.exp ≤ u64Max) :
    verify secret now (c.sign secret) = if c.exp + leeway < now then none else some c := by
  -- the three parts, none with a dot
  have hsignature := Text.Base64.dot_not_mem_encode
    (Crypto.sha256.hmac secret.toUTF8 (Text.Base64.encode (headerJson .hs256).write.toUTF8 ++ "." ++
      Text.Base64.encode c.toJson.write.toUTF8).toUTF8)
  have hpayload := Text.Base64.dot_not_mem_encode c.toJson.write.toUTF8
  rw [verify, Claims.sign, signJson]
  dsimp only
  rw [show Algorithm.hs256.variant = Crypto.sha256 from rfl, splitLast_append hsignature]
  simp only [Option.bind_eq_bind, Option.bind_some, Option.pure_def]
  rw [splitLast_append hpayload]
  simp only [Option.bind_some, Text.Base64.decode_encode, headerAccepted_hs256, Bool.not_true,
    Bool.false_eq_true, if_false, ne_eq, not_true_eq_false, claimsOf_toJson hiat hexp]
  split <;> rfl

/-- **A signed token reads back**: verified under the secret it was signed with, it gives the
claims it was signed with, as long as its times fit 64 bits and it expired at most 60 seconds
ago. -/
theorem verify_sign (c : Claims) (secret : String) {now : Nat} (hiat : c.iat ≤ u64Max)
    (hexp : c.exp ≤ u64Max) (hnow : now ≤ c.exp + leeway) :
    verify secret now (c.sign secret) = some c := by
  rw [verify_sign_eq c secret now hiat hexp, if_neg (Nat.not_lt.2 hnow)]

end Storefront.Access
