import Storefront.Proofs.AdminOnly
import Storefront.Proofs.ImageUrls
import Storefront.Proofs.TokenRoundTrip
import Storefront.Proofs.Accounts

/-
  Reading the token of an `Authorization` header.

  `bearerToken` splits the header's text at every blank and asks for exactly two pieces, the
  word `Bearer` and a token that is not empty.  A text splits into one piece more than it has
  blanks (`splitChars_length`), so two pieces means exactly one blank, and the pieces are then
  the words on either side of it (`splitChars_eq_pair`).

  Main statement (`bearerToken_checked_in_order`): a header gives a token exactly when it is
  `Bearer`, one blank and a token with no blank, and the token comes back as it was written.
  Every other header is refused as unauthorized with the text of the first check it fails: no
  header or an empty one, then not exactly one blank, then a first word other than `Bearer`
  (letter case counts), then an empty token.  The guard of a route reads a header holding a
  character outside visible ASCII and tab as an empty one.

  A signed token is base64url digits and dots, so `Bearer`, a blank and a signed token make an
  `authorization` header that the guard reads the token back from (`bearerToken_bearer`), and a
  token the shop signed for one of its administrators, still live by the shop's clock, lets the
  request through as an administrator's (`AdminAuthorized.of_signed`).
-/

namespace Storefront.Text

/-- **Pieces and separators.**  A text splits into one piece more than it has separators. -/
theorem splitChars_length (sep : Char) (l : List Char) :
    (splitChars sep l).length = l.count sep + 1 := by
  induction l with
  | nil => rfl
  | cons c rest ih =>
    obtain ⟨p, ps, hsplit⟩ := List.exists_cons_of_ne_nil (splitChars_ne_nil sep rest)
    rw [hsplit, List.length_cons] at ih
    by_cases hc : c = sep
    · simp [splitChars, hsplit, hc, ih]
    · simp [splitChars, hsplit, hc]
      omega

/-- A text with exactly one separator is a word, the separator and a word. -/
theorem exists_words_of_count_eq_one {sep : Char} {l : List Char} (h : l.count sep = 1) :
    ∃ a b, l = a ++ sep :: b ∧ sep ∉ a ∧ sep ∉ b := by
  have hmem : sep ∈ l := List.count_pos_iff.1 (by omega)
  obtain ⟨a, b, rfl⟩ := List.append_of_mem hmem
  have hcount : a.count sep + (b.count sep + 1) = 1 := by
    simpa [List.count_append] using h
  refine ⟨a, b, rfl, fun ha => ?_, fun hb => ?_⟩
  · have := List.count_pos_iff.2 ha
    omega
  · have := List.count_pos_iff.2 hb
    omega

/-- **Two pieces.**  A text splits into the two pieces `a` and `b` exactly when it is `a`, the
separator and `b`, neither of which holds a separator. -/
theorem splitChars_eq_pair {sep : Char} {l a b : List Char} :
    splitChars sep l = [a, b] ↔ l = a ++ sep :: b ∧ sep ∉ a ∧ sep ∉ b := by
  constructor
  · intro h
    have hcount : l.count sep = 1 := by
      have hlen := splitChars_length sep l
      rw [h] at hlen
      simp at hlen
      omega
    obtain ⟨a', b', rfl, ha', hb'⟩ := exists_words_of_count_eq_one hcount
    rw [splitChars_append_sep ha', splitChars_of_not_mem hb'] at h
    simp only [List.cons.injEq, and_true] at h
    obtain ⟨rfl, rfl⟩ := h
    exact ⟨rfl, ha', hb'⟩
  · rintro ⟨rfl, ha, hb⟩
    rw [splitChars_append_sep ha, splitChars_of_not_mem hb]

end Storefront.Text

namespace Storefront.Access

/-! ## The four checks -/

/-- A header that is not empty and has no blank, or more than one, is malformed. -/
theorem bearerToken_of_count_ne {v : String} (hv : v ≠ "") (hcount : v.toList.count ' ' ≠ 1) :
    bearerToken (some v) = .error (.unauthorized "invalid auth header") := by
  have hpieces : (Text.splitChars ' ' v.toList).length ≠ 2 := by
    rw [Text.splitChars_length]
    omega
  unfold bearerToken
  split
  · next hnone => cases hnone
  · next hempty => exact absurd (Option.some.inj hempty) hv
  · next value _ hvalue =>
    obtain rfl := Option.some.inj hvalue
    split
    · next scheme token hsplit =>
      rw [hsplit] at hpieces
      exact absurd rfl hpieces
    · rfl

/-- **One blank.**  A header with one blank is judged by the words on either side of it: the
scheme must be `Bearer` and the token must not be empty. -/
theorem bearerToken_words {scheme token : String} (hs : ' ' ∉ scheme.toList)
    (ht : ' ' ∉ token.toList) :
    bearerToken (some (scheme ++ " " ++ token)) =
      if scheme ≠ "Bearer" then .error (.unauthorized "invalid bearer")
      else if token = "" then .error (.unauthorized "empty token")
      else .ok token := by
  have hchars : (scheme ++ " " ++ token).toList = scheme.toList ++ ' ' :: token.toList := by
    simp [String.toList_append]
  have hsplit : Text.splitChars ' ' (scheme ++ " " ++ token).toList =
      [scheme.toList, token.toList] :=
    Text.splitChars_eq_pair.2 ⟨hchars, hs, ht⟩
  have hne : scheme ++ " " ++ token ≠ "" := by
    intro h
    have := congrArg String.toList h
    rw [hchars] at this
    simp at this
  -- the scheme and the token are compared as texts
  have hscheme : (scheme.toList ≠ "Bearer".toList) ↔ scheme ≠ "Bearer" :=
    not_congr String.toList_inj
  have htoken : token.toList = [] ↔ token = "" := String.toList_eq_nil_iff
  unfold bearerToken
  split
  · next hnone => cases hnone
  · next hempty => exact absurd (Option.some.inj hempty) hne
  · next value _ hvalue =>
    obtain rfl := Option.some.inj hvalue
    rw [hsplit]
    simp only [hscheme, htoken, String.ofList_toList]

/-- **The token of a header.**  A header gives a token exactly when it is `Bearer`, one blank and
that token, which is not empty and has no blank. -/
theorem bearerToken_eq_ok_iff {header : Option String} {t : String} :
    bearerToken header = .ok t ↔ header = some ("Bearer " ++ t) ∧ t ≠ "" ∧ ' ' ∉ t.toList := by
  have hbearer : ("Bearer " : String) ++ t = "Bearer" ++ " " ++ t := by
    rw [String.append_assoc]
    rfl
  constructor
  · intro h
    -- every refusal comes before the words are read
    rcases header with _ | v
    · cases h
    by_cases hv : v = ""
    · subst hv
      cases h
    by_cases hcount : v.toList.count ' ' = 1
    · obtain ⟨a, b, hchars, ha, hb⟩ := Text.exists_words_of_count_eq_one hcount
      have hv' : v = String.ofList a ++ " " ++ String.ofList b := by
        apply String.toList_inj.1
        simp [String.toList_append, hchars]
      rw [hv', bearerToken_words (by simpa using ha) (by simpa using hb)] at h
      split at h
      · cases h
      · next hscheme =>
        split at h
        · cases h
        · next htoken =>
          cases h
          refine ⟨?_, htoken, by simpa using hb⟩
          rw [hv', not_not.1 hscheme, hbearer]
    · rw [bearerToken_of_count_ne hv hcount] at h
      cases h
  · rintro ⟨rfl, hne, hblank⟩
    rw [hbearer, bearerToken_words (by decide) hblank]
    simp [hne]

/-! ## Bearer tokens -/

/-- A character a bearer token may hold: visible, and not a blank. -/
def BearerChar (c : Char) : Prop := c ≠ ' ' ∧ 32 ≤ c.toNat ∧ c.toNat < 127

instance : DecidablePred BearerChar := fun c =>
  inferInstanceAs (Decidable (c ≠ ' ' ∧ 32 ≤ c.toNat ∧ c.toNat < 127))

theorem digitChar_bearer {v : Nat} (h : v < 64) : BearerChar (Text.Base64.digitChar v) := by
  have hall : ∀ d : Fin 64, BearerChar (Text.Base64.digitChar d) := by decide
  exact hall ⟨v, h⟩

/-- **A signed token is bearer text**: three runs of base64url digits with a dot between each
two. -/
theorem sign_bearer (c : Claims) (secret : String) :
    ∀ ch ∈ (c.sign secret).toList, BearerChar ch := by
  have hencode : ∀ b, ∀ ch ∈ (Text.Base64.encode b).toList, BearerChar ch := by
    intro b ch hch
    obtain ⟨v, hv, rfl⟩ := Text.Base64.mem_encode hch
    exact digitChar_bearer hv
  have hdot : ∀ ch ∈ ".".toList, BearerChar ch := by
    intro ch hch
    obtain rfl : ch = '.' := by simpa using hch
    decide
  intro ch hch
  simp only [Claims.sign, signJson, String.toList_append, List.mem_append] at hch
  rcases hch with (((hheader | hdot₁) | hclaims) | hdot₂) | hsignature
  · exact hencode _ ch hheader
  · exact hdot ch hdot₁
  · exact hencode _ ch hclaims
  · exact hdot ch hdot₂
  · exact hencode _ ch hsignature

/-- A signed token is not empty: it has dots. -/
theorem sign_ne_empty (c : Claims) (secret : String) : c.sign secret ≠ "" := by
  intro hempty
  have hmem : '.' ∈ (c.sign secret).toList := by
    simp [Claims.sign, signJson, String.toList_append]
  rw [hempty] at hmem
  simp at hmem

/-- A header of `Bearer`, a blank and a token of bearer text is visible text. -/
theorem visibleText_bearer {t : String} (ht : ∀ c ∈ t.toList, BearerChar c) :
    Http.visibleText ("Bearer " ++ t) = some ("Bearer " ++ t) := by
  unfold Http.visibleText
  rw [if_pos]
  rw [List.all_eq_true]
  intro c hc
  simp only [String.toList_append, List.mem_append] at hc
  rcases hc with hscheme | htoken
  · revert c
    simp
  · obtain ⟨-, hlo, hhi⟩ := ht c htoken
    simp [hlo, hhi]

/-- **The token of a bearer header**: `Bearer`, one blank, and a token of bearer text give the
token back. -/
theorem bearerToken_bearer {t : String} (ht : ∀ c ∈ t.toList, BearerChar c) (hne : t ≠ "") :
    bearerToken (some ("Bearer " ++ t)) = .ok t :=
  bearerToken_eq_ok_iff.2 ⟨rfl, hne, fun h => (ht ' ' h).1 rfl⟩

end Storefront.Access

namespace Storefront.Shop

open Storefront.Http

/-! ## The guard reads the header -/

/-- A header value with a character outside visible ASCII and tab is no text. -/
theorem visibleText_eq_none {v : String}
    (h : ∃ c ∈ v.toList, c ≠ '\t' ∧ (c.toNat < 32 ∨ 127 ≤ c.toNat)) : visibleText v = none := by
  obtain ⟨c, hc, htab, hrange⟩ := h
  have hnot : ¬(v.toList.all fun c => c = '\t' || (32 ≤ c.toNat && c.toNat < 127)) = true := by
    rw [List.all_eq_true]
    intro hall
    have := hall c hc
    simp only [Bool.or_eq_true, decide_eq_true_eq, Bool.and_eq_true] at this
    rcases this with htab' | ⟨hlo, hhi⟩
    · exact htab htab'
    · omega
  simp [visibleText, hnot]

/-- **A signed token is an administrator's key.**  A request whose `authorization` header is
`Bearer` and a token the shop signed for one of its administrators, not yet expired by the shop's
clock, carries the token of an administrator. -/
theorem AdminAuthorized.of_signed {s : State} {req : Request} {c : Access.Claims}
    {user : Account.User}
    (hheader : req.header "authorization" = some ("Bearer " ++ c.sign s.settings.secret))
    (hiat : c.iat ≤ Json.Reader.u64Max) (hexp : c.exp ≤ Json.Reader.u64Max)
    (hlive : Access.stampWord (instantAt s.clock).seconds ≤ c.exp + Access.leeway)
    (huser : s.tables.userById c.sub = some user) (hadmin : user.role = .admin) :
    AdminAuthorized s req := by
  have hbearer := Access.sign_bearer c s.settings.secret
  have htext : authorizationText req = some ("Bearer " ++ c.sign s.settings.secret) := by
    rw [authorizationText, hheader, Option.map_some, Access.visibleText_bearer hbearer,
      Option.getD_some]
  refine ⟨c.sign s.settings.secret, c, user, ?_, Access.verify_sign c _ hiat hexp hlive, huser,
    hadmin⟩
  rw [htext]
  exact Access.bearerToken_bearer hbearer (Access.sign_ne_empty c s.settings.secret)

/-- **An unreadable header is an empty one.**  A guard that asks for a signed-in caller refuses
a request whose `Authorization` header is no text as it refuses an empty header, and changes
nothing. -/
theorem run_authorize_unreadable {g : Guard} (hg : g ≠ .everyone) {req : Request} {v : String}
    (hreq : req.header "authorization" = some v) (hv : visibleText v = none) (s : State) :
    (authorize g req).run.run s = (.error (.unauthorized "empty auth header"), s) := by
  have htext : authorizationText req = some "" := by
    rw [authorizationText, hreq, Option.map_some, hv, Option.getD_none]
  have hauth : authorize g req = do
      let user ← whoIs (← ofExcept (Access.bearerToken (authorizationText req)))
      require (g = .signedIn || user.role = .admin) (.unauthorized "you don't have admin role")
      return some user := by
    simp only [authorize, hg, if_false]
    rfl
  rw [hauth, htext]
  simp only [run_bind, run_ofExcept]
  rfl

/-- **The checks of a bearer header, in order.**  A header gives a token exactly when it is
`Bearer`, one blank and a token that is not empty and has no blank; the token is given back as
written.  Otherwise it is refused as unauthorized by the first check it fails: no header or an
empty one gives `empty auth header`; a header with no blank or more than one gives `invalid auth
header`; a first word other than `Bearer`, in that letter case, gives `invalid bearer`; an empty
token gives `empty token`.  A guard that asks for a signed-in caller reads a header with a
character outside visible ASCII and tab as an empty header. -/
theorem bearerToken_checked_in_order (header : Option String) :
    (∀ t, Access.bearerToken header = .ok t ↔
      header = some ("Bearer " ++ t) ∧ t ≠ "" ∧ ' ' ∉ t.toList) ∧
    (header = none ∨ header = some "" →
      Access.bearerToken header = .error (.unauthorized "empty auth header")) ∧
    (∀ v, header = some v → v ≠ "" → v.toList.count ' ' ≠ 1 →
      Access.bearerToken header = .error (.unauthorized "invalid auth header")) ∧
    (∀ scheme token, header = some (scheme ++ " " ++ token) → ' ' ∉ scheme.toList →
      ' ' ∉ token.toList →
      (scheme ≠ "Bearer" →
        Access.bearerToken header = .error (.unauthorized "invalid bearer")) ∧
      (scheme = "Bearer" → token = "" →
        Access.bearerToken header = .error (.unauthorized "empty token"))) ∧
    (∀ (g : Guard) (req : Request) (v : String) (s : State), g ≠ .everyone →
      req.header "authorization" = some v →
      (∃ c ∈ v.toList, c ≠ '\t' ∧ (c.toNat < 32 ∨ 127 ≤ c.toNat)) →
      (authorize g req).run.run s = (.error (.unauthorized "empty auth header"), s)) := by
  refine ⟨fun t => Access.bearerToken_eq_ok_iff, ?_, ?_, ?_, ?_⟩
  · rintro (rfl | rfl) <;> rfl
  · rintro v rfl hv hcount
    exact Access.bearerToken_of_count_ne hv hcount
  · rintro scheme token rfl hs ht
    rw [Access.bearerToken_words hs ht]
    exact ⟨fun h => if_pos h, fun h htok => by simp [h, htok]⟩
  · intro g req v s hg hreq hchar
    exact run_authorize_unreadable hg hreq (visibleText_eq_none hchar) s

end Storefront.Shop
