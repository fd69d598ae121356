import Mathlib.Algebra.Group.Int.Defs
import Storefront.Proofs.EnvironmentSettings
import Storefront.Proofs.Accounts

/-
  How long an access token lives.

  A token's expiry is the second it was minted at plus the configured lifetime, written into
  the token as an unsigned 64-bit word (`stampWord`).  An expiry at or after the epoch is its
  own count of seconds; one before the epoch wraps around to a count near 2^64.  The settings
  take every lifetime of whole hours that a duration of milliseconds holds, negative ones
  included (`lifetimeSeconds_eq_ok`), and the calendar reaches far before the epoch, so such an
  expiry is minted without complaint.

  Main statement (`minted_token_expiry`): a token minted at the second `m` under a lifetime of
  `h` hours is accepted at the second `t` exactly when `t` is at most its expiry word plus the
  leeway of 60 seconds.  For `m + 3600 h ≥ 0` that is `t ≤ m + 3600 h + 60`.  For
  `m + 3600 h < 0` it is `t ≤ 2^64 + m + 3600 h + 60`, which every second of the calendar
  meets: such a token never expires.
-/

namespace Storefront.Shop

open Storefront.Access Storefront.Time

/-! ## Expiry words -/

/-- A time stamp of the calendar before the epoch wraps around to 2^64 seconds later. -/
theorem stampWord_of_neg {t : Int} (h : startOfCalendar ≤ t) (hneg : t < 0) :
    stampWord t = (t + 2 ^ 64).toNat := by
  have hpow : Int.pow 2 64 = 18446744073709551616 := by decide
  unfold stampWord startOfCalendar at *
  rw [hpow]
  congr 1
  omega

/-! ## Minted tokens -/

/-- A mint that answers a token answers the shop's access claims signed under its secret, and
their expiry lies in the calendar. -/
theorem mintToken_eq_ok {id token : String} {s s' : State}
    (h : (mintToken id).run.run s = (.ok token, s')) :
    (expiresAt s).inRange = true ∧ token = (accessClaims id s).sign s.settings.secret := by
  rw [run_mintToken] at h
  split at h
  · next hrange =>
    cases h
    exact ⟨hrange, rfl⟩
  · cases h

/-- A minted token is accepted at a second exactly when that second is at most its expiry word
plus the leeway, and then with the claims it was minted with. -/
theorem verify_minted {id token : String} {s s' : State}
    (h : (mintToken id).run.run s = (.ok token, s')) (t : Nat) :
    verify s.settings.secret t token =
      if stampWord (expiresAt s).seconds + leeway < t then none else some (accessClaims id s) := by
  obtain ⟨-, rfl⟩ := mintToken_eq_ok h
  exact verify_sign_eq _ _ t (stampWord_le (instantAt s.clock).seconds)
    (stampWord_le (expiresAt s).seconds)

/-- **How long a minted token is accepted.**  Let a shop's token lifetime be read from `hours`
hours by the settings, and let a token be minted at the second `m` of the shop's clock, so that
it expires at `e = m + 3600 hours`.  When `e` is at or after the epoch, the token is accepted at
the second `t` exactly when `t ≤ e + 60`.  When `e` is before the epoch, its expiry word wraps
around: the token is accepted exactly when `t ≤ e + 2^64 + 60`, and so at every second of the
calendar. -/
theorem minted_token_expiry {hours : Int} {id token : String} {s s' : State}
    (httl : Config.lifetimeSeconds hours = .ok s.settings.tokenTtlSeconds)
    (hmint : (mintToken id).run.run s = (.ok token, s')) (t : Nat) :
    (0 ≤ (instantAt s.clock).seconds + hours * 3600 →
      ((verify s.settings.secret t token).isSome ↔
        (t : Int) ≤ (instantAt s.clock).seconds + hours * 3600 + leeway)) ∧
    ((instantAt s.clock).seconds + hours * 3600 < 0 →
      ((verify s.settings.secret t token).isSome ↔
        (t : Int) ≤ (instantAt s.clock).seconds + hours * 3600 + 2 ^ 64 + leeway) ∧
      ((t : Int) < endOfCalendar → (verify s.settings.secret t token).isSome)) := by
  have hexpiry : (expiresAt s).seconds = (instantAt s.clock).seconds + hours * 3600 := by
    simp [expiresAt, Instant.addSeconds, (Config.lifetimeSeconds_eq_ok.1 httl).1]
  -- acceptance is a comparison with the expiry word
  have haccepted : (verify s.settings.secret t token).isSome ↔
      t ≤ stampWord (expiresAt s).seconds + leeway := by
    rw [verify_minted hmint t]
    split <;> simp_all
  have hbounds : startOfCalendar ≤ (expiresAt s).seconds ∧ (expiresAt s).seconds < endOfCalendar := by
    simpa [Instant.inRange] using (mintToken_eq_ok hmint).1
  rw [haccepted, ← hexpiry]
  refine ⟨fun hnonneg => ?_, fun hneg => ?_⟩
  · -- at or after the epoch the word is the expiry itself
    rw [stampWord_of_lt hnonneg hbounds.2]
    omega
  · -- before the epoch the word lies 2^64 seconds later, past the calendar's end
    rw [stampWord_of_neg hbounds.1 hneg]
    unfold startOfCalendar endOfCalendar at *
    omega

/-- Tokens that last minus a million hours, minted as the clock starts in 2026, expire in 1911:
the token is accepted at the very second it is minted. -/
theorem minted_token_expiry_before_epoch :
    let s : State :=
      { bucket := .memory (Bucket.Memory.empty "https://shop.test")
        settings := ⟨"secret", "pepper", -3600000000, 30000⟩ }
    let token := (accessClaims "user" s).sign "secret"
    Config.lifetimeSeconds (-1000000) = .ok s.settings.tokenTtlSeconds ∧
      (mintToken "user").run.run s = (.ok token, { s with clock := 1 }) ∧
      (instantAt s.clock).seconds + -1000000 * 3600 < 0 ∧
      (verify "secret" (instantAt s.clock).seconds.toNat token).isSome := by
  intro s token
  have httl : Config.lifetimeSeconds (-1000000) = .ok s.settings.tokenTtlSeconds := by decide
  have hmint : (mintToken "user").run.run s = (.ok token, { s with clock := 1 }) := by
    have hrange : (expiresAt s).inRange = true := by decide
    rw [run_mintToken, if_pos hrange]
  have hbefore : (instantAt s.clock).seconds + -1000000 * 3600 < 0 := by decide
  exact ⟨httl, hmint, hbefore,
    ((minted_token_expiry httl hmint _).2 hbefore).2 (by decide)⟩

end Storefront.Shop
