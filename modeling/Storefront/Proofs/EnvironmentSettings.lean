import Storefront.Config

/-
  Reading the shop's settings from its environment.

  `Config.ofEnvironment` reads the variables one after another and stops at the first that is
  wrong.  `Config.faults` lists what is wrong with an environment, each check on its own, in the
  order the variables are read: a token lifetime that is no signed 64-bit number, an upload
  time that is no unsigned one, one of the administrator's e-mail address and password without
  the other, each required variable left unset, and a token lifetime whose seconds lie past the
  range of a duration.  `ConfigOf` says field by field which settings an environment gives.

  Main statement (`settings_of_environment`): setting a variable that the settings read by name
  to a blank value reads the same as leaving it unset; reading fails exactly when something is
  wrong, with the first fault; and it succeeds with exactly the settings `ConfigOf` describes.
  The lifetime is checked against the range of a duration last, once every variable is read:
  2562047788016 hours is a 64-bit number, so an environment that sets it and the required
  variables passes every other check and then fails with `lifetimeOutOfRange`
  (`settings_of_lifetime_past_range`), where the program stops.  The system's temporary folder,
  named by `TMPDIR` as it is given, is the one value that does not pass through the blank filter.
-/

namespace Storefront.Config

/-! ## Blank values -/

section Lookup

variable {env env' : Environment} {name n v : String}

theorem lookup_filter_ne (name n : String) (env : Environment) :
    (env.filter (·.1 != name)).lookup n = if n = name then none else env.lookup n := by
  induction env with
  | nil => simp
  | cons p rest ih =>
    obtain ⟨k, b⟩ := p
    by_cases hk : k = name
    · -- the pair is filtered out
      subst hk
      rw [List.filter_cons_of_neg (by simp), ih]
      by_cases hn : n = k
      · simp [hn]
      · simp [hn, List.lookup_cons, beq_eq_false_iff_ne.2 hn]
    · rw [List.filter_cons_of_pos (by simpa using hk), List.lookup_cons, List.lookup_cons, ih]
      by_cases hn : n = k
      · subst hn
        simp [hk]
      · simp [beq_eq_false_iff_ne.2 hn]

/-- **Blank is unset.**  Setting a variable to a blank value reads, for every variable, the same
as unsetting it. -/
theorem lookup_blank_eq (hv : Text.isBlankText v = true) (n : String) :
    lookup ((name, v) :: env) n = lookup (env.filter (·.1 != name)) n := by
  unfold lookup
  rw [lookup_filter_ne]
  by_cases hn : n = name
  · subst hn
    simp [hv]
  · simp [hn, List.lookup_cons, beq_eq_false_iff_ne.2 hn]

/-- The settings depend only on the values of the variables read through the blank filter, and
on `TMPDIR` as it is given. -/
theorem ofEnvironment_congr (h : ∀ n, lookup env n = lookup env' n)
    (htmp : env.lookup "TMPDIR" = env'.lookup "TMPDIR") : ofEnvironment env = ofEnvironment env' := by
  simp only [ofEnvironment, number, required, adminSeed, h, htmp]

/-- A variable other than `TMPDIR` set to a blank value reads as unset. -/
theorem ofEnvironment_blank (hname : name ≠ "TMPDIR") (hv : Text.isBlankText v = true) :
    ofEnvironment ((name, v) :: env) = ofEnvironment (env.filter (·.1 != name)) := by
  refine ofEnvironment_congr (lookup_blank_eq hv) ?_
  rw [lookup_filter_ne, if_neg (Ne.symm hname), List.lookup_cons,
    beq_eq_false_iff_ne.2 (Ne.symm hname)]

end Lookup

/-! ## What can be wrong -/

/-- The variables that must be set, in the order they are read. -/
def requiredVariables : List String := ["DATABASE_URL", "SECRET", "PASSWORD_PEPPER"]

/-- A number variable set to a text its reader refuses. -/
def numberFaults {α : Type} (read : String → Option α) (env : Environment) (name : String) :
    List ConfigError :=
  match lookup env name with
  | some v => if (read v).isNone then [.invalid name v] else []
  | none => []

/-- One of the administrator's e-mail address and password set without the other, which is
then missing. -/
def adminFaults (env : Environment) : List ConfigError :=
  match lookup env "ADMIN_EMAIL", lookup env "ADMIN_PASSWORD" with
  | some _, none => [.missing "ADMIN_PASSWORD"]
  | none, some _ => [.missing "ADMIN_EMAIL"]
  | _, _ => []

/-- The token lifetime in hours an environment gives: the value of `TOKEN_TTL_HOURS` when it
reads as a number, the default when it is unset. -/
def givenHours (env : Environment) : Option Int :=
  match lookup env "TOKEN_TTL_HOURS" with
  | some v => readInt64? v
  | none => some defaultTokenTtlHours

/-- A token lifetime whose seconds lie past the range of a duration. -/
def lifetimeFaults (env : Environment) : List ConfigError :=
  match givenHours env with
  | some hours =>
    if hours * 3600 < -maxDurationSeconds ∨ maxDurationSeconds < hours * 3600 then
      [.lifetimeOutOfRange]
    else []
  | none => []

/-- Everything wrong with an environment, each check on its own, in the order the settings are
read. -/
def faults (env : Environment) : List ConfigError :=
  numberFaults readInt64? env "TOKEN_TTL_HOURS" ++
    numberFaults readUInt64? env "UPLOAD_TIMEOUT_SECS" ++ adminFaults env ++
    (requiredVariables.filter fun name => (lookup env name).isNone).map .missing ++
    lifetimeFaults env

/-! ## What the settings are -/

/-- A number variable gives `n`: its text reads as `n`, or it is unset and `n` is the default. -/
def NumberGiven {α : Type} (read : String → Option α) (env : Environment) (name : String)
    (default n : α) : Prop :=
  match lookup env name with
  | some v => read v = some n
  | none => n = default

/-- `t` is `s` without the `/` characters at its end. -/
def TrimmedOfSlashes (s t : String) : Prop :=
  (∃ k, s.toList = t.toList ++ List.replicate k '/') ∧ t.toList.getLast? ≠ some '/'

/-- The settings an environment gives, field by field. -/
structure ConfigOf (env : Environment) (c : Config) : Prop where
  databaseUrl : lookup env "DATABASE_URL" = some c.databaseUrl
  bindAddr : c.bindAddr = (lookup env "BIND_ADDR").getD defaultBindAddr
  secret : lookup env "SECRET" = some c.secret
  passwordPepper : lookup env "PASSWORD_PEPPER" = some c.passwordPepper
  /-- The lifetime is the hours given, counted in seconds. -/
  tokenTtl : ∃ hours, NumberGiven readInt64? env "TOKEN_TTL_HOURS" defaultTokenTtlHours hours ∧
    c.tokenTtlSeconds = hours * 3600
  storageDir : c.storageDir = (lookup env "STORAGE_DIR").getD defaultStorageDir
  /-- The public url is the one given, or the default, without the `/`s at its end. -/
  publicUrl : TrimmedOfSlashes ((lookup env "PUBLIC_URL").getD defaultPublicUrl) c.publicUrl
  /-- The staging folder defaults to `shop-staging` in the system's temporary folder, which
  `TMPDIR` names as it is given, and which is `/tmp` when it is unset. -/
  stagingDir : c.stagingDir =
    (lookup env "STAGING_DIR").getD (joinDir ((env.lookup "TMPDIR").getD "/tmp") "shop-staging")
  uploadTimeout : NumberGiven readUInt64? env "UPLOAD_TIMEOUT_SECS" defaultUploadTimeoutSecs
    c.uploadTimeoutSecs
  auditUrl : c.auditUrl = lookup env "AUDIT_URL"
  /-- An administrator is seeded exactly when both of the pair are set. -/
  admin : ∀ a, c.admin = some a ↔
    lookup env "ADMIN_EMAIL" = some a.email ∧ lookup env "ADMIN_PASSWORD" = some a.password

/-! ## Each check on its own -/

theorem number_cases {α : Type} (read : String → Option α) (env : Environment) (name : String)
    (default : α) :
    (∃ e, number read env name default = .error e ∧ numberFaults read env name = [e]) ∨
      ∃ n, number read env name default = .ok n ∧ numberFaults read env name = [] ∧
        NumberGiven read env name default n := by
  unfold number numberFaults NumberGiven
  rcases lookup env name with _ | v
  · exact .inr ⟨default, rfl, rfl, rfl⟩
  · rcases hr : read v with _ | n
    · exact .inl ⟨.invalid name v, by simp [hr], by simp [hr]⟩
    · exact .inr ⟨n, by simp [hr], by simp [hr], by simp [hr]⟩

theorem NumberGiven.unique {α : Type} {read : String → Option α} {env : Environment}
    {name : String} {default n n' : α} (h : NumberGiven read env name default n)
    (h' : NumberGiven read env name default n') : n = n' := by
  unfold NumberGiven at h h'
  rcases hl : lookup env name with _ | v
  · rw [hl] at h h'
    exact h.trans h'.symm
  · rw [hl] at h h'
    exact Option.some.inj (h.symm.trans h')

theorem givenHours_of_numberGiven {env : Environment} {hours : Int}
    (h : NumberGiven readInt64? env "TOKEN_TTL_HOURS" defaultTokenTtlHours hours) :
    givenHours env = some hours := by
  unfold NumberGiven at h
  unfold givenHours
  rcases hl : lookup env "TOKEN_TTL_HOURS" with _ | v
  · rw [hl] at h
    rw [h]
  · rw [hl] at h
    exact h

theorem adminSeed_cases (env : Environment) :
    (∃ e, adminSeed env = .error e ∧ adminFaults env = [e]) ∨
      ∃ a, adminSeed env = .ok a ∧ adminFaults env = [] ∧
        ∀ x, a = some x ↔
          lookup env "ADMIN_EMAIL" = some x.email ∧ lookup env "ADMIN_PASSWORD" = some x.password := by
  unfold adminSeed adminFaults
  rcases lookup env "ADMIN_EMAIL" with _ | email <;>
    rcases lookup env "ADMIN_PASSWORD" with _ | password
  · exact .inr ⟨none, rfl, rfl, by simp⟩
  · exact .inl ⟨_, rfl, rfl⟩
  · exact .inl ⟨_, rfl, rfl⟩
  · refine .inr ⟨some ⟨email, password⟩, rfl, rfl, fun x => ?_⟩
    cases x
    simp

/-- The settings read a lifetime of `hours` hours as that many seconds, when a duration of
milliseconds holds it, negative or not. -/
theorem lifetimeSeconds_eq_ok {hours ttl : Int} :
    lifetimeSeconds hours = .ok ttl ↔
      ttl = hours * 3600 ∧ -maxDurationSeconds ≤ hours * 3600 ∧
        hours * 3600 ≤ maxDurationSeconds := by
  unfold lifetimeSeconds
  by_cases hout : hours * 3600 < -maxDurationSeconds ∨ maxDurationSeconds < hours * 3600
  · have hbad : (decide (hours * 3600 < -maxDurationSeconds) ||
        decide (maxDurationSeconds < hours * 3600)) = true := by simpa using hout
    simp only [hbad, if_true, reduceCtorEq, false_iff]
    omega
  · have hgood : (decide (hours * 3600 < -maxDurationSeconds) ||
        decide (maxDurationSeconds < hours * 3600)) = false := by simpa using hout
    simp only [hgood, Bool.false_eq_true, if_false, Except.ok.injEq]
    omega

/-- A lifetime past the range of a duration is refused. -/
theorem lifetimeSeconds_of_out {hours : Int}
    (h : hours * 3600 < -maxDurationSeconds ∨ maxDurationSeconds < hours * 3600) :
    lifetimeSeconds hours = .error .lifetimeOutOfRange := by
  have hbad : (decide (hours * 3600 < -maxDurationSeconds) ||
      decide (maxDurationSeconds < hours * 3600)) = true := by simpa using h
  simp only [lifetimeSeconds, hbad, if_true]

/-! ## The public url -/

/-- A list read backwards without its leading `/`s, and read forwards again, is the list without
the `/`s at its end. -/
theorem reverse_dropWhile_reverse_eq_iff {l t : List Char} :
    (l.reverse.dropWhile (fun c => decide (c = '/'))).reverse = t ↔
      (∃ k, l = t ++ List.replicate k '/') ∧ t.getLast? ≠ some '/' := by
  constructor
  · rintro rfl
    -- read backwards, the list is its trailing slashes and then the rest
    have hslashes : l.reverse.takeWhile (fun c => decide (c = '/')) =
        List.replicate (l.reverse.takeWhile fun c => decide (c = '/')).length '/' := by
      refine List.eq_replicate_iff.2 ⟨rfl, fun c hc => ?_⟩
      simpa using List.all_eq_true.1 List.all_takeWhile c hc
    refine ⟨⟨(l.reverse.takeWhile fun c => decide (c = '/')).length, ?_⟩, ?_⟩
    · conv => lhs; rw [← List.reverse_reverse l, ← List.takeWhile_append_dropWhile
        (p := fun c => decide (c = '/')) (l := l.reverse), hslashes]
      simp
    · rw [List.getLast?_reverse]
      have hhead := List.head?_dropWhile_not (fun c => decide (c = '/')) l.reverse
      intro hlast
      rw [hlast] at hhead
      simp at hhead
  · rintro ⟨⟨k, rfl⟩, hlast⟩
    -- the rest, read backwards, starts with a character other than `/`
    have hkeep : t.reverse.dropWhile (fun c => decide (c = '/')) = t.reverse := by
      rcases hrt : t.reverse with _ | ⟨c, rest⟩
      · rfl
      · have hc : c ≠ '/' := by
          intro hc
          apply hlast
          rw [← List.head?_reverse, hrt, hc]
          rfl
        simp [hc]
    rw [List.reverse_append, List.reverse_replicate, List.dropWhile_append_of_pos (by simp), hkeep,
      List.reverse_reverse]

/-- **Trailing slashes.**  `dropTrailingSlashes s` is `s` without the `/`s at its end, and it is
the only such text. -/
theorem dropTrailingSlashes_eq_iff {s t : String} :
    dropTrailingSlashes s = t ↔ TrimmedOfSlashes s t := by
  rw [TrimmedOfSlashes, ← reverse_dropWhile_reverse_eq_iff, dropTrailingSlashes]
  constructor
  · rintro rfl
    simp
  · intro h
    rw [h, String.ofList_toList]

/-! ## Reading the settings -/

/-- **How a reading ends.**  It fails with the first fault of the environment, or, when there
is none, gives the settings `ConfigOf` describes. -/
theorem ofEnvironment_cases (env : Environment) :
    (∃ e, ofEnvironment env = .error e ∧ (faults env).head? = some e) ∨
      ∃ c, ofEnvironment env = .ok c ∧ faults env = [] ∧ ConfigOf env c := by
  -- the two numbers, each read or refused
  rcases number_cases readInt64? env "TOKEN_TTL_HOURS" defaultTokenTtlHours with
    ⟨e, hrun, hf⟩ | ⟨hours, hhours, hfh, hgh⟩
  · exact .inl ⟨e, by simp only [ofEnvironment, hrun]; rfl, by simp [faults, hf]⟩
  rcases number_cases readUInt64? env "UPLOAD_TIMEOUT_SECS" defaultUploadTimeoutSecs with
    ⟨e, hrun, hf⟩ | ⟨timeout, htimeout, hft, hgt⟩
  · exact .inl ⟨e, by simp only [ofEnvironment, hhours, hrun]; rfl, by simp [faults, hfh, hf]⟩
  -- the administrator's pair
  rcases adminSeed_cases env with ⟨e, hrun, hf⟩ | ⟨admin, hadmin, hfa, hga⟩
  · exact .inl ⟨e, by simp only [ofEnvironment, hhours, htimeout, hrun]; rfl,
      by simp [faults, hfh, hft, hf]⟩
  -- the required variables, in order
  rcases hdb : lookup env "DATABASE_URL" with _ | databaseUrl
  · exact .inl ⟨_, by simp only [ofEnvironment, hhours, htimeout, hadmin, required, hdb]; rfl,
      by simp [faults, hfh, hft, hfa, requiredVariables, hdb]⟩
  rcases hsecret : lookup env "SECRET" with _ | secret
  · exact .inl ⟨_, by simp only [ofEnvironment, hhours, htimeout, hadmin, required, hdb, hsecret]; rfl,
      by simp [faults, hfh, hft, hfa, requiredVariables, hdb, hsecret]⟩
  rcases hpepper : lookup env "PASSWORD_PEPPER" with _ | passwordPepper
  · exact .inl ⟨_, by
      simp only [ofEnvironment, hhours, htimeout, hadmin, required, hdb, hsecret, hpepper]; rfl,
      by simp [faults, hfh, hft, hfa, requiredVariables, hdb, hsecret, hpepper]⟩
  have hmissing : (requiredVariables.filter fun name => (lookup env name).isNone) = [] := by
    simp [requiredVariables, hdb, hsecret, hpepper]
  -- the lifetime, last
  have hgiven := givenHours_of_numberGiven hgh
  by_cases hout : hours * 3600 < -maxDurationSeconds ∨ maxDurationSeconds < hours * 3600
  · refine .inl ⟨.lifetimeOutOfRange, ?_,
      by simp [faults, hfh, hft, hfa, hmissing, lifetimeFaults, hgiven, hout]⟩
    simp only [ofEnvironment, hhours, htimeout, hadmin, required, hdb, hsecret, hpepper, bind,
      Except.bind, lifetimeSeconds_of_out hout]
  have hseconds : lifetimeSeconds hours = .ok (hours * 3600) :=
    lifetimeSeconds_eq_ok.2 ⟨rfl, by omega, by omega⟩
  refine .inr ⟨?_, ?hrun, by simp [faults, hfh, hft, hfa, hmissing, lifetimeFaults, hgiven, hout],
    ?hconfig⟩
  case hrun =>
    simp only [ofEnvironment, hhours, htimeout, hadmin, required, hdb, hsecret, hpepper, bind,
      Except.bind, hseconds]
    rfl
  case hconfig =>
    exact ⟨hdb, rfl, hsecret, hpepper, ⟨hours, hgh, rfl⟩, rfl, dropTrailingSlashes_eq_iff.1 rfl,
      rfl, hgt, rfl, hga⟩

/-- **The settings are determined.**  At most one set of settings fits an environment. -/
theorem ConfigOf.unique {env : Environment} {c c' : Config} (h : ConfigOf env c)
    (h' : ConfigOf env c') : c = c' := by
  obtain ⟨hours, hg, httl⟩ := h.tokenTtl
  obtain ⟨hours', hg', httl'⟩ := h'.tokenTtl
  have hadmin : c.admin = c'.admin := by
    rcases ha : c'.admin with _ | a
    · rcases ha' : c.admin with _ | a'
      · rfl
      · exact absurd ((h'.admin a').2 ((h.admin a').1 ha')) (by simp [ha])
    · exact (h.admin a).2 ((h'.admin a).1 ha)
  have hurl : c.publicUrl = c'.publicUrl :=
    (dropTrailingSlashes_eq_iff.2 h.publicUrl).symm.trans (dropTrailingSlashes_eq_iff.2 h'.publicUrl)
  cases c
  cases c'
  simp only [Config.mk.injEq]
  refine ⟨Option.some.inj (h.databaseUrl.symm.trans h'.databaseUrl), h.bindAddr.trans h'.bindAddr.symm,
    Option.some.inj (h.secret.symm.trans h'.secret),
    Option.some.inj (h.passwordPepper.symm.trans h'.passwordPepper), ?_,
    h.storageDir.trans h'.storageDir.symm, hurl, h.stagingDir.trans h'.stagingDir.symm,
    h.uploadTimeout.unique h'.uploadTimeout, h.auditUrl.trans h'.auditUrl.symm, hadmin⟩
  simp only at httl httl'
  rw [httl, httl', hg.unique hg']

theorem ofEnvironment_eq_error_iff {env : Environment} {e : ConfigError} :
    ofEnvironment env = .error e ↔ (faults env).head? = some e := by
  rcases ofEnvironment_cases env with ⟨e', hrun, hfirst⟩ | ⟨c, hrun, hnone, -⟩
  · rw [hrun, hfirst]
    simp [eq_comm]
  · simp [hrun, hnone]

theorem ofEnvironment_eq_ok_iff {env : Environment} {c : Config} :
    ofEnvironment env = .ok c ↔ faults env = [] ∧ ConfigOf env c := by
  rcases ofEnvironment_cases env with ⟨e, hrun, hfirst⟩ | ⟨c', hrun, hnone, hc'⟩
  · rw [hrun]
    constructor
    · rintro ⟨⟩
    · rintro ⟨hnone, -⟩
      simp [hnone] at hfirst
  · rw [hrun]
    constructor
    · rintro ⟨⟩
      exact ⟨hnone, hc'⟩
    · rintro ⟨-, hc⟩
      rw [hc'.unique hc]

/-- **Reading the settings from an environment.**  A variable other than `TMPDIR` set to an
empty or blank value reads as unset.  Reading fails exactly when the environment has a fault,
with the first one in this order: `TOKEN_TTL_HOURS` set to no signed 64-bit number, then
`UPLOAD_TIMEOUT_SECS` set to no unsigned one, then one of `ADMIN_EMAIL` and `ADMIN_PASSWORD`
set without the other (which is reported missing), then the first of `DATABASE_URL`, `SECRET`
and `PASSWORD_PEPPER` left unset, and last a lifetime of hours whose seconds lie past the range
of a duration.  Otherwise it gives the settings `ConfigOf` describes: each value as given, or
its default, the lifetime in seconds, the public url without its trailing `/`s, and an
administrator exactly when both of the pair are set. -/
theorem settings_of_environment (env : Environment) :
    (∀ name v, name ≠ "TMPDIR" → Text.isBlankText v = true →
      ofEnvironment ((name, v) :: env) = ofEnvironment (env.filter (·.1 != name))) ∧
    (∀ e, ofEnvironment env = .error e ↔ (faults env).head? = some e) ∧
    (∀ c, ofEnvironment env = .ok c ↔ faults env = [] ∧ ConfigOf env c) :=
  ⟨fun _ _ hname hv => ofEnvironment_blank hname hv, fun _ => ofEnvironment_eq_error_iff,
    fun _ => ofEnvironment_eq_ok_iff⟩

/-- An environment that sets the required variables and a lifetime of 2562047788016 hours, a
64-bit number whose seconds lie past the range of a duration: its only fault is the lifetime,
so reading it fails there; with its secret set blank, the missing secret comes first. -/
theorem settings_of_lifetime_past_range :
    (let env : Environment := [("DATABASE_URL", "sqlite://shop.db"), ("PASSWORD_PEPPER", "p"),
      ("SECRET", "s"), ("TOKEN_TTL_HOURS", "2562047788016")]
    faults env = [.lifetimeOutOfRange] ∧ ofEnvironment env = .error .lifetimeOutOfRange ∧
      ofEnvironment (("SECRET", " ") :: env) = .error (.missing "SECRET")) := by
  intro env
  have hfaults : faults env = [.lifetimeOutOfRange] := by decide +kernel
  have hblank : (faults (env.filter (·.1 != "SECRET"))).head? = some (.missing "SECRET") := by
    decide +kernel
  refine ⟨hfaults, ((settings_of_environment env).2.1 _).2 (by rw [hfaults]; rfl), ?_⟩
  rw [(settings_of_environment env).1 "SECRET" " " (by decide) (by decide)]
  exact ((settings_of_environment _).2.1 _).2 hblank

end Storefront.Config
