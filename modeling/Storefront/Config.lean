import Storefront.Text.Blank

/-
  Settings of the shop, read from environment variables.

  A variable that is unset or blank counts as unset; a set value is used as written, blanks
  included.  Numbers are read in full: an optional sign (`+` only for counts) and decimal
  digits, within 64 bits.  The token lifetime is given in hours and must fit the range of a
  duration in milliseconds; a value outside it stops the program.
-/

namespace Storefront

/-- The environment: variables and their values. -/
abbrev Environment := List (String × String)

/-- Credentials of the administrator created at start. -/
structure AdminSeed where
  email : String
  password : String
  deriving DecidableEq, Repr

/-- The shop's settings. -/
structure Config where
  databaseUrl : String
  bindAddr : String
  secret : String
  passwordPepper : String
  tokenTtlSeconds : Int
  storageDir : String
  publicUrl : String
  stagingDir : String
  uploadTimeoutSecs : Nat
  auditUrl : Option String
  admin : Option AdminSeed
  deriving DecidableEq, Repr

/-- Why settings cannot be read. -/
inductive ConfigError where
  /-- A required variable is unset. -/
  | missing (name : String)
  /-- A variable does not read as the number it should be. -/
  | invalid (name value : String)
  /-- The token lifetime in hours is outside the range of a duration. -/
  | lifetimeOutOfRange
  deriving DecidableEq, Repr

/-- The text of a configuration error. -/
def ConfigError.message : ConfigError → String
  | .missing name => name ++ " must be set"
  | .invalid name value => name ++ " has an invalid value: " ++ value
  | .lifetimeOutOfRange => "TimeDelta::hours out of bounds"

namespace Config

/-- Default listening address. -/
def defaultBindAddr : String := "0.0.0.0:3000"
/-- Default base url of served objects. -/
def defaultPublicUrl : String := "http://localhost:3000"
/-- Default folder of the disk bucket. -/
def defaultStorageDir : String := "./uploads"
/-- Default token lifetime in hours. -/
def defaultTokenTtlHours : Int := 12
/-- Default upload timeout in seconds. -/
def defaultUploadTimeoutSecs : Nat := 30

/-- The largest number of whole seconds a duration holds: a duration counts milliseconds in
a signed 64-bit word. -/
def maxDurationSeconds : Int := 9223372036854775

/-- A token lifetime given in hours, in seconds, if it is within the range of a duration. -/
def lifetimeSeconds (hours : Int) : Except ConfigError Int :=
  let seconds := hours * 3600
  if seconds < -maxDurationSeconds || maxDurationSeconds < seconds then .error .lifetimeOutOfRange
  else .ok seconds

/-- The value of a variable, unless it is unset or blank. -/
def lookup (env : Environment) (name : String) : Option String :=
  match env.lookup name with
  | some v => if Text.isBlankText v then none else some v
  | none => none

/-- The value of a natural number written in decimal digits only. -/
def digitsValue? (cs : List Char) : Option Nat :=
  if cs.isEmpty || !cs.all Char.isDigit then none
  else some (cs.foldl (fun n c => 10 * n + (c.toNat - 48)) 0)

/-- A signed 64-bit integer in decimal, with an optional `+` or `-`. -/
def readInt64? (s : String) : Option Int :=
  let (neg, digits) := match s.toList with
    | '-' :: rest => (true, rest)
    | '+' :: rest => (false, rest)
    | cs => (false, cs)
  match digitsValue? digits with
  | some n =>
    let v : Int := if neg then -(n : Int) else n
    if -Int.pow 2 63 ≤ v && v < Int.pow 2 63 then some v else none
  | none => none

/-- An unsigned 64-bit integer in decimal, with an optional `+`. -/
def readUInt64? (s : String) : Option Nat :=
  let digits := match s.toList with
    | '+' :: rest => rest
    | cs => cs
  match digitsValue? digits with
  | some n => if n < Nat.pow 2 64 then some n else none
  | none => none

/-- A number read from a variable, its default if unset. -/
def number {α : Type} (read : String → Option α) (env : Environment) (name : String)
    (default : α) : Except ConfigError α :=
  match lookup env name with
  | none => .ok default
  | some v =>
    match read v with
    | some n => .ok n
    | none => .error (.invalid name v)

/-- A variable that must be set. -/
def required (env : Environment) (name : String) : Except ConfigError String :=
  match lookup env name with
  | some v => .ok v
  | none => .error (.missing name)

/-- A string without the `/` characters at its end. -/
def dropTrailingSlashes (s : String) : String :=
  String.ofList (s.toList.reverse.dropWhile (· = '/')).reverse

/-- A folder path joined with a relative name: a `/` between unless the folder is empty or
ends with `/`. -/
def joinDir (dir name : String) : String :=
  if dir = "" || dir.endsWith "/" then dir ++ name else dir ++ "/" ++ name

/-- The administrator to seed: the e-mail address and the password together, or neither. -/
def adminSeed (env : Environment) : Except ConfigError (Option AdminSeed) :=
  match lookup env "ADMIN_EMAIL", lookup env "ADMIN_PASSWORD" with
  | some email, some password => .ok (some { email, password })
  | none, none => .ok none
  | some _, none => .error (.missing "ADMIN_PASSWORD")
  | none, some _ => .error (.missing "ADMIN_EMAIL")

/-- The settings given by an environment.  The variables are read in a fixed order, and
the first failure is reported. -/
def ofEnvironment (env : Environment) : Except ConfigError Config := do
  let hours ← number readInt64? env "TOKEN_TTL_HOURS" defaultTokenTtlHours
  let timeout ← number readUInt64? env "UPLOAD_TIMEOUT_SECS" defaultUploadTimeoutSecs
  let admin ← adminSeed env
  let databaseUrl ← required env "DATABASE_URL"
  let bindAddr := (lookup env "BIND_ADDR").getD defaultBindAddr
  let secret ← required env "SECRET"
  let passwordPepper ← required env "PASSWORD_PEPPER"
  let seconds ← lifetimeSeconds hours
  let tempDir := (env.lookup "TMPDIR").getD "/tmp"
  return {
    databaseUrl, bindAddr, secret, passwordPepper
    tokenTtlSeconds := seconds
    storageDir := (lookup env "STORAGE_DIR").getD defaultStorageDir
    publicUrl := dropTrailingSlashes ((lookup env "PUBLIC_URL").getD defaultPublicUrl)
    stagingDir := (lookup env "STAGING_DIR").getD (joinDir tempDir "shop-staging")
    uploadTimeoutSecs := timeout
    auditUrl := lookup env "AUDIT_URL"
    admin }

end Config

end Storefront
