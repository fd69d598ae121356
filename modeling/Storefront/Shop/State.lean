import Storefront.Shop.Tables
import Storefront.Bucket.Store
import Storefront.Error
import Storefront.Media.Staging

/-
  The state of a running shop and the monad its services run in.

  A shop holds its tables, its image bucket, the folder uploads are staged in and its settings,
  together with a clock and a source of fresh ids.  The clock starts at midnight on the first of January 2026 and moves on
  one millisecond each time it is read, so every time stamp a shop hands out is later than the
  ones before it.  Ids are version 4 UUIDs numbered in the order they are handed out.

  A service either answers or fails with an `Error`; the state it reached before failing is
  kept, as a store that has already written some rows keeps them.
-/

namespace Storefront.Shop

open Storefront.Time

/-- What a shop is configured with. -/
structure Settings where
  /-- The key access tokens are signed with. -/
  secret : String
  /-- The pepper passwords are kept under. -/
  pepper : String
  /-- How long an access token lasts, in seconds. -/
  tokenTtlSeconds : Int
  /-- How long an upload to the bucket may take, in milliseconds. -/
  uploadTimeoutMs : Nat
  deriving Repr

/-- A running shop. -/
structure State where
  tables : Tables := {}
  bucket : Bucket.Store
  /-- The folder an upload's file is written to before it goes to the bucket. -/
  staging : Media.Staging := {}
  settings : Settings
  /-- Milliseconds since the clock started. -/
  clock : Nat := 0
  /-- How many ids have been handed out. -/
  issued : Nat := 0

/-- The monad of the shop's services. -/
abbrev Service := ExceptT Error (StateM State)

/-- The second the clock starts at: 2026-01-01T00:00:00Z. -/
def epochStart : Int := 1767225600

/-- The instant `ms` milliseconds after the clock started. -/
def instantAt (ms : Nat) : Instant :=
  { seconds := epochStart + (ms / 1000 : Nat), nanos := (ms % 1000) * 1000000 }

/-- Reads the clock, which then moves on one millisecond. -/
def now : Service Instant :=
  modifyGet fun s => (instantAt s.clock, { s with clock := s.clock + 1 })

/-- The lowercase hexadecimal digits of `n`, padded with zeros to `width`. -/
def hexPadded (width n : Nat) : String :=
  let ds := Nat.toDigits 16 n
  String.ofList (List.replicate (width - ds.length) '0' ++ ds)

/-- The id numbered `n`. -/
def idNumbered (n : Nat) : String :=
  "7c9e6679-7425-40de-944b-" ++ hexPadded 12 n

/-- Hands out a fresh id. -/
def freshId : Service String :=
  modifyGet fun s => (idNumbered (s.issued + 1), { s with issued := s.issued + 1 })

/-- Runs a step on the tables. -/
def withTables {α : Type} (f : Tables → Tables × α) : Service α :=
  modifyGet fun s => let (t, a) := f s.tables; (a, { s with tables := t })

/-- Runs a step on the bucket, failing with its error. -/
def withBucket {α : Type} (f : Bucket.Store → Bucket.Store × Except Bucket.Error α) :
    Service (Except Bucket.Error α) :=
  modifyGet fun s => let (b, r) := f s.bucket; (r, { s with bucket := b })

/-- Runs a step on the staging folder. -/
def withStaging {α : Type} (f : Media.Staging → Media.Staging × α) : Service α :=
  modifyGet fun s => let (st, a) := f s.staging; (a, { s with staging := st })

/-- A failure unless the condition holds. -/
def require (c : Bool) (e : Error) : Service Unit :=
  if c then pure () else throw e

/-- The value of an option, or a failure. -/
def orFail {α : Type} (o : Option α) (e : Error) : Service α :=
  match o with
  | some a => pure a
  | none => throw e

/-- The value of a checked result, or its failure. -/
def ofExcept {α : Type} (r : Except Error α) : Service α :=
  match r with
  | .ok a => pure a
  | .error e => throw e

end Storefront.Shop
