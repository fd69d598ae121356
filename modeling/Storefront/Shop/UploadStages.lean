import Storefront.Shop.Upload

/-
  Uploads under way at once.

  The shop serves requests side by side: a request runs until it waits on the bucket or on the
  tables, and another request may run meanwhile.  An upload waits four times on its way: while
  its file is shipped, while the product's image is read, while the previous image is removed,
  and while the upload is recorded, which is one transaction.  After a failure once the file is
  stored it waits once more, while the file is discarded.  Removing the staged file does not
  wait: it belongs to the step before.

  `UploadStage` says where a run stands between two of these points, and `UploadStage.step`
  takes it to the next through the steps `uploadImage` is made of.  `UploadPair` holds two runs
  and the shop they share; a schedule says which of the two moves at each point.
-/

namespace Storefront.Shop

/-- Where a run of an upload stands between two points where it waits. -/
inductive UploadStage where
  /-- The form is still to be checked and its file shipped. -/
  | start (form : UploadForm)
  /-- The file is in the bucket. -/
  | shipped (u : ShippedUpload)
  /-- The product's image has been read: it names the object `old`, if any. -/
  | found (u : ShippedUpload) (old : Option String)
  /-- The object of the previous image has been removed. -/
  | cleared (u : ShippedUpload)
  /-- The upload is recorded, and the run answers its url. -/
  | stored (u : ShippedUpload)
  /-- A step failed once the file was stored; the upload is still to be undone. -/
  | undoing (u : ShippedUpload) (e : Error)
  /-- The run has failed. -/
  | failed (e : Error)

namespace UploadStage

/-- The stage a step leads to, `next` of what the step answers or `fail` of its failure, and
the shop after the step. -/
def after {α : Type} (x : Service α) (next : α → UploadStage) (fail : Error → UploadStage)
    (s : State) : UploadStage × State :=
  match x.run.run s with
  | (.ok a, s') => (next a, s')
  | (.error e, s') => (fail e, s')

/-- One step of a run: its next call on the bucket or access to the tables.  A run that has
answered stays as it is. -/
def step : UploadStage → State → UploadStage × State
  | .start form => after (shipUpload form) .shipped .failed
  | .shipped u => after (previousImage u.form.productId) (.found u) (.undoing u)
  | .found u old => after (removePrevious old) (fun _ => .cleared u) (.undoing u)
  | .cleared u => after (do recordUpload u; unstage u.staged) (fun _ => .stored u) (.undoing u)
  | .undoing u e => after u.undo (fun _ => .failed e) .failed
  | .stored u => fun s => (.stored u, s)
  | .failed e => fun s => (.failed e, s)

/-- The answer of a run that has answered. -/
def answer : UploadStage → Option (Except Error String)
  | .stored u => some (.ok u.url)
  | .failed e => some (.error e)
  | _ => none

/-- A run alone, `n` steps on. -/
def steps : Nat → UploadStage → State → UploadStage × State
  | 0, st, s => (st, s)
  | n + 1, st, s => steps n (st.step s).1 (st.step s).2

end UploadStage

/-- Two uploads under way at once, and the shop they share. -/
structure UploadPair where
  first : UploadStage
  second : UploadStage
  shop : State

namespace UploadPair

/-- The pair once the first run (`true`) or the second (`false`) has taken its next step. -/
def step (p : UploadPair) : Bool → UploadPair
  | true => { p with first := (p.first.step p.shop).1, shop := (p.first.step p.shop).2 }
  | false => { p with second := (p.second.step p.shop).1, shop := (p.second.step p.shop).2 }

/-- The pair once the runs have taken their steps in the order of the schedule. -/
def run (p : UploadPair) : List Bool → UploadPair
  | [] => p
  | turn :: rest => (p.step turn).run rest

end UploadPair

end Storefront.Shop
