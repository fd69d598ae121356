import Storefront.Shop.Routes
import Storefront.Session.Transcript
import Storefront.Json.Reader
import Storefront.Config

/-
  Sessions with a shop: a shop set up from a few settings, then a list of steps, each with an
  answer that does not depend on random ids, tokens or clocks.

  Most steps are HTTP requests; the others look into or adjust the shop directly: the calls
  its in-memory bucket received, the files in its disk bucket, the files recorded for a
  product, and so on.  Texts in a step may refer to earlier answers with `{#n}` and `{@n}`
  (see `Labels.substitute`); the references are resolved when the step is taken.
-/

namespace Storefront.Session

open Storefront.Json Storefront.Http Storefront.Shop

/-- Where a session's shop keeps its images. -/
inductive StorageKind where
  | memory
  | disk
  deriving DecidableEq, Repr

/-- The settings a session's shop starts from. -/
structure Setup where
  /-- The administrator made at the start, if any: e-mail address and password. -/
  admin : Option (String × String) := some ("admin@shop.test", "admin-password")
  secret : String := "test-secret"
  pepper : String := "test-pepper"
  tokenTtlHours : Int := 1
  uploadTimeoutMs : Nat := 30000
  storage : StorageKind := .memory
  /-- The folder a disk bucket keeps its files in: a fresh temporary folder, `/tmp/.tmp` and six
  characters, of which only the length shows in answers. -/
  diskRoot : String := "/tmp/.tmpbucket"
  bucketUrl : String := "https://host"
  publicUrl : String := "http://localhost"
  deriving Repr

/-- The content of a form part. -/
inductive PartContent where
  | none
  | text (s : String)
  | data (b : ByteArray)

/-- A part of a multipart form to send. -/
structure FormPart where
  name : Option String := none
  fileName : Option String := none
  contentType : Option String := none
  content : PartContent := .none

/-- The body of a request to send. -/
inductive Payload where
  | none
  /-- A JSON document, written compactly with sorted keys. -/
  | json (v : Value)
  /-- A multipart form. -/
  | form (parts : List FormPart)
  /-- Text, sent as UTF-8. -/
  | text (s : String)
  /-- Raw bytes. -/
  | bytes (b : ByteArray)

/-- An HTTP request to send. -/
structure Call where
  method : String := "GET"
  path : String
  /-- Header names and values; a name given here replaces the same name set otherwise. -/
  headers : List (String × String) := []
  /-- A bearer token for the `Authorization` header. -/
  auth : Option String := none
  payload : Payload := .none

/-- A step of a session. -/
inductive Step where
  | http (c : Call)
  /-- Signs claims into a token, setting `exp` and `iat` to now plus an offset when given. -/
  | token (secret : String) (alg : Access.Algorithm) (claims : Value) (expOffset iatOffset : Option Int)
  | storageCalls
  | storageContains (key : String)
  | storageFail (uploads deletes : Option Bool)
  | storageStall (ms : Option Nat)
  | bucketFiles
  | stagedFiles
  | filesForProduct (productId : String)
  | deleteUser (id : String)
  | ensureAdmin (email password : String)
  | uploadImage (form : UploadForm)

/-- A session in progress: the shop and the labels given so far. -/
structure World where
  shop : Shop.State
  labels : Labels := {}

/-- The boundary of the forms a session sends. -/
def boundary : String := "XBOUNDARY"

/-- The bytes of a form. -/
def formBody (parts : List FormPart) : ByteArray :=
  let part (p : FormPart) : ByteArray :=
    let disposition := "Content-Disposition: form-data" ++
      (p.name.map (fun n => "; name=\"" ++ n ++ "\"")).getD "" ++
      (p.fileName.map (fun f => "; filename=\"" ++ f ++ "\"")).getD "" ++ "\r\n"
    let kind := (p.contentType.map fun t => "Content-Type: " ++ t ++ "\r\n").getD ""
    let content := match p.content with
      | .none => ByteArray.empty
      | .text s => s.toUTF8
      | .data b => b
    ("--" ++ boundary ++ "\r\n" ++ disposition ++ kind ++ "\r\n").toUTF8 ++ content ++ "\r\n".toUTF8
  parts.foldl (fun acc p => acc ++ part p) ByteArray.empty ++ ("--" ++ boundary ++ "--\r\n").toUTF8

/-- Sets a header, replacing a header of the same name. -/
def setHeader (hs : List (String × String)) (name value : String) : List (String × String) :=
  let name := name.toLower
  (hs.filter (·.1 != name)) ++ [(name, value)]

/-- The request a call sends. -/
def Call.toRequest (c : Call) : Request :=
  let hs := match c.auth with
    | some a => [("authorization", "Bearer " ++ a)]
    | none => []
  let hs := c.headers.foldl (fun hs (n, v) => setHeader hs n v) hs
  let typed (t : String) (hs : List (String × String)) :=
    if (hs.lookup "content-type").isSome then hs else setHeader hs "content-type" t
  let (hs, body) := match c.payload with
    | .none => (hs, ByteArray.empty)
    | .json v => (typed "application/json" hs, v.canonical.write.toUTF8)
    | .form parts => (typed ("multipart/form-data; boundary=" ++ boundary) hs, formBody parts)
    | .text s => (hs, s.toUTF8)
    | .bytes b => (hs, b)
  { method := c.method, target := percentEncodePath c.path, headers := hs, body }

mutual

/-- A JSON value with the references in its strings and keys resolved. -/
def substituteValue (l : Labels) : Value → Value
  | .str s => .str (l.substitute s)
  | .arr items => .arr (substituteItems l items)
  | .obj members => .obj (substituteMembers l members)
  | v => v

/-- `substituteValue` on each item. -/
def substituteItems (l : Labels) : List Value → List Value
  | [] => []
  | v :: rest => substituteValue l v :: substituteItems l rest

/-- `substituteValue` on each member, its key resolved too. -/
def substituteMembers (l : Labels) : List (String × Value) → List (String × Value)
  | [] => []
  | (k, v) :: rest => (l.substitute k, substituteValue l v) :: substituteMembers l rest

end

/-- A form part with the references in its name and text resolved. -/
def FormPart.resolve (l : Labels) (p : FormPart) : FormPart :=
  { p with
    name := p.name.map l.substitute
    content := match p.content with
      | .text s => .text (l.substitute s)
      | c => c }

/-- A call with the references in its path, header values, token and body resolved. -/
def Call.resolve (l : Labels) (c : Call) : Call :=
  { c with
    path := l.substitute c.path
    headers := c.headers.map fun (n, v) => (n, l.substitute v)
    auth := c.auth.map l.substitute
    payload := match c.payload with
      | .json v => .json (substituteValue l v)
      | .form parts => .form (parts.map (FormPart.resolve l))
      | .text s => .text (l.substitute s)
      | p => p }

/-- A step with its references resolved. -/
def Step.resolve (l : Labels) : Step → Step
  | .http c => .http (c.resolve l)
  | .token secret alg claims e i => .token secret alg (substituteValue l claims) e i
  | .storageContains key => .storageContains (l.substitute key)
  | .filesForProduct id => .filesForProduct (l.substitute id)
  | .deleteUser id => .deleteUser (l.substitute id)
  | .ensureAdmin email password => .ensureAdmin (l.substitute email) password
  | .uploadImage f => .uploadImage { f with productId := f.productId.map l.substitute }
  | s => s

/-- A failure as an answer: its kind, texts and status. -/
def errorJson (e : Error) : Value :=
  .obj [("error", .str e.kind), ("message", .str e.message), ("status", .num (.nat e.status)),
    ("public_message", .str e.publicMessage)]

/-- The answer to a step a driver cannot take. -/
def badInput (msg : String) : Value :=
  .obj [("error", .str "bad_input"), ("message", .str msg)]

/-- The lowercase hexadecimal digits of some bytes. -/
def hexOf (b : ByteArray) : String :=
  String.ofList (b.toList.flatMap fun x => [hexDigit (x.toNat / 16), hexDigit (x.toNat % 16)])

/-- A response as an answer: status, content type, content disposition when given, and the
body as JSON, text or hexadecimal digits, or a mark that it could not be read. -/
def responseJson (r : Response) : Value :=
  let head : List (String × Value) :=
    [("status", .num (.nat r.status)),
     ("content_type", match r.contentType with | some t => .str t | none => .null)] ++
    (match r.contentDisposition with | some d => [("content_disposition", .str d)] | none => [])
  let body : List (String × Value) := match r.body with
    | .failing => [("body_error", .bool true)]
    | .bytes b =>
      let asText := match String.fromUTF8? b with
        | some s => ("text", Value.str s)
        | none => ("hex", .str (hexOf b))
      if r.contentType = some "application/json" then
        match parse b with
        | .ok v => [("json", v)]
        | .error _ => [asText]
      else [asText]
  .obj (head ++ body)

/-- The answer of a service: `ok` with its value, or the failure. -/
def serviceJson {α : Type} (r : Except Error α) (ok : α → Value) : Value :=
  match r with
  | .ok a => ok a
  | .error e => errorJson e

/-- A bucket call as an answer. -/
def callJson : Bucket.Call → Value
  | .upload key contentType size =>
    .obj [("upload", .obj [("key", .str key), ("content_type", .str contentType),
      ("size", .num (.nat size))])]
  | .delete key => .obj [("delete", .obj [("key", .str key)])]

/-- Runs a service on the world's shop. -/
def World.serve {α : Type} (w : World) (s : Service α) : Except Error α × World :=
  let (r, shop) := s.run.run w.shop
  (r, { w with shop })

/-- Runs a step with its references resolved, answering before masking. -/
def World.take (w : World) : Step → Value × World
  | .http c =>
    let (r, w) := w.serve (respond c.toRequest)
    match r with
    | .ok resp => (responseJson resp, w)
    | .error e => (responseJson (Response.ofError e), w)
  | .token secret alg claims e i =>
    let nowSeconds := (instantAt w.shop.clock).seconds
    let stamp (o : Int) : Value :=
      let t := nowSeconds + o
      .num (if t ≥ 0 then .nat t.toNat else .neg t)
    let set (k : String) (o : Option Int) (v : Value) : Value :=
      match o, v with
      | some o, .obj ms => .obj (ms ++ [(k, stamp o)])
      | _, v => v
    let claims := set "iat" i (set "exp" e claims.canonical)
    let token := Access.signJson alg secret (Access.headerJson alg) claims.canonical
    let (n, tokens) := labelOf w.labels.tokens token
    (.obj [("token", .str ("@" ++ toString n))], { w with labels := { w.labels with tokens } })
  | .storageCalls =>
    match w.shop.bucket with
    | .memory m => (.arr (m.calls.map callJson), w)
    | .disk _ => (badInput "memory storage only", w)
  | .storageContains key =>
    match w.shop.bucket with
    | .memory m => (.bool (m.contains key), w)
    | .disk _ => (badInput "memory storage only", w)
  | .storageFail uploads deletes =>
    match w.shop.bucket with
    | .memory m =>
      let m := { m with refuseUploads := uploads.getD m.refuseUploads,
                        refuseDeletes := deletes.getD m.refuseDeletes }
      (.str "ok", { w with shop := { w.shop with bucket := .memory m } })
    | .disk _ => (badInput "memory storage only", w)
  | .storageStall ms =>
    match w.shop.bucket with
    | .memory m =>
      (.str "ok", { w with shop := { w.shop with bucket := .memory { m with stall := ms } } })
    | .disk _ => (badInput "memory storage only", w)
  | .bucketFiles =>
    match w.shop.bucket with
    | .disk d =>
      (.arr (d.listing.map fun (p, n) => .obj [("path", .str p), ("size", .num (.nat n))]), w)
    | .memory _ => (badInput "local storage only", w)
  | .stagedFiles => (.num (.nat w.shop.staging.names.length), w)
  | .filesForProduct id => (.arr ((w.shop.tables.filesOf id).map Media.FileRecord.toJson), w)
  | .deleteUser id =>
    let (t, n) := w.shop.tables.removeUser id
    (.obj [("rows_affected", .num (.nat n))], { w with shop := { w.shop with tables := t } })
  | .ensureAdmin email password =>
    let (r, w) := w.serve (Shop.ensureAdmin email password)
    (serviceJson r fun _ => .str "ok", w)
  | .uploadImage form =>
    let (r, w) := w.serve (uploadImage form)
    (serviceJson r fun url => .obj [("ok", .str url)], w)

/-- Takes a step: resolves its references, runs it and masks its answer. -/
def World.step (w : World) (s : Step) : Value × World :=
  let (v, w) := w.take (s.resolve w.labels)
  let (v, labels) := mask v w.labels
  (v, { w with labels })

/-- The shop a setup starts, or the text of why it cannot start. -/
def Setup.start (s : Setup) : Except String Shop.State := do
  let ttl ← (Config.lifetimeSeconds s.tokenTtlHours).mapError ConfigError.message
  let bucket : Bucket.Store := match s.storage with
    | .memory => .memory (Bucket.Memory.empty s.bucketUrl)
    | .disk => .disk (Bucket.Disk.empty s.diskRoot s.publicUrl)
  let settings : Settings :=
    { secret := s.secret, pepper := s.pepper, tokenTtlSeconds := ttl,
      uploadTimeoutMs := s.uploadTimeoutMs }
  let shop : Shop.State := { bucket := bucket, settings := settings }
  match s.admin with
  | none => pure shop
  | some (email, password) =>
    match (Shop.ensureAdmin email password).run.run shop with
    | (.ok (), shop) => pure shop
    | (.error e, _) => throw e.message

/-- The answers of a session: one per step, or the failure to set it up. -/
def run (setup : Setup) (steps : List Step) : Value :=
  match setup.start with
  | .error msg => .obj [("error", .str "panic"), ("message", .str msg)]
  | .ok shop =>
    let (answers, _) := steps.foldl (fun (acc : List Value × World) s =>
      let (v, w) := acc.2.step s
      (acc.1 ++ [v], w)) ([], { shop })
    .obj [("steps", .arr answers)]

end Storefront.Session
