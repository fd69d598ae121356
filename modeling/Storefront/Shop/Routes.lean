import Storefront.Shop.Accounts
import Storefront.Shop.Upload
import Storefront.Access.Bearer
import Storefront.Http.Message
import Storefront.Http.Percent
import Storefront.Http.Form
import Storefront.Json.Record
import Storefront.Media.Extension

/-
  The shop's HTTP interface: which paths it answers, who may call them, and how requests and
  answers are written.

  Paths are matched exactly, letter case included, and the query is ignored.  A path that
  names nothing gets a bare 404.  A path that names something, called with a method it does
  not answer, gets a bare 405; but when the path has an endpoint for signed-in users or for
  administrators, the caller is checked first, as for that endpoint.  A `HEAD` request is
  answered as a `GET` without the body.

  Request bodies are JSON, except for the image upload, which is a multipart form.  A JSON body
  must say it is JSON, be at most 2 MiB, and have the fields the endpoint reads; the records
  that create something must also keep their rules.
-/

namespace Storefront.Shop

open Storefront.Http Storefront.Json Storefront.Account Storefront.Catalog

/-- A path the shop answers. -/
inductive Route where
  | signUp
  | signIn
  | profile
  | products
  | product (id : String)
  | categories
  | category (id : String)
  | upload
  /-- A stored object, by its key. -/
  | object (key : String)
  deriving DecidableEq, Repr

/-- Who may call an endpoint. -/
inductive Guard where
  | everyone
  | signedIn
  | admin
  deriving DecidableEq, Repr

/-- What a request asks for, once its route and method are known. -/
inductive Action where
  | signUp
  | signIn
  | profile
  | listProducts
  | showProduct (id : String)
  | createProduct
  | updateProduct (id : String)
  | deleteProduct (id : String)
  | listCategories
  | showCategory (id : String)
  | createCategory
  | updateCategory (id : String)
  | deleteCategory (id : String)
  | upload
  | serveObject (key : String)
  deriving DecidableEq, Repr

/-- The route of a path: its `/`-separated segments, as written (still percent-encoded). -/
def Route.ofSegments : List String → Option Route
  | ["", "auth", "sign-up"] => some .signUp
  | ["", "auth", "sign-in"] => some .signIn
  | ["", "auth", "get-me"] => some .profile
  | ["", "api", "products"] => some .products
  | ["", "api", "categories"] => some .categories
  | ["", "api", "file", "upload"] => some .upload
  | ["", "api", "products", id] => if id = "" then none else some (.product id)
  | ["", "api", "categories", id] => if id = "" then none else some (.category id)
  | "" :: "uploads" :: first :: rest =>
    if first = "" && rest.isEmpty then none else some (.object ("/".intercalate (first :: rest)))
  | _ => none

/-- The route of a path. -/
def Route.ofPath (path : String) : Option Route :=
  Route.ofSegments ((Text.splitChars '/' path.toList).map String.ofList)

example : Route.ofPath "/api/products/a%20b" = some (.product "a%20b") := by decide
example : Route.ofPath "/api/products/" = none := by decide
example : Route.ofPath "/uploads/images/a.png" = some (.object "images/a.png") := by decide

/-- Who is checked before a method the route does not answer is refused. -/
def Route.fallbackGuard : Route → Guard
  | .signUp | .signIn | .object _ => .everyone
  | .profile => .signedIn
  | _ => .admin

/-- The guard and action of a method on a route, if the route answers it.  `HEAD` is asked as
`GET`. -/
def Route.endpoint (r : Route) (method : String) : Option (Guard × Action) :=
  let method := if method = "HEAD" then "GET" else method
  match r, method with
  | .signUp, "POST" => some (.everyone, .signUp)
  | .signIn, "POST" => some (.everyone, .signIn)
  | .profile, "GET" => some (.signedIn, .profile)
  | .products, "GET" => some (.everyone, .listProducts)
  | .products, "POST" => some (.admin, .createProduct)
  | .product id, "GET" => some (.everyone, .showProduct id)
  | .product id, "PUT" => some (.admin, .updateProduct id)
  | .product id, "DELETE" => some (.admin, .deleteProduct id)
  | .categories, "GET" => some (.everyone, .listCategories)
  | .categories, "POST" => some (.admin, .createCategory)
  | .category id, "GET" => some (.everyone, .showCategory id)
  | .category id, "PUT" => some (.admin, .updateCategory id)
  | .category id, "DELETE" => some (.admin, .deleteCategory id)
  | .upload, "POST" => some (.admin, .upload)
  | .object key, "GET" => some (.everyone, .serveObject key)
  | _, _ => none

/-- Checks the caller against a guard, answering the signed-in user when the guard asks for
one. -/
def authorize (g : Guard) (req : Request) : Service (Option User) := do
  if g = .everyone then return none
  let header := (req.header "authorization").map fun v => (visibleText v).getD ""
  let user ← whoIs (← ofExcept (Access.bearerToken header))
  require (g = .signedIn || user.role = .admin) (.unauthorized "you don't have admin role")
  return some user

/-- The largest JSON body, in bytes. -/
def maxJsonBody : Nat := 2 * Nat.pow 2 20

/-- The largest multipart body, in bytes: the largest file and room for the rest. -/
def maxFormBody : Nat := maxUploadSize + 64 * 1024

/-- The media type a request says its body has. -/
def bodyType (req : Request) : Option MediaType :=
  ((req.header "content-type").bind visibleText).bind MediaType.parse

/-- The fields of a JSON body of a shape, held to the record's rules.  The body must say it
is JSON and be at most `maxJsonBody` bytes; what follows the record is not looked at. -/
def readChecked (req : Request) (shape : Shape) (rules : Validation.Rules) :
    Except Error (List Entry) := do
  unless (bodyType req).any MediaType.isJson do
    throw (.invalidRequest "Expected request with `Content-Type: application/json`")
  if req.body.size > maxJsonBody then
    throw (.invalidRequest "Failed to buffer the request body: length limit exceeded")
  match Validation.checkText shape rules req.body with
  | .ok e => pure e
  | .error (.broken vs) => throw (.invalidRequest (Validation.report vs))
  | .error (.malformed f) =>
    let lead := if f.isMismatch then "Failed to deserialize the JSON body into the target type"
      else "Failed to parse the request body as JSON"
    throw (.invalidRequest (lead ++ ": " ++ f.message req.body))

/-- The fields of a JSON body of a shape that has no rules. -/
def readJson (req : Request) (shape : Shape) : Except Error (List Entry) :=
  readChecked req shape Validation.noRules

/-- An answer of a status and a JSON object with one member. -/
def answer (status : Nat) (key : String) (v : Value) : Response :=
  Response.json status (.obj [(key, v)])

/-- The answer to a change or removal that went through. -/
def statusOk : Response := answer 200 "status" (.str "ok")

/-- The boundary of a multipart request. -/
def formBoundary (req : Request) : Option String :=
  (bodyType req).bind fun m =>
    if m.type = "multipart" && m.base = "form-data" then m.param "boundary" else none

/-- The upload form of the parts of a multipart body: the last `productId` and the last `file`
part count, other parts are ignored. -/
def UploadForm.ofParts (parts : List Part) : UploadForm :=
  parts.foldl (fun form p =>
    match p.name with
    | some "productId" => { form with productId := some p.text }
    | some "file" => { form with fileName := p.fileName, data := some p.data }
    | _ => form) {}

/-- Whether a key asks for a folder: it ends with `/` or `/.`. -/
def asksForFolder (key : String) : Bool :=
  match (Text.splitChars '/' key.toList).getLast? with
  | some [] | some ['.'] => true
  | _ => false

/-- Serves a stored object, with the content type its name suggests.  The file is the one the
key names below the bucket's root; the system refuses its path first, then what lies at it. -/
def serveObject (key : String) : Service Response := do
  let notFound : Error := .notFound s!"object {key} not found"
  if !Bucket.isSafeKey key then throw notFound
  match (← get).bucket with
  | .memory _ =>
    -- objects kept in memory are not on disk, where the route finds no file of any key
    if Bucket.hasNul key then throw (Error.ofIo Bucket.nulInPath)
    throw notFound
  | .disk d =>
    if let some text := Bucket.pathFault (Bucket.joinPath d.root key) then
      throw (Error.ofIo text)
    let path := Bucket.keyPath key
    let kind := ((path.getLast?.bind Media.guessType).getD "application/octet-stream")
    let found (body : Body) : Response :=
      { status := 200, contentType := some kind, contentDisposition := some "inline", body }
    match d.node path with
    | .file data =>
      if asksForFolder key then throw (Error.ofIo Bucket.notAFolder)
      else pure (found (.bytes data))
    | .folder => pure (found .failing)
    | .blocked => throw (Error.ofIo Bucket.notAFolder)
    | .overlong => throw (Error.ofIo Bucket.nameTooLong)
    | .missing => throw notFound

/-- A path parameter, percent-decoded. -/
def pathParam (name raw : String) : Except Response String :=
  match percentDecode raw with
  | some s => .ok s
  | none => .error (Response.text 400 s!"Invalid URL: Invalid UTF-8 in `{name}`")

/-- Carries out an action for a caller. -/
def perform (req : Request) (caller : Option User) : Action → Service Response
  | .signUp => do
    let e ← ofExcept (readChecked req SignUp.shape SignUp.rules)
    pure (answer 201 "id" (.str (← signUp (SignUp.ofEntries e))))
  | .signIn => do
    let e ← ofExcept (readChecked req SignIn.shape SignIn.rules)
    pure (answer 200 "access_token" (.str (← signIn (SignIn.ofEntries e))))
  | .profile => do
    let user ← orFail caller invalidToken
    pure (answer 200 "data" user.toJson)
  | .listProducts => do pure (answer 200 "data" (.arr ((← products).map Product.toJson)))
  | .showProduct id => do pure (answer 200 "data" (← product id).toJson)
  | .createProduct => do
    let e ← ofExcept (readChecked req ProductDraft.shape ProductDraft.rules)
    pure (answer 201 "id" (.str (← createProduct (ProductDraft.ofEntries e))))
  | .updateProduct id => do
    let e ← ofExcept (readJson req ProductPatch.shape)
    updateProduct id (ProductPatch.ofEntries e)
    pure statusOk
  | .deleteProduct id => do deleteProduct id; pure statusOk
  | .listCategories => do pure (answer 200 "data" (.arr ((← categories).map Category.toJson)))
  | .showCategory id => do pure (answer 200 "data" (← category id).toJson)
  | .createCategory => do
    let e ← ofExcept (readChecked req Category.draftShape Category.draftRules)
    pure (answer 201 "id" (.str (← createCategory (Category.draftName e))))
  | .updateCategory id => do
    let e ← ofExcept (readJson req CategoryPatch.shape)
    updateCategory id (CategoryPatch.ofEntries e)
    pure statusOk
  | .deleteCategory id => do deleteCategory id; pure statusOk
  | .upload => do
    match formBoundary req with
    | none => pure (Response.text 400 "Invalid `boundary` for `multipart/form-data` request")
    | some boundary =>
      if req.body.size > maxFormBody then throw (.payloadTooLarge maxUploadSize)
      match readForm req.body boundary with
      | .error e => throw (.invalidRequest e.message)
      | .ok parts => pure (answer 200 "image_url" (.str (← uploadImage (UploadForm.ofParts parts))))
  | .serveObject key => serveObject key

/-- The path parameter an action reads, by name, to be decoded before the action runs. -/
def Action.param : Action → Option (String × String × (String → Action))
  | .showProduct id => some ("id", id, .showProduct)
  | .updateProduct id => some ("id", id, .updateProduct)
  | .deleteProduct id => some ("id", id, .deleteProduct)
  | .showCategory id => some ("id", id, .showCategory)
  | .updateCategory id => some ("id", id, .updateCategory)
  | .deleteCategory id => some ("id", id, .deleteCategory)
  | .serveObject key => some ("key", key, .serveObject)
  | _ => none

/-- Runs a service, turning its failure into the answer for it. -/
def answering (s : Service Response) : Service Response :=
  tryCatch s fun e => pure (Response.ofError e)

/-- Answers a request. -/
def respond (req : Request) : Service Response :=
  match Route.ofPath req.path with
  | none => pure (Response.bare 404)
  | some route =>
    let strip (r : Response) : Response := if req.method = "HEAD" then r.headOnly else r
    Functor.map strip <| answering <|
      match route.endpoint req.method with
      | none => do
        let _ ← authorize route.fallbackGuard req
        pure (Response.bare 405)
      | some (guard, action) => do
        let caller ← authorize guard req
        match action.param with
        | none => perform req caller action
        | some (name, raw, rebuild) =>
          match pathParam name raw with
          | .ok v => perform req caller (rebuild v)
          | .error r => pure r

end Storefront.Shop
