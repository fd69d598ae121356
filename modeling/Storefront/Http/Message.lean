import Storefront.Error
import Storefront.Json.Value

/-
  HTTP requests and responses, as the shop sees them.

  A request has a method, a target (path and query), headers and a body.  Header names are
  kept in lowercase and each name has one value.  A response has a status, an optional
  content type and content disposition, and a body that is either bytes or a stream that
  fails while it is read.
-/

namespace Storefront.Http

open Storefront.Json

/-- A request. -/
structure Request where
  method : String
  target : String
  headers : List (String × String) := []
  body : ByteArray := ByteArray.empty

namespace Request

/-- The value of a header, by lowercase name. -/
def header (r : Request) (name : String) : Option String :=
  r.headers.lookup name

/-- The path of the target: up to a `?` or `#`. -/
def path (r : Request) : String :=
  String.ofList (r.target.toList.takeWhile fun c => c ≠ '?' && c ≠ '#')

end Request

/-- A header value as text, if it holds only visible ASCII characters and tabs. -/
def visibleText (s : String) : Option String :=
  if s.toList.all fun c => c = '\t' || (32 ≤ c.toNat && c.toNat < 127) then some s else none

/-- The body of a response. -/
inductive Body where
  /-- Bytes that are sent in full. -/
  | bytes (data : ByteArray)
  /-- A stream that fails while it is read. -/
  | failing

/-- A response. -/
structure Response where
  status : Nat
  contentType : Option String := none
  contentDisposition : Option String := none
  body : Body := .bytes ByteArray.empty

namespace Response

/-- A response with a JSON body. -/
def json (status : Nat) (v : Value) : Response :=
  { status, contentType := some "application/json", body := .bytes v.write.toUTF8 }

/-- A response with a plain text body. -/
def text (status : Nat) (s : String) : Response :=
  { status, contentType := some "text/plain; charset=utf-8", body := .bytes s.toUTF8 }

/-- A response with nothing but a status. -/
def bare (status : Nat) : Response :=
  { status }

/-- The response for a failed request: its status and its public message. -/
def ofError (e : Error) : Response :=
  json e.status (.obj [("message", .str e.publicMessage)])

/-- The response without its body, as sent for a `HEAD` request. -/
def headOnly (r : Response) : Response :=
  { r with body := .bytes ByteArray.empty }

end Response

end Storefront.Http
