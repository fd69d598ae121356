/-
  Media types as written in a `Content-Type` header.

  A media type is `type/subtype` followed by parameters `; name=value`, where type, subtype,
  names and unquoted values are tokens and a quoted value may hold any visible character but
  `"`.  The reading is strict: no blank before a `;`, a blank after a `;` only, and nothing
  after a quoted value but blanks before the next `;`.  Type, subtype and parameter names are
  compared without regard to case; the suffix is what follows the last `+` of the subtype, and
  the base subtype what precedes it.
-/

namespace Storefront.Http

/-- A parsed media type. -/
structure MediaType where
  /-- The type, lowercase. -/
  type : String
  /-- The subtype, lowercase. -/
  subtype : String
  /-- The parameters: names lowercase, values as written, quotes removed. -/
  params : List (String × String)
  deriving DecidableEq, Repr

/-- Whether a character is a token character. -/
def isTokenChar (c : Char) : Bool :=
  c.isAlphanum || "!#$%&'*+-.^_`|~".toList.contains c

/-- Whether a character may stand inside a quoted value. -/
def isQuotedChar (c : Char) : Bool :=
  31 < c.toNat && c.toNat ≠ 127

/-- The lowercase form of an ASCII text. -/
def lower (cs : List Char) : String :=
  String.ofList (cs.map Char.toLower)

/-- A quoted value up to its closing quote, and the rest after the quote.  The first character
is always part of the value, even a `"`, so a value is never empty. -/
def quotedValue (cs : List Char) : Option (List Char × List Char) :=
  match cs with
  | c :: rest =>
    let body := rest.takeWhile (· ≠ '"')
    match rest.drop body.length with
    | '"' :: after => if (c :: body).all isQuotedChar then some (c :: body, after) else none
    | _ => none
  | [] => none

/-- Blanks after a quoted value up to the next `;` (the rest after it) or the end. -/
def afterQuoted (cs : List Char) : Option (Option (List Char)) :=
  let rest := cs.dropWhile (· = ' ')
  match rest with
  | [] => some none
  | ';' :: more => some (some more)
  | _ => none

/-- The parameters from the text after a `;`. -/
def readParams (cs : List Char) (acc : List (String × String)) (fuel : Nat) :
    Option (List (String × String)) :=
  match fuel with
  | 0 => none
  | fuel + 1 =>
    match cs with
    | [] => some acc
    | ' ' :: rest => readParams rest acc fuel
    | _ =>
      let name := cs.takeWhile isTokenChar
      match cs.drop name.length with
      | '=' :: rest =>
        if name.isEmpty then none
        else
          match rest with
          | '"' :: quoted =>
            match quotedValue quoted with
            | some (value, after) =>
              match afterQuoted after with
              | some none => some (acc ++ [(lower name, String.ofList value)])
              | some (some more) => readParams more (acc ++ [(lower name, String.ofList value)]) fuel
              | none => none
            | none => none
          | _ =>
            let value := rest.takeWhile isTokenChar
            match rest.drop value.length with
            | [] => some (acc ++ [(lower name, String.ofList value)])
            | ';' :: more =>
              if value.isEmpty then none
              else readParams more (acc ++ [(lower name, String.ofList value)]) fuel
            | _ => none
      | _ => none

/-- The media type a header value states, if it is well formed. -/
def MediaType.parse (s : String) : Option MediaType :=
  let cs := s.toList
  let type := cs.takeWhile isTokenChar
  match cs.drop type.length with
  | '/' :: rest =>
    if type.isEmpty then none
    else
      let subtype := rest.takeWhile isTokenChar
      match rest.drop subtype.length with
      | [] => some ⟨lower type, lower subtype, []⟩
      | ';' :: more =>
        if subtype.isEmpty then none
        else (readParams more [] (more.length + 1)).map fun ps => ⟨lower type, lower subtype, ps⟩
      | _ => none
  | _ => none

namespace MediaType

/-- Where the suffix of the subtype starts: the position of its last `+`, unless that is the
subtype's first character. -/
def plusAt (m : MediaType) : Option Nat :=
  let cs := m.subtype.toList
  match cs.reverse.idxOf? '+' with
  | some j => if j + 1 < cs.length then some (cs.length - 1 - j) else none
  | none => none

/-- What follows the suffix mark of the subtype, if it has one. -/
def suffix (m : MediaType) : Option String :=
  m.plusAt.map fun i => String.ofList (m.subtype.toList.drop (i + 1))

/-- The subtype without its suffix: `vnd.api` for `vnd.api+json`. -/
def base (m : MediaType) : String :=
  match m.plusAt with
  | some i => String.ofList (m.subtype.toList.take i)
  | none => m.subtype

/-- The first parameter of a name. -/
def param (m : MediaType) (name : String) : Option String :=
  m.params.lookup name

/-- Whether the type is JSON: `application/json`, or an application type whose suffix is
`json`.  The subtype is compared without its suffix, so `application/json+xml` counts too. -/
def isJson (m : MediaType) : Bool :=
  m.type == "application" && (m.base == "json" || m.suffix == some "json")

end MediaType

example : (MediaType.parse "application/vnd.api+json").map MediaType.isJson = some true := by
  decide +kernel
example : (MediaType.parse "multipart/form-data; boundary=XBOUNDARY").bind (·.param "boundary") =
    some "XBOUNDARY" := by decide +kernel
example : (MediaType.parse "application/json+xml").map MediaType.isJson = some true := by
  decide +kernel
example : (MediaType.parse "application/+json").map MediaType.isJson = some false := by
  decide +kernel

end Storefront.Http
