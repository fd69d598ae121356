import Storefront.Http.MediaType
import Storefront.Text.Utf8
import Storefront.Text.Literal
import Storefront.Text.Encoding.Decode

/-
  Multipart form bodies (`multipart/form-data`).

  A body is a preamble, then parts, each introduced by a line `--boundary`, and a closing
  `--boundary--`.  After a boundary come optional blanks, a line break, the part's header
  lines up to an empty line, and the part's data up to the line break before the next
  boundary.  A part's name and file name come from the parameters `name` and `filename` of its
  `Content-Disposition` header, each quoted or a bare token; when a header is repeated, its last
  line counts.

  Reading fails at the first thing that does not fit, with one of the errors below.
-/

namespace Storefront.Http

/-- Why a multipart body cannot be read. -/
inductive FormError where
  /-- The body ends before a boundary, or a boundary is not followed as it should be. -/
  | incompleteStream
  /-- A part's data has no closing boundary. -/
  | incompleteData (name : Option String)
  /-- A part's header lines are malformed. -/
  | badHeaders
  deriving DecidableEq, Repr

/-- The text of a form error. -/
def FormError.message : FormError → String
  | .incompleteStream => "incomplete multipart stream"
  | .incompleteData name =>
    "field " ++ Text.literal (name.getD "<unknown>") ++ " received with incomplete data"
  | .badHeaders => "failed to read headers"

/-- One part of a form. -/
structure Part where
  name : Option String
  fileName : Option String
  contentType : Option MediaType
  data : ByteArray

/-- Whether the `n` bytes of `needle` from offset `k` on stand in `hay` from `start + k` on. -/
def matchesFrom (hay needle : ByteArray) (start k : Nat) : Nat → Bool
  | 0 => true
  | n + 1 => hay.get! (start + k) == needle.get! k && matchesFrom hay needle start (k + 1) n

/-- The first offset at or after `start` where `needle` stands in `hay`. -/
def findBytes (hay needle : ByteArray) (start : Nat) : Option Nat :=
  if hn : needle.size = 0 then some start
  else if h : start + needle.size ≤ hay.size then
    if matchesFrom hay needle start 0 needle.size then some start
    else findBytes hay needle (start + 1)
  else none
termination_by hay.size - start
decreasing_by omega

/-- Whether a byte is a token character. -/
def isTokenByte (b : UInt8) : Bool :=
  b.toNat < 128 && isTokenChar (Char.ofNat b.toNat)

/-- Whether a byte may stand in a header value. -/
def isValueByte (b : UInt8) : Bool :=
  b == 9 || (32 ≤ b.toNat && b != 127)

/-- The header lines of a block ending in an empty line: lowercase names and raw values,
blanks around a value removed. -/
def readHeaderLines (bs : List UInt8) (acc : List (String × List UInt8)) (fuel : Nat) :
    Except FormError (List (String × List UInt8)) :=
  match fuel with
  | 0 => .error .badHeaders
  | fuel + 1 =>
    match bs with
    | 13 :: 10 :: _ | 10 :: _ => .ok acc
    | _ =>
      let name := bs.takeWhile isTokenByte
      match bs.drop name.length with
      | 58 :: rest =>
        if name.isEmpty || acc.length ≥ 32 then .error .badHeaders
        else
          let rest := rest.dropWhile fun b => b == 32 || b == 9
          let value := rest.takeWhile isValueByte
          let after := rest.drop value.length
          let value := (value.reverse.dropWhile fun b => b == 32 || b == 9).reverse
          let entry := (String.ofList (name.map fun b => (Char.ofNat b.toNat).toLower), value)
          match after with
          | 13 :: 10 :: more | 10 :: more => readHeaderLines more (acc ++ [entry]) fuel
          | _ => .error .badHeaders
      | _ => .error .badHeaders

/-- Whether a byte is a blank: space or tab. -/
def isBlankByte (b : UInt8) : Bool :=
  b == 32 || b == 9

/-- A quoted value after its opening quote: the bytes up to the first `"` that does not follow
a backslash (backslashes are kept), and the bytes after that quote; nothing when no quote
closes it. -/
def dispositionQuoted : List UInt8 → Option (List UInt8 × List UInt8)
  | [] => none
  | 34 :: rest => some ([], rest)
  | 92 :: 34 :: rest => (dispositionQuoted rest).map fun (v, r) => (92 :: 34 :: v, r)
  | b :: rest => (dispositionQuoted rest).map fun (v, r) => (b :: v, r)

/-- The parameters of a `Content-Disposition` value, after its type: each `key=value` that
follows a `;`, with blanks allowed before the key and around the `=`.  A value is a quoted
string or a token that ends at a blank or `;`.  A parameter without `=` has no value, and
neither has one whose quote is never closed; nothing after such a quote is read. -/
def dispositionParams (bs : List UInt8) : Nat → List (List UInt8 × Option (List UInt8))
  | 0 => []
  | fuel + 1 =>
    match bs.dropWhile (· != 59) with
    | [] => []
    | _ :: rest =>
      let rest := rest.dropWhile isBlankByte
      let key := rest.takeWhile fun b => b != 61 && b != 59 && !isBlankByte b
      match (rest.drop key.length).dropWhile isBlankByte with
      | 61 :: v =>
        match v.dropWhile isBlankByte with
        | 34 :: q =>
          match dispositionQuoted q with
          | some (value, more) => (key, some value) :: dispositionParams more fuel
          | none => [(key, none)]
        | v =>
          let value := v.takeWhile fun b => b != 59 && !isBlankByte b
          (key, some value) :: dispositionParams (v.drop value.length) fuel
      | more => (key, none) :: dispositionParams more fuel

/-- The value of the first parameter named `key` (compared exactly) of a
`Content-Disposition` value. -/
def dispositionParam (value : List UInt8) (key : String) : Option (List UInt8) :=
  ((dispositionParams value (value.length + 1)).find? fun p => p.1 == key.toUTF8.toList).bind
    Prod.snd

/-- A UTF-8 text of some bytes. -/
def textOf (bs : List UInt8) : Option String :=
  String.fromUTF8? (ByteArray.mk bs.toArray)

/-- A part from its header lines and data. -/
def Part.ofHeaders (headers : List (String × List UInt8)) (data : ByteArray) : Part :=
  let last (name : String) : Option (List UInt8) :=
    ((headers.filter fun h => h.1 == name).getLast?).map Prod.snd
  let disposition := last "content-disposition"
  let contentType := (last "content-type").bind fun v =>
    if v.all fun b => b == 9 || (32 ≤ b.toNat && b.toNat < 127) then
      (textOf v).bind MediaType.parse
    else none
  { name := (disposition.bind fun v => dispositionParam v "name").bind textOf
    fileName := (disposition.bind fun v => dispositionParam v "filename").bind textOf
    contentType, data }

/-- The parts from a boundary at `pos` on. -/
def readParts (b : ByteArray) (boundary : String) (pos : Nat) (acc : List Part) (fuel : Nat) :
    Except FormError (List Part) :=
  match fuel with
  | 0 => .error .incompleteStream
  | fuel + 1 =>
    let dash := ("--" ++ boundary).toUTF8
    let p := pos + dash.size
    if b.size < p || b.extract pos p != dash || b.size < p + 2 then .error .incompleteStream
    else if b.get! p == 45 && b.get! (p + 1) == 45 then .ok acc
    else
      let q := ((List.range (b.size - p)).find? fun k =>
        let x := b.get! (p + k); x != 32 && x != 9).map (p + ·)
      match q with
      | none => .error .incompleteStream
      | some q =>
        if b.size < q + 2 || b.get! q != 13 || b.get! (q + 1) != 10 then .error .incompleteStream
        else
          match findBytes b "\r\n\r\n".toUTF8 (q + 2) with
          | none => .error .incompleteStream
          | some e =>
            match readHeaderLines (b.extract (q + 2) (e + 4)).toList [] (e + 4) with
            | .error err => .error err
            | .ok headers =>
              let part := Part.ofHeaders headers ByteArray.empty
              match findBytes b ("\r\n--" ++ boundary).toUTF8 (e + 4) with
              | none => .error (.incompleteData part.name)
              | some d =>
                readParts b boundary (d + 2) (acc ++ [{ part with data := b.extract (e + 4) d }])
                  fuel

/-- The parts of a multipart body with a boundary. -/
def readForm (b : ByteArray) (boundary : String) : Except FormError (List Part) :=
  match findBytes b ("--" ++ boundary).toUTF8 0 with
  | none => .error .incompleteStream
  | some start => readParts b boundary start [] (b.size + 1)

/-- The text of a part: its bytes decoded in the charset its content type names (UTF-8 when
it names none or an unknown one), with replacements. -/
def Part.text (p : Part) : String :=
  Text.Encoding.decodeLabelled ((p.contentType.bind (·.param "charset")).getD "utf-8") p.data

end Storefront.Http
