import Storefront.Json.Reader
import Storefront.Text.Literal

/-
  Reading a flat record (named fields of text or of 32-bit counts) out of JSON.

  A `Shape` lists a record's fields in order, each with its kind and whether it may be left
  out.  A record is read from an object, whose members may come in any order and whose unknown
  members are skipped, or from an array, whose items are the fields in order.  Reading from
  text (`Shape.readText`) goes through the bytes once and stops at the first problem, which it
  reports with its offset and with the path to the member or item it was found in; reading
  from a value already in memory (`Shape.readValue`) reports the same problems without a
  place.  Either gives the present fields as `(key, Datum)` pairs in field order.

  Problems with well-formed text are `Mismatch`es, worded as `invalid type: <found>, expected
  <wanted>` and the like; `Failure.message` adds the path in front and the position behind.
-/

namespace Storefront.Json

open Storefront.Number

/-- The kind of value a field holds. -/
inductive Kind where
  /-- A string. -/
  | text
  /-- A natural number below `2^32`. -/
  | count
  deriving DecidableEq, Repr

/-- Whether a field may be left out. -/
inductive Presence where
  /-- Present and not null. -/
  | required
  /-- May be left out, standing then for the empty string or zero; null is refused. -/
  | defaulted
  /-- May be left out or null. -/
  | optional
  deriving DecidableEq, Repr

/-- One field of a record. -/
structure Field where
  key : String
  kind : Kind
  presence : Presence
  deriving DecidableEq, Repr

/-- A record: its name, for messages, and its fields in order. -/
structure Shape where
  name : String
  fields : List Field
  deriving Repr

/-- A field's value. -/
inductive Datum where
  | text (s : String)
  | count (n : Nat)
  deriving DecidableEq, Repr

/-- The value a left-out defaulted field stands for. -/
def Kind.default : Kind → Datum
  | .text => .text ""
  | .count => .count 0

/-- What was found where something else was wanted. -/
inductive Unexpected where
  | null
  | bool (b : Bool)
  | unsigned (n : Nat)
  | signed (n : Int)
  | float (x : Binary64)
  | str (s : String)
  | seq
  | map
  deriving Repr

namespace Unexpected

/-- How a found value is described. -/
def describe : Unexpected → String
  | .null => "null"
  | .bool b => s!"boolean `{b}`"
  | .unsigned n => s!"integer `{n}`"
  | .signed n => s!"integer `{n}`"
  | .float x => "floating point `" ++ x.write ++ "`"
  | .str s => "string " ++ Text.literal s
  | .seq => "sequence"
  | .map => "map"

/-- A number as found. -/
def ofNumber : Number → Unexpected
  | .nat n => .unsigned n
  | .neg n => .signed n
  | .float x => .float x

/-- A value as found. -/
def ofValue : Value → Unexpected
  | .null => .null
  | .bool b => .bool b
  | .num n => ofNumber n
  | .str s => .str s
  | .arr _ => .seq
  | .obj _ => .map

end Unexpected

/-- What was wanted. -/
inductive Expected where
  | text
  | count
  | record (name : String)
  | recordItems (name : String) (n : Nat)
  | fewerItems
  deriving Repr

/-- How a wanted value is described. -/
def Expected.describe : Expected → String
  | .text => "a string"
  | .count => "u32"
  | .record name => "struct " ++ name
  | .recordItems name 1 => "struct " ++ name ++ " with 1 element"
  | .recordItems name n => "struct " ++ name ++ " with " ++ toString n ++ " elements"
  | .fewerItems => "fewer elements in array"

/-- Well-formed JSON of the wrong shape. -/
inductive Mismatch where
  | invalidType (found : Unexpected) (wanted : Expected)
  | invalidValue (found : Unexpected) (wanted : Expected)
  | invalidLength (n : Nat) (wanted : Expected)
  | missingField (key : String)
  | duplicateField (key : String)
  deriving Repr

/-- The message of a mismatch. -/
def Mismatch.message : Mismatch → String
  | .invalidType u e => "invalid type: " ++ u.describe ++ ", expected " ++ e.describe
  | .invalidValue u e => "invalid value: " ++ u.describe ++ ", expected " ++ e.describe
  | .invalidLength n e => "invalid length " ++ toString n ++ ", expected " ++ e.describe
  | .missingField k => "missing field `" ++ k ++ "`"
  | .duplicateField k => "duplicate field `" ++ k ++ "`"

/-- A defect of the text or a mismatch of its shape. -/
inductive Problem where
  | defect (s : Defect)
  | mismatch (m : Mismatch)
  deriving Repr

/-- The message of a problem, without place. -/
def Problem.message : Problem → String
  | .defect s => s.message
  | .mismatch m => m.message

/-- A problem, the byte offset it is reported at (none when read from a value), and the path
to where it was found. -/
structure Failure where
  problem : Problem
  offset : Option Nat
  path : List Step
  deriving Repr

namespace Failure

/-- Whether the problem is a mismatch of shape rather than a defect of the text. -/
def isMismatch (f : Failure) : Bool :=
  match f.problem with
  | .mismatch _ => true
  | .defect _ => false

/-- The full message: the path, the problem, and the position in `doc`. -/
def message (f : Failure) (doc : ByteArray) : String :=
  let pre := if f.path.isEmpty then "" else writePath f.path ++ ": "
  let post := match f.offset with
    | some i => (Position.ofOffset doc i).suffix
    | none => ""
  pre ++ f.problem.message ++ post

end Failure

/-- A present field. -/
abbrev Entry := String × Datum

namespace Reader

/-- A piece read from text, or the failure met. -/
abbrev Took (α : Type) := Except Failure (α × Nat)

/-- A defect, at `path`. -/
def syntaxFailure (path : List Step) (f : Fault) : Failure :=
  ⟨.defect f.defect, some f.offset, path⟩

/-- A mismatch reported at offset `i`, at `path`. -/
def mismatchAt (path : List Step) (m : Mismatch) (i : Nat) : Failure :=
  ⟨.mismatch m, some i, path⟩

/-- A read piece with its defects placed at `path`. -/
def atPath {α : Type} (path : List Step) (r : Read α) : Took α :=
  match r with
  | .ok x => .ok x
  | .error f => .error (syntaxFailure path f)

/-- The value at `i` (not a blank) is not what `wanted` asks: it is read as far as its
description needs, and the mismatch reported after it. -/
def wrongValue (b : ByteArray) (i : Nat) (wanted : Expected) (path : List Step) : Failure :=
  let found (r : Read Unexpected) : Failure :=
    match r with
    | .ok (u, j) => mismatchAt path (.invalidType u wanted) j
    | .error f => syntaxFailure path f
  match byteAt? b i with
  | some 0x6E => found ((expectIdent b (i + 1) [0x75, 0x6C, 0x6C]).map fun j => (.null, j))
  | some 0x74 => found ((expectIdent b (i + 1) [0x72, 0x75, 0x65]).map fun j => (.bool true, j))
  | some 0x66 =>
    found ((expectIdent b (i + 1) [0x61, 0x6C, 0x73, 0x65]).map fun j => (.bool false, j))
  | some 0x2D => found ((readNumber b false (i + 1)).map fun (n, j) => (.ofNumber n, j))
  | some 0x22 => found ((readString b (i + 1)).map fun (s, j) => (.str s, j))
  | some 0x5B => mismatchAt path (.invalidType .seq wanted) i
  | some 0x7B => mismatchAt path (.invalidType .map wanted) i
  | some c =>
    if isDigit c then found ((readNumber b true i).map fun (n, j) => (.ofNumber n, j))
    else syntaxFailure path ⟨.expectedValue, ahead b i⟩
  | none => syntaxFailure path ⟨.expectedValue, ahead b i⟩

/-- A string value at `i`. -/
def takeText (b : ByteArray) (i : Nat) (path : List Step) : Took String :=
  let i := skipBlanks b i
  match byteAt? b i with
  | none => .error (syntaxFailure path ⟨.eofInValue, ahead b i⟩)
  | some 0x22 => atPath path (readString b (i + 1))
  | some _ => .error (wrongValue b i .text path)

/-- The count a number stands for, or the mismatch, reported after the number. -/
def countOf (path : List Step) : Number × Nat → Took Nat
  | (.nat n, j) =>
    if n < Nat.pow 2 32 then .ok (n, j) else .error (mismatchAt path (.invalidValue (.unsigned n) .count) j)
  | (.neg n, j) => .error (mismatchAt path (.invalidValue (.signed n) .count) j)
  | (.float x, j) => .error (mismatchAt path (.invalidType (.float x) .count) j)

/-- A count value at `i`. -/
def takeCount (b : ByteArray) (i : Nat) (path : List Step) : Took Nat :=
  let i := skipBlanks b i
  match byteAt? b i with
  | none => .error (syntaxFailure path ⟨.eofInValue, ahead b i⟩)
  | some 0x2D =>
    match readNumber b false (i + 1) with
    | .ok r => countOf path r
    | .error f => .error (syntaxFailure path f)
  | some c =>
    if isDigit c then
      match readNumber b true i with
      | .ok r => countOf path r
      | .error f => .error (syntaxFailure path f)
    else .error (wrongValue b i .count path)

/-- A value of a kind at `i`. -/
def takeKind (b : ByteArray) (k : Kind) (i : Nat) (path : List Step) : Took Datum :=
  match k with
  | .text => (takeText b i path).map fun (s, j) => (.text s, j)
  | .count => (takeCount b i path).map fun (n, j) => (.count n, j)

/-- A field's value at `i`: for an optional field, `null` stands for absence. -/
def takeField (b : ByteArray) (f : Field) (i : Nat) (path : List Step) : Took (Option Datum) :=
  match f.presence with
  | .optional =>
    let j := skipBlanks b i
    match byteAt? b j with
    | some 0x6E => atPath path ((expectIdent b (j + 1) [0x75, 0x6C, 0x6C]).map fun k => (none, k))
    | _ => (takeKind b f.kind j path).map fun (d, k) => (some d, k)
  | _ => (takeKind b f.kind i path).map fun (d, k) => (some d, k)

/-- The offset after the closing bracket `closer`, taken with the blanks before it when it is
there. -/
def afterCloser (b : ByteArray) (closer : UInt8) (i : Nat) : Nat :=
  let j := skipBlanks b i
  if byteAt? b j == some closer then j + 1 else j

/-- The first required field that is missing, in field order. -/
def firstMissing (fields : List Field) (got : List (String × Option Datum)) : Option String :=
  (fields.find? fun f => f.presence == .required && (got.lookup f.key).isNone).map (·.key)

/-- The present fields in field order, once every member is read. -/
def present (fields : List Field) (got : List (String × Option Datum)) : List Entry :=
  fields.filterMap fun f =>
    match got.lookup f.key with
    | some (some d) => some (f.key, d)
    | some none => none
    | none => if f.presence == .defaulted then some (f.key, f.kind.default) else none

/-- Members of a record's object from `i`, the values read so far in `got`. -/
def takeMembers (b : ByteArray) (s : Shape) (fuel : Nat) (i : Nat) (first : Bool)
    (got : List (String × Option Datum)) : Took (List Entry) :=
  match fuel with
  | 0 => .error (syntaxFailure [] ⟨.eofInObject, b.size⟩)
  | fuel + 1 =>
    let i := skipBlanks b i
    let member (j : Nat) : Took (List Entry) :=
      match byteAt? b j with
      | some 0x22 =>
        match readString b (j + 1) with
        | .error f => .error (syntaxFailure [] f)
        | .ok (key, k) =>
          let path := [Step.key key]
          let colon : Except Failure Nat :=
            let l := skipBlanks b k
            match byteAt? b l with
            | some 0x3A => .ok (l + 1)
            | some _ => .error (syntaxFailure path ⟨.expectedColon, ahead b l⟩)
            | none => .error (syntaxFailure path ⟨.eofInObject, ahead b l⟩)
          match s.fields.find? (·.key == key) with
          | some f =>
            if (got.lookup key).isSome then
              .error (mismatchAt [] (.duplicateField key) (afterCloser b 0x7D k))
            else
              match colon with
              | .error e => .error e
              | .ok l =>
                match takeField b f l path with
                | .ok (d, m) => takeMembers b s fuel m false (got ++ [(key, d)])
                | .error e => .error e
          | none =>
            match colon with
            | .error e => .error e
            | .ok l =>
              match skip b l with
              | .ok m => takeMembers b s fuel m false got
              | .error e => .error (syntaxFailure path e)
      | some 0x7D => .error (syntaxFailure [] ⟨.trailingComma, ahead b j⟩)
      | some _ => .error (syntaxFailure [] ⟨.keyMustBeString, ahead b j⟩)
      | none => .error (syntaxFailure [] ⟨.eofInValue, ahead b j⟩)
    match byteAt? b i with
    | some 0x7D =>
      match firstMissing s.fields got with
      | some key => .error (mismatchAt [] (.missingField key) (i + 1))
      | none => .ok (present s.fields got, i + 1)
    | some 0x2C => if first then member i else member (skipBlanks b (i + 1))
    | some _ =>
      if first then member i else .error (syntaxFailure [] ⟨.expectedObjectCommaOrEnd, ahead b i⟩)
    | none => .error (syntaxFailure [] ⟨.eofInObject, ahead b i⟩)

/-- The end of a record's array once every field is read: the closing bracket. -/
def closeItems (b : ByteArray) (i : Nat) : Except Failure Nat :=
  let i := skipBlanks b i
  match byteAt? b i with
  | some 0x5D => .ok (i + 1)
  | some 0x2C =>
    let j := skipBlanks b (i + 1)
    if byteAt? b j == some 0x5D then .error (syntaxFailure [] ⟨.trailingComma, ahead b j⟩)
    else .error (syntaxFailure [] ⟨.trailingCharacters, ahead b j⟩)
  | some _ => .error (syntaxFailure [] ⟨.trailingCharacters, ahead b i⟩)
  | none => .error (syntaxFailure [] ⟨.eofInList, ahead b i⟩)

/-- Items of a record's array from `i`: `rest` are the fields still to read, `index` the
position of the first of them, `ended` whether the closing bracket was already seen. -/
def takeItems (b : ByteArray) (s : Shape) (rest : List Field) (index : Nat) (i : Nat)
    (first : Bool) (acc : List Entry) : Took (List Entry) :=
  match rest with
  | [] =>
    match closeItems b i with
    | .ok j => .ok (acc.reverse, j)
    | .error e => .error e
  | f :: more =>
    let i := skipBlanks b i
    let absent : Took (List Entry) :=
      if f.presence == .defaulted then
        takeItems b s more (index + 1) i first ((f.key, f.kind.default) :: acc)
      else
        .error (mismatchAt [] (.invalidLength index (.recordItems s.name s.fields.length))
          (afterCloser b 0x5D i))
    let item (j : Nat) : Took (List Entry) :=
      match byteAt? b j with
      | some 0x5D => .error (syntaxFailure [] ⟨.trailingComma, ahead b j⟩)
      | some _ =>
        match takeField b f j [Step.index index] with
        | .ok (some d, k) => takeItems b s more (index + 1) k false ((f.key, d) :: acc)
        | .ok (none, k) => takeItems b s more (index + 1) k false acc
        | .error e => .error e
      | none => .error (syntaxFailure [] ⟨.eofInValue, ahead b j⟩)
    match byteAt? b i with
    | some 0x5D => absent
    | some 0x2C => if first then item i else item (skipBlanks b (i + 1))
    | some _ =>
      if first then item i else .error (syntaxFailure [] ⟨.expectedListCommaOrEnd, ahead b i⟩)
    | none => .error (syntaxFailure [] ⟨.eofInList, ahead b i⟩)

end Reader

namespace Shape

open Reader in
/-- Reads a record from the start of `b`; what follows it is not looked at. -/
def readText (s : Shape) (b : ByteArray) : Except Failure (List Entry) :=
  let i := skipBlanks b 0
  let result : Took (List Entry) :=
    match byteAt? b i with
    | none => .error (syntaxFailure [] ⟨.eofInValue, ahead b i⟩)
    | some 0x7B => takeMembers b s (b.size + 1) (i + 1) true []
    | some 0x5B => takeItems b s s.fields 0 (i + 1) true []
    | some _ => .error (wrongValue b i (.record s.name) [])
  result.map Prod.fst

/-- A field's value from a value in memory: for an optional field `null` is absence. -/
def valueField (f : Field) (v : Value) (path : List Step) : Except Failure (Option Datum) :=
  let wrong (m : Mismatch) : Except Failure (Option Datum) := .error ⟨.mismatch m, none, path⟩
  match v, f.presence with
  | .null, .optional => .ok none
  | .str s, _ => if f.kind == .text then .ok (some (.text s)) else wrong (.invalidType (.str s) .count)
  | .num (.nat n), _ =>
    if f.kind == .count then
      if n < Nat.pow 2 32 then .ok (some (.count n)) else wrong (.invalidValue (.unsigned n) .count)
    else wrong (.invalidType (.unsigned n) .text)
  | .num (.neg n), _ =>
    if f.kind == .count then wrong (.invalidValue (.signed n) .count)
    else wrong (.invalidType (.signed n) .text)
  | v, _ =>
    wrong (.invalidType (.ofValue v) (if f.kind == .text then .text else .count))

/-- Reads a record from a value in memory: an object (its members in key order, unknown ones
ignored) or an array with exactly the fields in order.  Failures carry neither place nor
path. -/
def readValue (s : Shape) (v : Value) : Except Failure (List Entry) :=
  let wrong (m : Mismatch) : Except Failure (List Entry) := .error ⟨.mismatch m, none, []⟩
  match v.canonical with
  | .obj members =>
    let step (acc : Except Failure (List (String × Option Datum))) (m : String × Value) :=
      match acc with
      | .error e => .error e
      | .ok got =>
        match s.fields.find? (·.key == m.1) with
        | some f => (valueField f m.2 []).map fun d => got ++ [(m.1, d)]
        | none => .ok got
    match members.foldl step (.ok []) with
    | .error e => .error e
    | .ok got =>
      match Reader.firstMissing s.fields got with
      | some key => wrong (.missingField key)
      | none => .ok (Reader.present s.fields got)
  | .arr items =>
    let rec go (fields : List Field) (items : List Value) (index : Nat) :
        Except Failure (List Entry) :=
      match fields, items with
      | [], [] => .ok []
      | [], _ => .error ⟨.mismatch (.invalidLength (index + items.length) .fewerItems), none, []⟩
      | f :: more, [] =>
        if f.presence == .defaulted then (go more [] (index + 1)).map ((f.key, f.kind.default) :: ·)
        else .error ⟨.mismatch (.invalidLength index (.recordItems s.name s.fields.length)), none, []⟩
      | f :: more, x :: xs =>
        match valueField f x [] with
        | .error e => .error e
        | .ok (some d) => (go more xs (index + 1)).map ((f.key, d) :: ·)
        | .ok none => go more xs (index + 1)
    go s.fields items 0
  | other => wrong (.invalidType (.ofValue other) (.record s.name))

end Shape

/-- The text field `key` of a read record, if present. -/
def entryText? (entries : List Entry) (key : String) : Option String :=
  match entries.lookup key with
  | some (.text s) => some s
  | _ => none

/-- The count field `key` of a read record, if present. -/
def entryCount? (entries : List Entry) (key : String) : Option Nat :=
  match entries.lookup key with
  | some (.count n) => some n
  | _ => none

end Storefront.Json
