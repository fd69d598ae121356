import Storefront.Number.Shortest

/-
  JSON values and their compact written form.

  A number keeps the class it was read as: a natural number that fits 64 bits, a negative
  integer that fits 64 bits, or a binary64.  An object keeps its members in the order they
  were read, repeated keys included; `canonical` turns it into the form of a sorted map, in
  which each key appears once with its last value.

  The written form has no blanks.  A string is quoted with `\"` and `\\`, the control
  characters get `\b \f \n \r \t` or `\u00xx` with lowercase hexadecimal digits, and every
  other character is written as itself.  A binary64 is written by `Binary64.write`.
-/

namespace Storefront.Json

open Storefront.Number

/-- A JSON number, as read. -/
inductive Number where
  /-- A natural number below `2^64`. -/
  | nat (n : Nat)
  /-- A negative integer not below `-2^63`. -/
  | neg (n : Int)
  /-- Any other number, as the binary64 it reads as. -/
  | float (x : Binary64)
  deriving DecidableEq, Repr

/-- A JSON value.  Members of an object are kept in reading order. -/
inductive Value where
  | null
  | bool (b : Bool)
  | num (n : Number)
  | str (s : String)
  | arr (items : List Value)
  | obj (members : List (String × Value))
  deriving Repr, Inhabited

namespace Number

/-- The written form of a number. -/
def write : Number → String
  | .nat n => toString n
  | .neg n => toString n
  | .float x => x.write

end Number

/-- The hexadecimal digit of a value below 16, lowercase. -/
def hexDigit (n : Nat) : Char :=
  if n < 10 then Char.ofNat (48 + n) else Char.ofNat (87 + n)

/-- The escape of one character inside a quoted string. -/
def escapeChar (c : Char) : String :=
  if c = '"' then "\\\""
  else if c = '\\' then "\\\\"
  else if c = '\n' then "\\n"
  else if c = '\r' then "\\r"
  else if c = '\t' then "\\t"
  else if c.toNat = 8 then "\\b"
  else if c.toNat = 12 then "\\f"
  else if c.toNat < 32 then
    String.ofList ['\\', 'u', '0', '0', hexDigit (c.toNat / 16), hexDigit (c.toNat % 16)]
  else String.singleton c

/-- A string in quotes, escaped. -/
def quote (s : String) : String :=
  "\"" ++ s.foldl (fun acc c => acc ++ escapeChar c) "" ++ "\""

mutual

/-- The compact written form of a value. -/
def Value.write : Value → String
  | .null => "null"
  | .bool true => "true"
  | .bool false => "false"
  | .num n => n.write
  | .str s => quote s
  | .arr items => "[" ++ writeItems items ++ "]"
  | .obj members => "\x7b" ++ writeMembers members ++ "\x7d"

/-- Array items, separated by commas. -/
def writeItems : List Value → String
  | [] => ""
  | [v] => v.write
  | v :: rest => v.write ++ "," ++ writeItems rest

/-- Object members, separated by commas. -/
def writeMembers : List (String × Value) → String
  | [] => ""
  | [(k, v)] => quote k ++ ":" ++ v.write
  | (k, v) :: rest => quote k ++ ":" ++ v.write ++ "," ++ writeMembers rest

end

/-- Inserts a member into a list sorted by key, replacing the value of an equal key. -/
def insertSorted (k : String) (v : Value) : List (String × Value) → List (String × Value)
  | [] => [(k, v)]
  | (k', v') :: rest =>
    if k < k' then (k, v) :: (k', v') :: rest
    else if k = k' then (k, v) :: rest
    else (k', v') :: insertSorted k v rest

mutual

/-- The value as a sorted map would hold it: object keys sorted, each once, the last value
of a repeated key kept. -/
def Value.canonical : Value → Value
  | .arr items => .arr (canonicalItems items)
  | .obj members => .obj (canonicalMembers members [])
  | v => v

/-- `canonical` on each item. -/
def canonicalItems : List Value → List Value
  | [] => []
  | v :: rest => v.canonical :: canonicalItems rest

/-- Inserts each member, made canonical, into the sorted accumulator. -/
def canonicalMembers : List (String × Value) → List (String × Value) → List (String × Value)
  | [], acc => acc
  | (k, v) :: rest, acc => canonicalMembers rest (insertSorted k v.canonical acc)

end

namespace Value

/-- The member of an object under `key`, the first one if repeated. -/
def get? (v : Value) (key : String) : Option Value :=
  match v with
  | .obj members => members.lookup key
  | _ => none

/-- A string value. -/
def str? : Value → Option String
  | .str s => some s
  | _ => none

/-- An object member that is a string. -/
def getStr? (v : Value) (key : String) : Option String :=
  (v.get? key).bind str?

end Value

end Storefront.Json
