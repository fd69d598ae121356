import Storefront.Unicode.Printable

/-
  A string written as a double-quoted literal, as diagnostics print it.

  Inside the quotes a character stands for itself, except: `\0 \t \r \n \\ \"` for those six,
  and `\u{h}` (lowercase hexadecimal, no leading zeros) for a character that extends the
  previous one (`Unicode.isExtending`) and for a character that is not printable
  (`Unicode.isPrintable`): controls, format characters, private use, unassigned code points,
  and separators other than the plain space.
-/

namespace Storefront.Text

open Storefront.Unicode

/-- Lowercase hexadecimal digits of `n`, without leading zeros. -/
def hexDigits (n : Nat) : String :=
  String.ofList (Nat.toDigits 16 n)

/-- The form of one character inside a literal. -/
def escapeInLiteral (c : Char) : String :=
  if c.toNat = 0 then "\\0"
  else if c = '\t' then "\\t"
  else if c = '\r' then "\\r"
  else if c = '\n' then "\\n"
  else if c = '\\' then "\\\\"
  else if c = '"' then "\\\""
  else if isExtending c || !isPrintable c then "\\u" ++ "\x7b" ++ hexDigits c.toNat ++ "\x7d"
  else String.singleton c

/-- A string as a double-quoted literal. -/
def literal (s : String) : String :=
  "\"" ++ s.foldl (fun acc c => acc ++ escapeInLiteral c) "" ++ "\""

end Storefront.Text
