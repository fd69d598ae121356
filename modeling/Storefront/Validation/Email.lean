import Storefront.Net.Address
import Storefront.DomainName.Ascii

/-
  Which texts are e-mail addresses.

  An address has an `@`; the part before the last `@` is the user, the part after it the
  domain.  The user has at most 64 characters, the domain at most 255.  The user is made of
  ASCII letters, digits and the characters ``.!#$%&'*+/=?^_`{|}~-``.  The domain is a
  dot-separated list of labels of 1 to 63 ASCII letters, digits and inner hyphens, or ends in
  an address literal: `[`, an IP address written with hexadecimal digits, `:` and `.`, and a
  final `]`.  A domain that is neither is tried once more in its ASCII form, if it has one
  (`DomainName.toAscii`).
-/

namespace Storefront.Validation

/-- Whether a character may appear in the user part. -/
def isUserChar (c : Char) : Bool :=
  c.isAlphanum || ".!#$%&'*+/=?^_`\x7b|\x7d~-".toList.contains c

/-- Whether a character may stand in an address literal: a hexadecimal digit, `:` or `.`. -/
def isLiteralChar (c : Char) : Bool :=
  (Net.digitIn 16 c).isSome || c = ':' || c = '.'

/-- Whether a list of characters is a domain label: 1 to 63 ASCII letters, digits and
hyphens, first and last not a hyphen. -/
def isLabel (cs : List Char) : Bool :=
  match cs.head?, cs.getLast? with
  | some a, some z =>
    cs.length ≤ 63 && a.isAlphanum && z.isAlphanum && cs.all fun c => c.isAlphanum || c = '-'
  | _, _ => false

/-- Whether a domain is a dot-separated list of labels. -/
def isHostName (cs : List Char) : Bool :=
  (cs.splitOn '.').all isLabel

/-- The IP address in an address literal at the end of a domain: the characters that may
stand in a literal, at least one, between a `[` and the final `]`. -/
def literalAddress (cs : List Char) : Option (List Char) :=
  match cs.reverse with
  | ']' :: rest =>
    let inside := rest.takeWhile isLiteralChar
    if !inside.isEmpty && (rest.drop inside.length).head? = some '[' then some inside.reverse
    else none
  | _ => none

/-- Whether a domain is a host name or ends in an address literal. -/
def isDomain (cs : List Char) : Bool :=
  isHostName cs ||
    match literalAddress cs with
    | some ip => Net.isIpAddress (String.ofList ip)
    | none => false

/-- Whether a text is an e-mail address. -/
def isEmail (s : String) : Bool :=
  let cs := s.toList
  match cs.reverse.idxOf? '@' with
  | none => false
  | some j =>
    let at_ := cs.length - 1 - j
    let user := cs.take at_
    let domain := cs.drop (at_ + 1)
    user.length ≤ 64 && domain.length ≤ 255 && !user.isEmpty && user.all isUserChar &&
      (isDomain domain ||
        match DomainName.toAscii domain with
        | .ok ascii => isDomain ascii
        | .error _ => false)

example : isEmail "a.b+c@d-e.f" = true := by decide +kernel
example : isEmail "a@[IPv6:::1]" = false := by decide +kernel
example : isEmail "a@[127.0.0.1]" = true := by decide +kernel
example : isEmail "a@b..c" = false := by decide +kernel

end Storefront.Validation
