import Storefront.Validation.Email
import Storefront.Text.Literal

/-
  Rules on the fields of a request, and the report of the fields that break them.

  A rule is a least length, counted in characters, or being an e-mail address.  The report
  has one line per broken field: the field, the rule's code and its parameters, which are the
  rule's own bound and the offending value, e.g.
  `name: Validation error: length [{"min": Number(1), "value": String("")}]`.
-/

namespace Storefront.Validation

/-- A rule on a text field. -/
inductive Rule where
  /-- At least `min` characters. -/
  | minLength (min : Nat)
  /-- An e-mail address. -/
  | email
  deriving DecidableEq, Repr

namespace Rule

/-- Whether a value keeps the rule. -/
def holds : Rule → String → Bool
  | .minLength min, v => min ≤ v.length
  | .email, v => isEmail v

/-- The code of the rule in a report. -/
def code : Rule → String
  | .minLength _ => "length"
  | .email => "email"

end Rule

/-- A field that breaks a rule, with its value. -/
structure Violation where
  field : String
  rule : Rule
  value : String
  deriving DecidableEq, Repr

/-- The written parameters of a broken rule, sorted by name. -/
def Violation.params (v : Violation) : List (String × String) :=
  let value := ("value", "String(" ++ Text.literal v.value ++ ")")
  match v.rule with
  | .minLength min => [("min", s!"Number({min})"), value]
  | .email => [value]

/-- The report line of a broken rule. -/
def Violation.line (v : Violation) : String :=
  let params := v.params.map fun (k, x) => Text.literal k ++ ": " ++ x
  v.field ++ ": Validation error: " ++ v.rule.code ++ " [\x7b" ++ ", ".intercalate params ++ "\x7d]"

/-- The fields, with their values and rules, that break their rule, in the given order. -/
def violations (checks : List (String × String × Rule)) : List Violation :=
  checks.filterMap fun (field, value, rule) =>
    if rule.holds value then none else some ⟨field, rule, value⟩

/-- The report of broken rules: one line per violation. -/
def report (vs : List Violation) : String :=
  "\n".intercalate (vs.map Violation.line)

end Storefront.Validation
