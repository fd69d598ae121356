import Storefront.Json.Record
import Storefront.Validation.Report

/-
  Request records held to their rules.

  A record is first read into its fields and then its fields are held to its rules.  It is
  refused for the first reason that applies: it is not a record of its shape (the reading
  failure says where and why), or some fields break their rules (all of them are reported, in
  the order the rules are listed).
-/

namespace Storefront.Validation

open Storefront.Json

/-- The rules of a record: for each checked field its name, its value and its rule, taken from
the fields as read. -/
abbrev Rules := List Entry → List (String × String × Rule)

/-- No rules at all. -/
def noRules : Rules := fun _ => []

/-- Why a record is refused. -/
inductive Refusal where
  /-- It is not a record of its shape. -/
  | malformed (f : Failure)
  /-- Its fields break these rules. -/
  | broken (vs : List Violation)

/-- Holds the fields of a record to its rules. -/
def enforce (rules : Rules) (e : List Entry) : Except Refusal (List Entry) :=
  match violations (rules e) with
  | [] => .ok e
  | vs => .error (.broken vs)

/-- Reads a record of a shape from a JSON value and holds it to its rules. -/
def checkValue (s : Shape) (rules : Rules) (v : Value) : Except Refusal (List Entry) :=
  match s.readValue v with
  | .error f => .error (.malformed f)
  | .ok e => enforce rules e

/-- Reads a record of a shape from the start of a JSON text and holds it to its rules. -/
def checkText (s : Shape) (rules : Rules) (b : ByteArray) : Except Refusal (List Entry) :=
  match s.readText b with
  | .error f => .error (.malformed f)
  | .ok e => enforce rules e

end Storefront.Validation
