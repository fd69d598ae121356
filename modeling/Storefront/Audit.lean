import Storefront.Json.Value
import Storefront.Time.Instant

/-
  Audit events: who did what to which thing, and when.

  An event names the kind of thing, the action and the thing's id.  Its record has the kind
  and the action in capitals with words joined by `_`, and the time in RFC 3339 form.
-/

namespace Storefront.Audit

open Storefront.Json Storefront.Time

/-- The kinds of thing an event is about. -/
inductive Entity where
  | user
  | product
  | file
  deriving DecidableEq, Repr

/-- The actions an event records. -/
inductive Action where
  | create
  | update
  | get
  | delete
  | register
  | login
  | uploadFile
  deriving DecidableEq, Repr

/-- The recorded name of a kind of thing. -/
def Entity.name : Entity → String
  | .user => "USER"
  | .product => "PRODUCT"
  | .file => "FILE"

/-- The recorded name of an action. -/
def Action.name : Action → String
  | .create => "CREATE"
  | .update => "UPDATE"
  | .get => "GET"
  | .delete => "DELETE"
  | .register => "REGISTER"
  | .login => "LOGIN"
  | .uploadFile => "UPLOAD_FILE"

/-- One audit event. -/
structure Event where
  entity : Entity
  action : Action
  entityId : String
  timestamp : Instant
  deriving DecidableEq, Repr

/-- The record of an event. -/
def Event.toJson (e : Event) : Value :=
  .obj [("entity", .str e.entity.name), ("action", .str e.action.name),
    ("entity_id", .str e.entityId), ("timestamp", .str e.timestamp.rfc3339)]

end Storefront.Audit
