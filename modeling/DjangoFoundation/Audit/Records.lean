/-
`AuditService.record` (`apps/audit/services.py`), with all it is called with and every column
of the row it makes.

`pk` and `now` are the id and the time the row gets by default.
-/
import DjangoFoundation.Common.Values
import DjangoFoundation.Audit.Services

namespace DjangoFoundation

namespace AuditService

/-- What is asked of a target: `f"{app_label}.{model_name}"`, `str(target.pk)` and `str(target)`. -/
structure Target where
  label : String
  pk : String
  str : String
  deriving DecidableEq, Repr

structure Actor where
  pk : UUID
  isAuthenticated : Bool
  deriving DecidableEq, Repr

/-- The arguments. -/
structure Call where
  action : String
  target : Option Target := none
  actor : Option Actor := none
  request : Option Client := none
  before : Option (List (Scalar × Value)) := none
  after : Option (List (Scalar × Value)) := none
  metadata : Option (List (Scalar × Value)) := none
  targetType : Option String := none
  targetId : Option String := none
  targetRepr : Option String := none

structure Record where
  pk : UUID
  actor : Option UUID
  action : String
  targetType : String
  targetId : String
  targetRepr : String
  before : Value
  after : Value
  metadata : Value
  requestId : String
  ipAddress : Option String
  userAgent : String
  createdAt : Int

/-- `text[:n]`. -/
def upTo (n : Nat) (text : String) : String := String.ofList (text.toList.take n)

/-- `values or {}`. -/
def orEmpty (values : Option (List (Scalar × Value))) : Value := .dict (values.getD [])

/-- `target_type or (..)`: an empty one counts as none. -/
def Call.resolvedType (call : Call) : String :=
  match call.targetType.filter fun text => text ≠ "" with
  | some targetType => targetType
  | none => (call.target.map Target.label).getD "system"

def record (now : Int) (pk : UUID) (call : Call) : Record where
  pk := pk
  actor := (call.actor.filter Actor.isAuthenticated).map Actor.pk
  action := call.action
  targetType := call.resolvedType
  targetId := call.targetId.getD ((call.target.map Target.pk).getD "")
  targetRepr := upTo 255 (call.targetRepr.getD ((call.target.map Target.str).getD ""))
  before := (orEmpty call.before).sanitize
  after := (orEmpty call.after).sanitize
  metadata := (orEmpty call.metadata).sanitize
  requestId := (call.request.map Client.requestId).getD ""
  ipAddress := call.request.bind Client.ipAddress
  userAgent := upTo 2000 ((call.request.map Client.userAgent).getD "")
  createdAt := now

end AuditService

end DjangoFoundation
