/-
`AuditService.record` (`apps/audit/services.py`), of all a record says of a value.

What it is called with are objects: dates, related instances and managers as well as JSON.
`sanitize` makes JSON of them, and `isoformat()` of an instant is written as the instant here.
-/
import DjangoFoundation.Common.Logging
import DjangoFoundation.Common.Rows
import DjangoFoundation.Database

namespace DjangoFoundation.Audited

/-- A value in a dictionary that is audited, or what is left of it. -/
inductive Item
  | json (value : Json)
  | instant (value : Int)
  /-- Any other object, of which `str` is asked. -/
  | object (str : String)
  deriving DecidableEq, Repr

/-! ### `sanitize` -/

mutual

def sanitizeJson : Json → Json
  | .list items => .list (sanitizeList items)
  | .dict items => .dict (sanitizeItems items)
  | value => value

def sanitizeList : List Json → List Json
  | [] => []
  | item :: items => sanitizeJson item :: sanitizeList items

def sanitizeItems : List (String × Json) → List (String × Json)
  | [] => []
  | (key, item) :: items =>
      (key, if sensitiveKey key then .str "[REDACTED]" else sanitizeJson item) ::
        sanitizeItems items

end

def sanitizeItem : Item → Item
  | .json value => .json (sanitizeJson value)
  | .instant value => .instant value
  | .object str => .json (.str str)

/-- What becomes of the value under a key. -/
def shown (key : String) (item : Item) : Item :=
  if sensitiveKey key then .json (.str "[REDACTED]") else sanitizeItem item

/-- `sanitize(value)`, of a dictionary. -/
def sanitize (value : List (String × Item)) : List (String × Item) :=
  value.map fun (key, item) => (key, shown key item)

/-! ### Attributes -/

/-- `getattr(row, field)`.  Of a related object its text is asked for, and that of the manager
of a many-to-many field names the manager. -/
def Column.attribute (rows : Table Row) : Column → Item
  | .json value => .json value
  | .instant (some value) => .instant value
  | .instant none => .json .null
  | .foreignKey related (some pk) =>
      .object (((rows.get? (related, pk)).map (Row.str rows)).getD "")
  | .foreignKey _ none => .json .null
  | .manyToMany name _ => .object (name ++ ".None")

/-- `getattr(row, field, None)`. -/
def Row.attribute (rows : Table Row) (row : Row) (field : String) : Item :=
  ((row.column? field).map (Column.attribute rows)).getD (.json .null)

/-- `Model.objects.filter(pk=row.pk).values().first().get(field)`: the key of a foreign key is
there under another name, and many-to-many fields are not. -/
def Row.value (row : Row) (field : String) : Item :=
  match row.column? field with
  | some (.json value) => .json value
  | some (.instant (some value)) => .instant value
  | _ => .json .null

/-! ### Records -/

/-- A row of `AuditLog`. -/
structure Log where
  action : String
  targetType : String
  targetId : String
  targetRepr : String
  actor : Option UUID
  before : List (String × Item) := []
  after : List (String × Item) := []
  client : Client := {}
  deriving DecidableEq, Repr

/-- A row of `UserSession` that is not revoked; of the others nothing is asked. -/
structure LiveSession where
  pk : UUID
  user : UUID
  deriving DecidableEq, Repr

/-- What `AuditService.record(action=.., target=.., actor=.., request=.., before=.., after=..)`
stores, of a target among `rows`. -/
def Log.of (rows : Table Row) (action : String) (target : Row) (actor : UUID) (client : Client)
    (before after : List (String × Item)) : Log where
  action := action
  targetType := target.model.label
  targetId := UUID.str target.pk
  targetRepr := String.ofList ((target.str rows).toList.take 255)
  actor := some actor
  before := sanitize before
  after := sanitize after
  client := client

/-- What `SessionService.revoke` has stored. -/
def Log.revoked (now : Int) (actor : UUID) (client : Client) (session : LiveSession) : Log where
  action := "session.revoked"
  targetType := "authentication.usersession"
  targetId := UUID.str session.pk
  targetRepr := "UserSession object (" ++ UUID.str session.pk ++ ")"
  actor := some actor
  after := sanitize [("revoked_at", .instant now)]
  client := client

structure Store where
  rows : Table Row := ∅
  sessions : List LiveSession := []
  auditLogs : List Log := []

end DjangoFoundation.Audited
