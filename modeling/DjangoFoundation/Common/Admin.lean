/-
`AuditAdminMixin.save_model` (`common/admin.py`), and updates of rows by it and by the viewsets
that audit theirs.

What the fields of a form make of what is sent is an argument.  The view it is called in runs in
a transaction, stores many-to-many fields after it, and does nothing where anything fails.
-/
import DjangoFoundation.Api.Audited

namespace DjangoFoundation.Audited

/-- A form that was sent: `change` is whether its object is stored already. -/
structure Form where
  model : Model
  pk : UUID
  change : Bool := true
  /-- Of the fields in `changed_data`, in its order. -/
  attrs : Attrs model.fields
  actor : UUID
  client : Client := {}

/-- The kind is one of columns in the table of the model. -/
def Kind.concrete : Kind → Bool
  | .manyToMany _ => false
  | _ => true

/-- `[field.name for field in obj._meta.fields]`. -/
def Model.fieldNames (model : Model) : List String :=
  "id" :: (model.fields.filter fun field => field.2.concrete).map Prod.fst

namespace Form

variable (unicode : Unicode) (now : Int) (form : Form)

def key : Model × UUID := (form.model, form.pk)

/-- The object the form is of, without the new values. -/
def object? (rows : Table Row) : Option Row :=
  match rows.get? form.key, form.change with
  | some row, true => some row
  | none, false => some (Row.new form.model form.pk now)
  | _, _ => none

/-- `form.changed_data or [field.name for field in obj._meta.fields]`. -/
def changed : List String :=
  if form.attrs.items = [] then form.model.fieldNames else form.attrs.items.map Prod.fst

def action : String :=
  "admin." ++ form.model.label ++ "." ++ if form.change then "updated" else "created"

/-- `before.get(field)`. -/
def before (row : Row) (field : String) : Item :=
  if form.change then row.value field else .json .null

/-- The object with the values of the form, once it is saved. -/
def obj (row : Row) : Row := (form.attrs.onto row).saved unicode now

/-- The record, made where `rows` are stored. -/
def log (rows : Table Row) (row : Row) : Log :=
  let obj := form.obj unicode now row
  Log.of rows form.action obj form.actor form.client
    (form.changed.map fun field => (field, form.before row field))
    (form.changed.map fun field => (field, obj.attribute rows field))

def saveModel (store : Store) (row : Row) : Store :=
  let rows := store.rows.put (form.obj unicode now row)
  { store with rows := rows, auditLogs := store.auditLogs ++ [form.log unicode now rows row] }

end Form

/-! ### Updates -/

inductive Update
  | viewset (request : Request) (attrs : Attrs request.view.fields)
    (update : request.action = .update attrs)
  | admin (form : Form)

namespace Update

variable (unicode : Unicode)

/-- What the row is stored under. -/
def key : Update → Model × UUID
  | .viewset request _ _ => (request.view.model, request.pk)
  | .admin form => form.key

def step (store : Store) (e : Int × Update) : Option Store :=
  match e.2 with
  | .viewset request _ _ => some ((request.dispatch unicode e.1).run store).2
  | .admin form => (form.object? e.1 store.rows).map (form.saveModel unicode e.1 store)

/-- The record is of this update. -/
def records (update : Update) (log : Log) : Bool :=
  let action := match update with
    | .viewset request _ _ => request.view.auditName ++ "." ++ "updated"
    | .admin form => form.action
  log.action = action ∧ log.targetType = update.key.1.label ∧ log.targetId = UUID.str update.key.2

/-- The record an update adds, if it adds one. -/
def record? (store : Store) (e : Int × Update) : Option Log :=
  (step unicode store e).bind fun store' =>
    (store'.auditLogs.drop store.auditLogs.length).find? e.2.records

end Update

end DjangoFoundation.Audited
