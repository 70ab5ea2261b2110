/-
`SettingViewSet` (`apps/api/views/core.py`) with its serializer, and runs of its writes and
those of `RuntimeSettingService` between the calls of `get`, one after the other.

What the fields of the serializer make of a body is an argument, and so is the id drawn for a
new row.  The audit record of a write is left out here.
-/
import DjangoFoundation.Lib.Run
import DjangoFoundation.Core.Services

namespace DjangoFoundation

namespace SettingViewSet

open RuntimeSettingService

/-- `validated_data`: the fields a request names. -/
structure Attrs where
  key : Option String := none
  value : Option Json := none
  valueType : Option SettingValueType := none
  group : Option String := none
  isPublic : Option Bool := none
  description : Option String := none
  deriving DecidableEq, Repr

/-- `setattr(instance, field, value)`, for each of them. -/
def Attrs.onto (attrs : Attrs) (row : Setting) : Setting :=
  { row with
    key := attrs.key.getD row.key
    value := attrs.value.getD row.value
    valueType := attrs.valueType.getD row.valueType
    group := attrs.group.getD row.group
    isPublic := attrs.isPublic.getD row.isPublic
    description := attrs.description.getD row.description }

/-- The fields without a default, where all fields are asked for. -/
def Attrs.missing (attrs : Attrs) : List (String × String) :=
  (if attrs.key.isNone then [("key", "This field is required.")] else []) ++
    if attrs.value.isNone then [("value", "This field is required.")] else []

/-- The validator of `key`, then `SettingSerializer.validate`, of the instance with the new
values on it. -/
def errors (rows : Table Setting) (row : Setting) : List (String × String) :=
  if (rows.get? row.key).any fun other => other.pk ≠ row.pk then
    [("key", "setting with this key already exists.")]
  else row.errors

/-- `serializer.save()`, in the place of `old` if there is one, and `row.full_clean()`. -/
def save (rows : Table Setting) (old : Option Setting) (row : Setting) :
    Except Exception Unit × Table Setting :=
  let rows := match old with
    | none => rows.put row
    | some old => (rows.erase old.key).put row
  (if row.allErrors rows ≠ [] then .error .validation else .ok (), rows)

def create (now : Int) (rows : Table Setting) (pk : UUID) (attrs : Attrs) :
    Except Exception Unit × Table Setting :=
  let row := attrs.onto { pk := pk, key := "", value := .null, createdAt := now, updatedAt := now }
  if attrs.missing ≠ [] then (.error (.invalid attrs.missing), rows)
  else if errors rows row ≠ [] then (.error (.invalid (errors rows row)), rows)
  else save rows none row

/-- `get_object()`. -/
def find? (rows : Table Setting) (pk : UUID) : Option Setting :=
  rows.rows.find? fun row => row.pk = pk

/-- `update`, and `partial_update`, which may leave fields out. -/
def update (now : Int) (rows : Table Setting) (pk : UUID) (attrs : Attrs) (isPartial : Bool) :
    Except Exception Unit × Table Setting :=
  match find? rows pk with
  | none => (.error .doesNotExist, rows)
  | some old =>
      let row := { attrs.onto old with updatedAt := now }
      if !isPartial && attrs.missing ≠ [] then (.error (.invalid attrs.missing), rows)
      else if errors rows row ≠ [] then (.error (.invalid (errors rows row)), rows)
      else save rows (some old) row

def destroy (rows : Table Setting) (pk : UUID) : Except Exception Unit × Table Setting :=
  match find? rows pk with
  | none => (.error .doesNotExist, rows)
  | some old => (.ok (), rows.erase old.key)

inductive Request
  | create (pk : UUID) (attrs : Attrs)
  | update (pk : UUID) (attrs : Attrs) (isPartial : Bool)
  | destroy (pk : UUID)
  deriving DecidableEq, Repr

/-- The response, as far as it is an error or none, and the rows after it. -/
def Request.run (now : Int) (rows : Table Setting) :
    Request → Except Exception Unit × Table Setting
  | .create pk attrs => SettingViewSet.create now rows pk attrs
  | .update pk attrs isPartial => SettingViewSet.update now rows pk attrs isPartial
  | .destroy pk => SettingViewSet.destroy rows pk

/-- The request that does what `set` is called for. -/
def equivalent (rows : Table Setting) (pk : UUID) (args : Args) : Request :=
  let attrs : Attrs :=
    { value := some args.value
      valueType := some args.valueType
      group := args.group
      isPublic := args.isPublic
      description := args.description }
  match rows.get? args.key with
  | none => .create pk { attrs with key := some args.key }
  | some row => .update row.pk attrs true

end SettingViewSet

/-! ### Runs -/

namespace SettingWrites

open RuntimeSettingService

inductive Event
  | get (key : String) (default : Json) (publicOnly : Bool)
  | set (pk : UUID) (args : Args)
  /-- The same by the equivalent request. -/
  | setByRequest (pk : UUID) (args : Args)
  | send (request : SettingViewSet.Request)
  /-- The cache gives up an entry. -/
  | evict (cacheKey : String)
  deriving DecidableEq, Repr

structure State where
  clock : Int := 0
  store : Store := {}

/-- A call of `set` that raises leaves nothing behind. -/
def Event.run (now : Int) (s : Store) : Event → Store
  | .get key default publicOnly => (RuntimeSettingService.get now s key default publicOnly).2
  | .set pk args =>
      match RuntimeSettingService.set now s pk args with
      | .error _ => s
      | .ok s => s
  | .setByRequest pk args =>
      { s with rows := ((SettingViewSet.equivalent s.rows pk args).run now s.rows).2 }
  | .send request => { s with rows := (request.run now s.rows).2 }
  | .evict cacheKey => { s with cache := s.cache.delete cacheKey }

/-- The id drawn for a new row is no row's. -/
def Event.fresh (rows : Table Setting) : Event → Bool
  | .set pk _ | .setByRequest pk _ | .send (.create pk _) =>
      (SettingViewSet.find? rows pk).isNone
  | _ => true

def step (s : State) (e : Int × Event) : Option State :=
  if s.clock ≤ e.1 ∧ e.2.fresh s.store.rows then
    some { clock := e.1, store := e.2.run e.1 s.store }
  else none

/-- What a `get` returns. -/
def answer? (s : State) (e : Int × Event) : Option Json :=
  match e.2 with
  | .get key default publicOnly =>
      some (RuntimeSettingService.get e.1 s.store key default publicOnly).1
  | _ => none

/-- The keys whose row a step changes. -/
def touched (rows rows' : Table Setting) : List String :=
  ((rows.rows ++ rows'.rows).map Setting.key).filter fun key => rows.get? key ≠ rows'.get? key

end SettingWrites

end DjangoFoundation
