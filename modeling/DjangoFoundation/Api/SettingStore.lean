/-
Everything that writes settings at once, statement by statement: `RuntimeSettingService.set`,
requests to `SettingViewSet` that create or update, and the `bootstrap` command.

`set` and `bootstrap` run in a transaction.  What it writes reaches the table in its commit;
until then it keeps the row it has locked, or the key it has inserted, from the others.  A
request has no transaction: its save is committed at once, and `full_clean` runs after it.

The value types of calls are text, as callers give them.
-/
import DjangoFoundation.Lib.Run
import DjangoFoundation.Api.Settings
import DjangoFoundation.Core.Bootstrap

namespace DjangoFoundation

/-- The choice with this value. -/
def SettingValueType.ofValue? (value : String) : Option SettingValueType :=
  [string, integer, boolean, json].find? fun valueType => valueType.value = value

namespace SettingStore

open RuntimeSettingService (clear cacheKey)

/-- The arguments of `set`, of the other fields those that are given. -/
structure SetArgs where
  key : String
  value : Json
  valueType : String
  group : Option String := none
  isPublic : Option Bool := none
  description : Option String := none
  deriving DecidableEq, Repr

/-- A value type that is no choice is a `KeyError` in `clean`, or an error of its field. -/
def SetArgs.typed? (args : SetArgs) : Option RuntimeSettingService.Args :=
  (SettingValueType.ofValue? args.valueType).map fun valueType =>
    { key := args.key, value := args.value, valueType := valueType, group := args.group,
      isPublic := args.isPublic, description := args.description }

/-- The fields a request names. -/
structure Body where
  key : Option String := none
  value : Option Json := none
  valueType : Option String := none
  group : Option String := none
  isPublic : Option Bool := none
  description : Option String := none
  deriving DecidableEq, Repr

/-- `validated_data`, unless the value type is no choice. -/
def Body.attrs? (body : Body) : Option SettingViewSet.Attrs :=
  let attrs : SettingViewSet.Attrs :=
    { key := body.key, value := body.value, group := body.group, isPublic := body.isPublic,
      description := body.description }
  match body.valueType with
  | none => some attrs
  | some value => (SettingValueType.ofValue? value).map fun valueType =>
      { attrs with valueType := some valueType }

inductive Call
  | set (args : SetArgs)
  | create (body : Body)
  | update (pk : UUID) (body : Body) (isPartial : Bool)
  | bootstrap
  deriving DecidableEq, Repr

/-- Where a call stands. -/
inductive Stage
  | begun
  /-- `set` has locked the row it found, an update has read its instance. -/
  | found (row : Option Setting)
  /-- The row to be saved, and whether it is new. -/
  | checked (row : Setting) (isNew : Bool)
  /-- Saved in a transaction; the entries for these readers are still to be deleted. -/
  | written (row : Setting) (isNew : Bool) (entries : List Bool)
  /-- Saved by a request, and so committed. -/
  | saved (row : Setting)
  deriving DecidableEq, Repr

/-- The call has written to the table. -/
def Stage.hasWritten : Stage → Bool
  | .written _ _ _ | .saved _ => true
  | _ => false

structure Writer where
  id : Nat
  /-- The id of the row, if it makes one. -/
  pk : UUID
  call : Call
  stage : Stage := .begun
  deriving DecidableEq, Repr

instance : Keyed Writer Nat := ⟨Writer.id⟩

/-- It is a `set` that has locked this row. -/
def Writer.locks (w : Writer) (pk : UUID) : Bool :=
  match w.call, w.stage with
  | .set _, .found (some row) => row.pk = pk
  | .set _, .checked row false => row.pk = pk
  | .set _, .written row false _ => row.pk = pk
  | _, _ => false

/-- It has inserted a row of the key, not yet committed. -/
def Writer.inserted (w : Writer) (key : String) : Bool :=
  match w.stage with
  | .written row true _ => row.key = key
  | _ => false

structure State where
  clock : Int := 0
  rows : Table Setting := ∅
  cache : Memo String Json := ∅
  writers : Table Writer := ∅

namespace State

variable (s : State)

def locked (id : Nat) (pk : UUID) : Bool :=
  s.writers.rows.any fun other => other.id ≠ id && other.locks pk

def inserting (id : Nat) (key : String) : Bool :=
  s.writers.rows.any fun other => other.id ≠ id && other.inserted key

end State

/-- `row.save()`: `UPDATE .. WHERE id`, or `INSERT`; none for an `IntegrityError`. -/
def save (rows : Table Setting) (row : Setting) (isNew : Bool) : Option (Table Setting) :=
  if isNew && rows.rows.any (fun other => other.pk = row.pk) then none
  else (rows.delete fun other => other.pk = row.pk).insert? row

/-- What the next statement of a call comes to. -/
inductive Turn
  /-- It waits for a lock. -/
  | wait
  /-- The call raises, and what it has not committed is rolled back. -/
  | reject
  | next (stage : Stage) (rows : Table Setting) (cache : Memo String Json)
  /-- It returns. -/
  | finish (rows : Table Setting)

namespace Writer

variable (now : Int) (s : State) (w : Writer)

/-- To the next stage, with nothing written. -/
def go (stage : Stage) : Turn := .next stage s.rows s.cache

/-- `RuntimeSettingService.set(..)`. -/
def turnSet (args : SetArgs) : Turn :=
  match w.stage with
  | .begun =>
      let row := s.rows.get? args.key
      if row.any fun row => s.locked w.id row.pk then .wait else go s (.found row)
  | .found found =>
      match args.typed? with
      | none => .reject
      | some args =>
          let row := args.row found w.pk now
          if row.allErrors s.rows ≠ [] then .reject else go s (.checked row found.isNone)
  | .checked row isNew =>
      if isNew && s.inserting w.id row.key then .wait
      else if (save s.rows row isNew).isNone then .reject
      else go s (.written { row with updatedAt := now } isNew [false, true])
  | .written row isNew (publicOnly :: entries) =>
      .next (.written row isNew entries) s.rows (s.cache.delete (cacheKey row.key publicOnly))
  | .written row isNew [] => .finish ((save s.rows row isNew).getD s.rows)
  | .saved _ => .finish s.rows -- only a request gets there

/-- The serializer is valid, or what it finds wrong is the answer. -/
def validate (attrs : SettingViewSet.Attrs) (all : Bool) (row : Setting) (isNew : Bool) : Turn :=
  if (all && attrs.missing ≠ []) || SettingViewSet.errors s.rows row ≠ [] then .reject
  else go s (.checked row isNew)

/-- `serializer.save()`, which is committed. -/
def turnSave (row : Setting) (isNew : Bool) : Turn :=
  if s.inserting w.id row.key || s.locked w.id row.pk then .wait
  else match save s.rows { row with updatedAt := now } isNew with
    | none => .reject
    | some rows => .next (.saved { row with updatedAt := now }) rows s.cache

/-- The `row.full_clean()` after it. -/
def turnCheck (row : Setting) : Turn :=
  if row.allErrors s.rows ≠ [] then .reject else .finish s.rows

/-- A `POST`. -/
def turnCreate (body : Body) : Turn :=
  match w.stage with
  | .begun =>
      match body.attrs? with
      | none => .reject
      | some attrs => validate s attrs true
          (attrs.onto { pk := w.pk, key := "", value := .null, createdAt := now, updatedAt := now })
          true
  | .checked row isNew => w.turnSave now s row isNew
  | _ => .finish s.rows

/-- A `PUT` or a `PATCH`. -/
def turnUpdate (pk : UUID) (body : Body) (isPartial : Bool) : Turn :=
  match w.stage with
  | .begun =>
      match SettingViewSet.find? s.rows pk with
      | none => .reject
      | some old => go s (.found (some old))
  | .found (some old) =>
      match body.attrs? with
      | none => .reject
      | some attrs => validate s attrs (!isPartial) (attrs.onto old) false
  | .checked row isNew => w.turnSave now s row isNew
  | _ => .finish s.rows

/-- `Setting.objects.get_or_create(..)`, in the transaction of the command.  Where its insert
fails it finds the row that is in the way. -/
def turnBootstrap : Turn :=
  match w.stage with
  | .begun =>
      if (s.rows.get? (Bootstrap.registrationSetting w.pk now).key).isSome then .finish s.rows
      else go s (.checked (Bootstrap.registrationSetting w.pk now) true)
  | .checked row isNew =>
      if s.inserting w.id row.key then .wait
      else if (save s.rows row isNew).isNone then .finish s.rows
      else go s (.written row isNew [])
  | .written row isNew _ => .finish ((save s.rows row isNew).getD s.rows)
  | _ => .finish s.rows

def turn : Turn :=
  match w.stage, w.call with
  | .saved row, _ => turnCheck s row
  | _, .set args => w.turnSet now s args
  | _, .create body => w.turnCreate now s body
  | _, .update pk body isPartial => w.turnUpdate now s pk body isPartial
  | _, .bootstrap => w.turnBootstrap now s

/-- The call raises here, or is answered with an error. -/
def rejects : Bool :=
  match w.turn now s with
  | .reject => true
  | _ => false

end Writer

/-! ### Runs -/

inductive Event
  | start (id : Nat) (pk : UUID) (call : Call)
  /-- The next statement of a call. -/
  | go (id : Nat)
  /-- Its process is gone, and a transaction is rolled back. -/
  | drop (id : Nat)
  /-- A reader fills the cache, which may also give up an entry. -/
  | fill (cacheKey : String) (value : Json)
  | evict (cacheKey : String)
  deriving DecidableEq, Repr

namespace State

variable (now : Int) (s : State)

def take (w : Writer) : Option State :=
  match w.turn now s with
  | .wait => none
  | .reject => some { s with writers := s.writers.erase w.id }
  | .next stage rows cache => some { s with
      rows := rows
      cache := cache
      writers := s.writers.put { w with stage := stage } }
  | .finish rows => some { s with rows := rows, writers := s.writers.erase w.id }

def move : Event → Option State
  | .start id pk call => (s.writers.insert? ⟨id, pk, call, .begun⟩).map fun writers =>
      { s with writers := writers }
  | .go id => (s.writers.get? id).bind (s.take now)
  | .drop id => (s.writers.get? id).map fun _ => { s with writers := s.writers.erase id }
  | .fill cacheKey value =>
      some { s with cache := s.cache.set now cacheKey value RuntimeSettingService.cacheTimeout }
  | .evict cacheKey => some { s with cache := s.cache.delete cacheKey }

end State

def step (s : State) (e : Int × Event) : Option State :=
  if s.clock ≤ e.1 then { s with clock := e.1 }.move e.1 e.2 else none

/-- The call whose statement a step is. -/
def mover? (s : State) (e : Int × Event) : Option Writer :=
  match e.2 with
  | .go id => s.writers.get? id
  | _ => none

end SettingStore

end DjangoFoundation
