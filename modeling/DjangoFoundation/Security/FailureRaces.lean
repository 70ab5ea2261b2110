/-
`_register_database_failure` called at once by any number of logins, query by query.

A call reads the clock once and then takes its dimensions in turn, each in a transaction of
its own.  The transaction locks the row of the dimension, waiting for whoever holds it, or
inserts one where it has found none; an insert waits for the row another transaction has
inserted and not yet committed, and once that is committed turns into a second locked read
(`get_or_create`).  What it makes of the row reaches the table in its commit.
-/
import DjangoFoundation.Lib.Locks
import DjangoFoundation.Lib.Run
import DjangoFoundation.Security.Services

namespace DjangoFoundation

namespace FailureRaces

open LoginProtectionService

variable (env : Environment) (settings : LoginSettings)

/-- Where a call stands with the first of the dimensions it has left. -/
inductive Stage
  /-- Before the `SELECT .. FOR UPDATE`. -/
  | idle
  /-- This has found nothing; before the `INSERT`. -/
  | missed
  /-- It has found this row, and holds it. -/
  | locked (row : LoginThrottleState)
  /-- It has inserted this row, which nobody else sees yet. -/
  | inserted (row : LoginThrottleState)
  deriving DecidableEq, Repr

structure Call where
  id : Nat
  identifier : String
  ipAddress : Option String
  /-- `now`, read at the start. -/
  now : Int
  /-- The dimensions still to come. -/
  left : List String
  stage : Stage := .idle
  longest : Longest := {}
  deriving DecidableEq

instance : Keyed Call Nat := ⟨Call.id⟩

/-- The row it has for itself. -/
def Call.row? (call : Call) : Option LoginThrottleState :=
  match call.stage with
  | .idle | .missed => none
  | .locked row | .inserted row => some row

/-- What it keeps others from. -/
def Call.locks (call : Call) : List String := call.row?.toList.map fun row => row.dimensionHash

/-- The dimensions of the call. -/
def Call.dimensions (call : Call) : List String :=
  LoginProtectionService.dimensions env call.identifier call.ipAddress

/-- It is through with a dimension. -/
def Call.next (call : Call) (dimension : String) (left : List String) (lockSeconds : Int) : Call :=
  { call with left := left, stage := .idle, longest := call.longest.next dimension lockSeconds }

structure State where
  clock : Int := 0
  rows : Table LoginThrottleState := ∅
  calls : Table Call := ∅

inductive Event
  | start (id : Nat) (identifier : String) (ipAddress : Option String)
  /-- `SELECT .. FOR UPDATE`. -/
  | select (id : Nat)
  | insert (id : Nat)
  /-- The save, with the commit. -/
  | commit (id : Nat)
  deriving DecidableEq, Repr

namespace State

variable (now : Int) (s : State)

def goOn (id : Nat) (stage : Stage) : State :=
  { s with calls := s.calls.modify id fun call => { call with stage := stage } }

/-- Nobody else holds the row. -/
def free (id : Nat) (hash : String) : Bool := Locks.free Call.locks s.calls id hash

def start (id : Nat) (identifier : String) (ipAddress : Option String) : Option State :=
  (s.calls.insert? {
    id := id
    identifier := identifier
    ipAddress := ipAddress
    now := now
    left := dimensions env identifier ipAddress }).map fun calls => { s with calls := calls }

def select (call : Call) : Option State :=
  match call.stage, call.left with
  | .idle, dimension :: _ =>
      match s.rows.get? (stateKey env dimension) with
      | none => some (s.goOn call.id .missed)
      | some row =>
          if s.free call.id row.dimensionHash then some (s.goOn call.id (.locked row)) else none
  | _, _ => none

def insert (call : Call) : Option State :=
  match call.stage, call.left with
  | .missed, dimension :: _ =>
      match s.rows.get? (stateKey env dimension) with
      | some _ => some (s.goOn call.id .idle) -- `IntegrityError`
      | none =>
          if s.free call.id (stateKey env dimension) then
            some (s.goOn call.id (.inserted {
              dimensionHash := stateKey env dimension
              expiresAt := call.now + window settings }))
          else none
  | _, _ => none

/-- The row as it is saved is in the table, and the next dimension is up. -/
def enter (call : Call) (dimension : String) (left : List String) (row : LoginThrottleState) :
    State :=
  let (lockSeconds, saved) := failed settings call.now row
  { s with
    rows := s.rows.put { saved with updatedAt := now }
    calls := s.calls.modify call.id fun call => call.next dimension left lockSeconds }

def commit (call : Call) : Option State :=
  match call.row?, call.left with
  | some row, dimension :: left => some (s.enter settings now call dimension left row)
  | _, _ => none

def move : Event → Option State
  | .start id identifier ipAddress => s.start env now id identifier ipAddress
  | .select id => (s.calls.get? id).bind (s.select env)
  | .insert id => (s.calls.get? id).bind (s.insert env settings)
  | .commit id => (s.calls.get? id).bind (s.commit settings now)

end State

def step (s : State) (e : Int × Event) : Option State :=
  if s.clock ≤ e.1 then { s with clock := e.1 }.move env settings e.1 e.2 else none

/-- The answer of a call that is through with its dimensions. -/
def Call.answer? (call : Call) : Option LockoutState :=
  if call.left = [] then some call.longest.state else none

end FailureRaces

end DjangoFoundation
