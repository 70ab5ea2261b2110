/-
`RuntimeSettingService.get` and `set` at once, query by query.

A `get` that misses the cache reads the rows that are committed and then fills the cache.  A
`set` runs in a transaction: it locks the row it finds, writes it, deletes both entries of the
key, and commits.  Its write reaches the table in the commit; its deletes, like every fill,
reach the cache at once.
-/
import DjangoFoundation.Lib.Run
import DjangoFoundation.Core.Services

namespace DjangoFoundation

namespace SettingRaces

open RuntimeSettingService

/-- A `get` that has missed the cache. -/
structure Get where
  id : Nat
  key : String
  default : Json
  publicOnly : Bool
  /-- How many calls of `set` for the key had committed when it began. -/
  began : Nat
  /-- What it found in the rows; nothing before its query. -/
  value : Option Json := none
  deriving DecidableEq, Repr

instance : Keyed Get Nat := ⟨Get.id⟩

/-- Where a `set` stands. -/
inductive Stage
  | begun
  /-- Its `SELECT .. FOR UPDATE` has found this row. -/
  | locked (found : Option Setting)
  /-- It has saved what it made of the row at that time; the entries for these readers are still
  to be deleted. -/
  | saved (found : Option Setting) (savedAt : Int) (entries : List Bool)
  deriving DecidableEq, Repr

structure Txn where
  id : Nat
  /-- The id of the row, if it makes one. -/
  pk : UUID
  args : Args
  stage : Stage := .begun
  deriving DecidableEq, Repr

instance : Keyed Txn Nat := ⟨Txn.id⟩

/-- The row it makes. -/
def Txn.row (txn : Txn) (found : Option Setting) (now : Int) : Setting :=
  txn.args.row found txn.pk now

/-- What its commit brings into the table, where only that is left to do. -/
def Txn.ready? (txn : Txn) : Option Setting :=
  match txn.stage with
  | .saved found savedAt [] => some (txn.row found savedAt)
  | _ => none

/-- It has locked the row of the key. -/
def Txn.locks (txn : Txn) (key : String) : Bool :=
  txn.args.key = key && match txn.stage with
    | .locked (some _) | .saved (some _) _ _ => true
    | _ => false

/-- It has inserted a row of the key, not yet committed. -/
def Txn.inserted (txn : Txn) (key : String) : Bool :=
  txn.args.key = key && match txn.stage with
    | .saved none _ _ => true
    | _ => false

structure State where
  clock : Int := 0
  rows : Table Setting := ∅
  cache : Memo String Json := ∅
  gets : Table Get := ∅
  txns : Table Txn := ∅
  /-- The calls of `set` that have committed, in order. -/
  sets : List Args := []

inductive Event
  /-- The cache is read. -/
  | get (id : Nat) (key : String) (default : Json) (publicOnly : Bool)
  /-- The rows are. -/
  | query (id : Nat)
  /-- The cache is filled, and the `get` returns. -/
  | fill (id : Nat)
  /-- The process of a `get` is gone. -/
  | drop (id : Nat)
  | set (id : Nat) (pk : UUID) (args : Args)
  | lock (id : Nat)
  | save (id : Nat)
  /-- The next of the two deletes. -/
  | delete (id : Nat)
  | commit (id : Nat)
  /-- Rolled back from outside: a connection lost, a deadlock. -/
  | abort (id : Nat)
  /-- The cache gives up an entry. -/
  | evict (cacheKey : String)
  deriving DecidableEq, Repr

namespace State

variable (now : Int) (s : State)

/-- The calls for the key that have committed. -/
def setsOf (key : String) : List Args := s.sets.filter fun args => args.key = key

def version (key : String) : Nat := (s.setsOf key).length

def goOn (id : Nat) (stage : Stage) : State :=
  { s with txns := s.txns.modify id fun txn => { txn with stage := stage } }

def close (id : Nat) : State := { s with txns := s.txns.erase id }

def begin (id : Nat) (key : String) (default : Json) (publicOnly : Bool) : Option State :=
  match cached s.cache now key publicOnly with
  | some _ => some s -- it returns at once
  | none =>
      (s.gets.insert? ⟨id, key, default, publicOnly, s.version key, none⟩).map fun gets =>
        { s with gets := gets }

def query (get : Get) : Option State :=
  match get.value with
  | some _ => none
  | none =>
      let value := read s.rows get.key get.publicOnly get.default
      some { s with gets := s.gets.modify get.id fun get => { get with value := some value } }

def fill (get : Get) : Option State :=
  get.value.map fun value => { s with
    cache := RuntimeSettingService.fill s.cache now get.key get.publicOnly value
    gets := s.gets.erase get.id }

def lock (txn : Txn) : Option State :=
  match txn.stage with
  | .begun =>
      let found := s.rows.get? txn.args.key
      if found.isSome && s.txns.rows.any fun other => other.locks txn.args.key then none
      else some (s.goOn txn.id (.locked found))
  | _ => none

/-- `full_clean` and `save`, which waits for another row of the key that is being inserted. -/
def save (txn : Txn) : Option State :=
  match txn.stage with
  | .locked found =>
      if (txn.row found now).allErrors s.rows ≠ [] then some (s.close txn.id)
      else if found.isNone && s.txns.rows.any fun other => other.inserted txn.args.key then none
      else some (s.goOn txn.id (.saved found now [false, true]))
  | _ => none

def delete (txn : Txn) : Option State :=
  match txn.stage with
  | .saved found savedAt (publicOnly :: entries) =>
      some { s.goOn txn.id (.saved found savedAt entries) with
        cache := s.cache.delete (cacheKey txn.args.key publicOnly) }
  | _ => none

/-- The row is in the table, and the transaction is over. -/
def enter (txn : Txn) (row : Setting) : State :=
  { s.close txn.id with rows := s.rows.put row, sets := s.sets ++ [txn.args] }

def commit (txn : Txn) : Option State := txn.ready?.map (s.enter txn)

def move : Event → Option State
  | .get id key default publicOnly => s.begin now id key default publicOnly
  | .query id => (s.gets.get? id).bind s.query
  | .fill id => (s.gets.get? id).bind (s.fill now)
  | .drop id => (s.gets.get? id).map fun _ => { s with gets := s.gets.erase id }
  | .set id pk args => (s.txns.insert? ⟨id, pk, args, .begun⟩).map fun txns =>
      { s with txns := txns }
  | .lock id => (s.txns.get? id).bind s.lock
  | .save id => (s.txns.get? id).bind (s.save now)
  | .delete id => (s.txns.get? id).bind s.delete
  | .commit id => (s.txns.get? id).bind s.commit
  | .abort id => (s.txns.get? id).map fun _ => s.close id
  | .evict cacheKey => some { s with cache := s.cache.delete cacheKey }

end State

def step (s : State) (e : Int × Event) : Option State :=
  if s.clock ≤ e.1 then { s with clock := e.1 }.move e.1 e.2 else none

/-- What a `get` returns, with the number of committed calls of `set` at its start. -/
structure Answer where
  key : String
  publicOnly : Bool
  began : Nat
  value : Json
  deriving DecidableEq, Repr

/-- The answer given in a step. -/
def answer? (s : State) (e : Int × Event) : Option Answer :=
  match e.2 with
  | .get _ key _ publicOnly =>
      (cached s.cache e.1 key publicOnly).map fun value => ⟨key, publicOnly, s.version key, value⟩
  | .fill id => do
      let get ← s.gets.get? id
      let value ← get.value
      return ⟨get.key, get.publicOnly, get.began, value⟩
  | _ => none

end SettingRaces

end DjangoFoundation
