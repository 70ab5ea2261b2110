/-
The `idempotent()` decorator: `common/idempotency.py` and `IdempotencyRecord`.

A wrapped call with an `Idempotency-Key` runs in one transaction: it looks the key up,
inserts a record where there is none, runs the method, and saves the response in the
record.  Each of these is a step here, and the steps of different calls interleave.
Until a call commits, its record and the writes of its method are its own; they are
kept in its phase and reach the tables in the commit or not at all.

`J` is the type of JSON values and `W` that of the rows a method may write: the
decorator looks into neither.
-/
import DjangoFoundation.Lib.Run
import DjangoFoundation.Lib.Table
import DjangoFoundation.Common.Base
import DjangoFoundation.Common.Crypto
import DjangoFoundation.Common.Exceptions

namespace DjangoFoundation.Idempotency

/-- What the decorator reads of a request.  `user` is `none` for an anonymous one, the
key is empty where the header is absent, and method and path are in their encoding. -/
structure Request where
  user : Option UUID
  idempotencyKey : String
  method : List UInt8
  path : List UInt8
  body : List UInt8
  deriving DecidableEq, Repr

/-- A response: its status, and the JSON value of its data where `json.dumps` finds one. -/
structure Response (J : Type) where
  statusCode : Nat
  data : Option J
  deriving DecidableEq, Repr

structure IdempotencyRecord (J : Type) where
  pk : UUID
  user : UUID
  keyHash : String
  requestMethod : List UInt8
  requestPath : List UInt8
  requestHash : String
  responseStatus : Option Nat := none
  responseBody : Option J := none
  createdAt : Int
  expiresAt : Int
  deriving DecidableEq, Repr

instance (J : Type) : Keyed (IdempotencyRecord J) UUID := ⟨IdempotencyRecord.pk⟩

/-! ### The texts of the decorator -/

def authenticationRequired : APIException where
  detail := "Authentication is required for idempotency."
  code := "AUTHENTICATION_REQUIRED"
  statusCode := 401

def invalidKey : APIException where
  detail := "Invalid Idempotency-Key."
  code := "VALIDATION_ERROR"

def differentRequest : APIException where
  detail := "This Idempotency-Key was used for a different request."
  code := "CONFLICT"
  statusCode := 409

def inProgress : APIException where
  detail := "A request with this Idempotency-Key is in progress."
  code := "CONFLICT"
  statusCode := 409

/-- The `RuntimeError` for a response that has no JSON. -/
def notSerializable : String := "Idempotent responses must be JSON serializable"

/-- `keyed_hash(raw_key, purpose="idempotency")`. -/
def Request.keyHash (keyring : Keyring) (request : Request) : String :=
  keyring.keyedHash "idempotency" request.idempotencyKey

/-- What the request hash is taken of. -/
def Request.content (request : Request) : List UInt8 :=
  request.method ++ request.path ++ request.body

def Request.requestHash (keyring : Keyring) (request : Request) : String :=
  keyring.sha256 request.content

/-! ### The system -/

/-- What a run of the wrapped method comes to, with the rows it has written by then. -/
inductive MethodResult (J W : Type)
  | returned (response : Response J) (writes : List W)
  | raised (exception : String) (writes : List W)

/-- Where a call stands. -/
inductive Phase (J W : Type)
  /-- No key: the bare method runs, outside any transaction of the decorator. -/
  | unguarded
  /-- Before the locked lookup. -/
  | lookup
  /-- The lookup found nothing; before the insert. -/
  | insert
  /-- The record is inserted and not committed; the method runs. -/
  | method (record : IdempotencyRecord J)
  /-- The method has returned and its response has JSON; before the save and commit. -/
  | save (record : IdempotencyRecord J) (response : Response J) (writes : List W)

/-- The record a transaction holds uncommitted. -/
def Phase.record? {J W : Type} : Phase J W → Option (IdempotencyRecord J)
  | .method record => some record
  | .save record _ _ => some record
  | _ => none

/-- A call in progress; `pk` stands for the request it belongs to. -/
structure Call (J W : Type) where
  pk : UUID
  request : Request
  phase : Phase J W

instance (J W : Type) : Keyed (Call J W) UUID := ⟨Call.pk⟩

/-- How a call ends. -/
inductive Outcome (J : Type)
  /-- The bare method's response. -/
  | unguarded (response : Response J)
  /-- The response of the method, run in this call. -/
  | executed (response : Response J)
  /-- A stored response, under `Idempotent-Replayed: true`. -/
  | replayed (response : Response J)
  | refused (exception : APIException)
  | raised (exception : String)
  /-- The connection is lost before the commit. -/
  | lost
  deriving DecidableEq, Repr

structure Finished (J : Type) where
  pk : UUID
  request : Request
  outcome : Outcome J
  deriving DecidableEq, Repr

instance (J : Type) : Keyed (Finished J) UUID := ⟨Finished.pk⟩

/-- A committed run of the method under a key: the record that was committed with it, the
response it gave, and the rows it wrote. -/
structure Commit (J W : Type) where
  call : UUID
  request : Request
  record : IdempotencyRecord J
  response : Response J
  writes : List W

/-- Rows committed together, and the call that wrote them. -/
structure Batch (W : Type) where
  call : UUID
  rows : List W

/-- The committed database (`records`, and `writes` for every other table), the calls in
progress, and as history the calls that have ended and the runs they committed. -/
structure State (J W : Type) where
  records : Table (IdempotencyRecord J)
  writes : List (Batch W)
  calls : Table (Call J W)
  finished : Table (Finished J)
  commits : List (Commit J W)

def State.init (J W : Type) : State J W where
  records := ∅
  writes := []
  calls := ∅
  finished := ∅
  commits := []

inductive Event (J W : Type)
  | arrive (call : UUID) (request : Request)
  | lookup (call : UUID)
  | insert (call : UUID) (record : UUID) (now : Int)
  | method (call : UUID) (result : MethodResult J W)
  | save (call : UUID)
  | lose (call : UUID)

section Steps

variable {J W : Type}

/-- The row `(user, keyHash)` names, of which the unique constraint allows one. -/
def record? (records : Table (IdempotencyRecord J)) (user : UUID) (keyHash : String) :
    Option (IdempotencyRecord J) :=
  records.rows.find? fun record => record.user = user ∧ record.keyHash = keyHash

/-- Some other transaction holds an uncommitted row the insert would conflict with. -/
def State.blocked (s : State J W) (user : UUID) (keyHash : String) : Bool :=
  s.calls.rows.any fun call =>
    call.phase.record?.any fun record => record.user = user ∧ record.keyHash = keyHash

/-- A call goes on in another phase. -/
def State.proceed (s : State J W) (call : UUID) (phase : Phase J W) : State J W :=
  { s with calls := s.calls.modify call fun c => { c with phase := phase } }

/-- A call ends; what its transaction held uncommitted goes with it. -/
def State.finish (s : State J W) (call : Call J W) (outcome : Outcome J) : Option (State J W) := do
  let finished ← s.finished.insert? ⟨call.pk, call.request, outcome⟩
  some { s with calls := s.calls.erase call.pk, finished := finished }

/-- The checks before the transaction: the phase a call starts in, or the error it ends
with. -/
def opening (request : Request) : Except APIException (Phase J W) :=
  if request.idempotencyKey = "" then .ok .unguarded
  else if request.user = none then .error authenticationRequired
  else if request.idempotencyKey.length > 255 then .error invalidKey
  else .ok .lookup

/-- What the lookup answers from the record it finds. -/
def answer (keyring : Keyring) (request : Request) (record : IdempotencyRecord J) : Outcome J :=
  if record.requestHash ≠ request.requestHash keyring then .refused differentRequest
  else match record.responseStatus with
    | none => .refused inProgress
    | some status => .replayed { statusCode := status, data := record.responseBody }

def arriveCall (s : State J W) (call : UUID) (request : Request) : Option (State J W) :=
  if (s.finished.get? call).isSome ∨ (s.calls.get? call).isSome then none
  else match opening request with
    | .error exception =>
        s.finish { pk := call, request := request, phase := .lookup } (.refused exception)
    | .ok phase => do
        let calls ← s.calls.insert? { pk := call, request := request, phase := phase }
        some { s with calls := calls }

def lookupCall (keyring : Keyring) (s : State J W) (call : Call J W) (user : UUID) :
    Option (State J W) :=
  match record? s.records user (call.request.keyHash keyring) with
  | some record => s.finish call (answer keyring call.request record)
  | none => some (s.proceed call.pk .insert)

/-- `IdempotencyRecord.objects.create`: waits for a transaction that holds a conflicting
row, and is an `IntegrityError` where one is committed. -/
def insertCall (keyring : Keyring) (ttl : Int) (s : State J W) (call : Call J W) (user : UUID)
    (record : UUID) (now : Int) : Option (State J W) :=
  let keyHash := call.request.keyHash keyring
  if s.blocked user keyHash then none
  else if (record? s.records user keyHash).isSome then s.finish call (.refused inProgress)
  else some (s.proceed call.pk (.method
    { pk := record
      user := user
      keyHash := keyHash
      requestMethod := call.request.method
      requestPath := call.request.path
      requestHash := call.request.requestHash keyring
      createdAt := now
      expiresAt := now + ttl }))

def methodCall (s : State J W) (call : Call J W) (record : IdempotencyRecord J) :
    MethodResult J W → Option (State J W)
  | .raised exception _ => s.finish call (.raised exception)
  | .returned response writes =>
      match response.data with
      | none => s.finish call (.raised notSerializable)
      | some _ => some (s.proceed call.pk (.save record response writes))

/-- The bare method commits what it writes as it goes. -/
def unguardedCall (s : State J W) (call : Call J W) : MethodResult J W → Option (State J W)
  | .raised exception writes =>
      let s := { s with writes := s.writes ++ [Batch.mk call.pk writes] }
      s.finish call (.raised exception)
  | .returned response writes =>
      let s := { s with writes := s.writes ++ [Batch.mk call.pk writes] }
      s.finish call (.unguarded response)

def saveCall (s : State J W) (call : Call J W) (record : IdempotencyRecord J)
    (response : Response J) (writes : List W) : Option (State J W) := do
  let record := { record with
    responseStatus := some response.statusCode
    responseBody := response.data }
  let records ← s.records.insert? record
  let s := { s with
    records := records
    writes := s.writes ++ [Batch.mk call.pk writes]
    commits := s.commits ++ [Commit.mk call.pk call.request record response writes] }
  s.finish call (.executed response)

/-- One step of one call. -/
def step (keyring : Keyring) (ttl : Int) (s : State J W) : Event J W → Option (State J W)
  | .arrive call request => arriveCall s call request
  | .lookup call => do
      let call ← s.calls.get? call
      let user ← call.request.user
      match call.phase with
      | .lookup => lookupCall keyring s call user
      | _ => none
  | .insert call record now => do
      let call ← s.calls.get? call
      let user ← call.request.user
      match call.phase with
      | .insert => insertCall keyring ttl s call user record now
      | _ => none
  | .method call result => do
      let call ← s.calls.get? call
      match call.phase with
      | .method record => methodCall s call record result
      | .unguarded => unguardedCall s call result
      | _ => none
  | .save call => do
      let call ← s.calls.get? call
      match call.phase with
      | .save record response writes => saveCall s call record response writes
      | _ => none
  | .lose call => do
      let call ← s.calls.get? call
      s.finish call .lost

end Steps

/-! ### A call that runs alone -/

section Alone

variable {J D : Type}

/-- The record a call opens. -/
def Request.record (keyring : Keyring) (request : Request) (ttl now : Int) (user pk : UUID) :
    IdempotencyRecord J where
  pk := pk
  user := user
  keyHash := request.keyHash keyring
  requestMethod := request.method
  requestPath := request.path
  requestHash := request.requestHash keyring
  createdAt := now
  expiresAt := now + ttl

/-- The record with its response. -/
def IdempotencyRecord.answered (response : Response J) (record : IdempotencyRecord J) :
    IdempotencyRecord J :=
  { record with responseStatus := some response.statusCode, responseBody := response.data }

theorem answered_pk (response : Response J) (record : IdempotencyRecord J) :
    Keyed.pk (record.answered response) = Keyed.pk record := rfl

/-- `wrapped(view, request)`, with nothing else going on.  `D` is what `method` runs on, and
what it raises leaves everything as it was. -/
def idempotent (keyring : Keyring) (ttl now : Int) (request : Request) (pk : UUID)
    (method : D → Except Exception (Response J × D)) (records : Table (IdempotencyRecord J))
    (db : D) : Except Exception (Outcome J × Table (IdempotencyRecord J) × D) :=
  if request.idempotencyKey = "" then do
    let (response, db) ← method db
    return (.unguarded response, records, db)
  else match request.user with
    | none => throw (.api authenticationRequired)
    | some user =>
        if request.idempotencyKey.length > 255 then throw (.api invalidKey)
        else match record? records user (request.keyHash keyring) with
          | some record =>
              match answer keyring request record with
              | .refused exception => throw (.api exception)
              | outcome => return (outcome, records, db)
          | none =>
              match records.insert? (request.record keyring ttl now user pk) with
              | none => throw (.api inProgress)
              | some records => do
                  let (response, db) ← method db
                  if response.data.isNone then throw (.runtimeError notSerializable)
                  return (.executed response,
                    records.modify pk (IdempotencyRecord.answered response)
                      (answered_pk response), db)

end Alone

end DjangoFoundation.Idempotency
