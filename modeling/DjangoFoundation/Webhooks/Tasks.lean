/-
Outgoing webhooks: `apps/webhooks/models.py`, `tasks.py` and `WebhookService.emit`.

An event is written together with one pending delivery for each subscribed
endpoint.  `dispatch_pending_webhooks` queues a `deliver_webhook` task for every
delivery that wants one.  A task runs in three stages that nothing holds together:
a transaction that reserves the row under its lock, the HTTP exchange with no lock
held, and a last unlocked save of the copy of the row it has kept in memory since.

`State` is the database and everything in flight beside it: the tasks on the queue
and the executions between their reservation and their last save.  `step` is one
statement group at one time; what other processes do in between is other steps.

The database has its say in both saves: it takes no count of attempts beyond its
column (SQLite takes any), and no text of an answer that it cannot store.  Either refusal is raised
outside the `try` statement, and leaves the row as it was.
-/
import DjangoFoundation.Lib.Run
import DjangoFoundation.Lib.Table
import DjangoFoundation.Common.Base

namespace DjangoFoundation.Webhooks

/-! ### Models -/

structure WebhookEndpoint where
  pk : UUID
  url : String
  eventTypes : List String
  encryptedSecret : String
  isActive : Bool := true
  deriving DecidableEq, Repr

structure WebhookEvent where
  pk : UUID
  eventType : String
  payload : String
  createdAt : Int
  deriving DecidableEq, Repr

inductive DeliveryStatus
  | pending
  | processing
  | succeeded
  | failed
  | abandoned
  deriving DecidableEq, Repr

structure WebhookDelivery where
  pk : UUID
  endpoint : UUID
  event : UUID
  status : DeliveryStatus := .pending
  attemptCount : Nat := 0
  responseCode : Option Nat := none
  responseBody : String := ""
  lastAttemptAt : Option Int := none
  nextRetryAt : Option Int := none
  deriving DecidableEq, Repr

instance : Keyed WebhookEndpoint UUID := ⟨WebhookEndpoint.pk⟩
instance : Keyed WebhookEvent UUID := ⟨WebhookEvent.pk⟩
instance : Keyed WebhookDelivery UUID := ⟨WebhookDelivery.pk⟩

/-- A delivery no task touches any more. -/
def DeliveryStatus.Finished (status : DeliveryStatus) : Prop :=
  status = .succeeded ∨ status = .abandoned

instance (status : DeliveryStatus) : Decidable status.Finished :=
  inferInstanceAs (Decidable (_ ∨ _))

/-- The database of `DATABASES`, as far as deliveries meet its limits, and the flag. -/
structure Settings where
  enableWebhooks : Bool
  /-- The database takes the text. -/
  stores : String → Bool
  /-- The database takes the number in a `PositiveSmallIntegerField`. -/
  counts : Nat → Bool

/-- The largest number PostgreSQL takes in a `PositiveSmallIntegerField`. -/
def maxAttemptCount : Nat := 32767

/-- Webhooks are on, over PostgreSQL, which takes no text with a NUL in it. -/
def Settings.postgresql : Settings where
  enableWebhooks := true
  stores text := '\x00' ∉ text.toList
  counts number := number ≤ maxAttemptCount

/-! ### The stages of `deliver_webhook`

A reservation and a last save with the exchange between them, each a function of the copy
of the row that the task holds.
-/

/-- What leaves the code as an exception.  The handler of the exchange names the first two;
any other class escapes it. -/
inductive Exception
  | httpError
  | validationError
  | other (name : String)
  deriving DecidableEq, Repr

/-- `DataError`, of a value its column does not take. -/
def DataError : Exception := .other "DataError"

/-- How long a reservation keeps other tasks away. -/
def reservationAge : Int := minutes 15

/-- The reservation transaction on the locked row: the row it saves, or `none` where
the task returns early. -/
def reserve (settings : Settings) (now : Int) (delivery : WebhookDelivery) :
    Except Exception (Option WebhookDelivery) :=
  if delivery.status = .succeeded ∨ delivery.status = .abandoned then .ok none
  else if delivery.status = .processing ∧
      delivery.lastAttemptAt.any (fun t => t > now - reservationAge) then .ok none
  else if !settings.counts (delivery.attemptCount + 1) then
    .error DataError -- of the save; the transaction is rolled back
  else .ok (some { delivery with
    attemptCount := delivery.attemptCount + 1
    lastAttemptAt := some now
    status := .processing })

/-- What URL validation, serialisation, signing and the HTTP client come to. -/
inductive Attempt
  | response (statusCode : Nat) (text : String)
  | raised (exception : Exception)
  deriving DecidableEq, Repr

/-- What of the text of an answer goes into the row. -/
def storedBody (text : String) : String := String.ofList (text.toList.take 4096)

/-- Seconds until the attempt after number `attemptCount`. -/
def backoffSeconds (attemptCount : Nat) : Nat :=
  min 3600 (30 * 2 ^ (attemptCount - 1))

/-- The `except (httpx.HTTPError, ValidationError)` handler. -/
def handleFailure (now : Int) (delivery : WebhookDelivery) : WebhookDelivery :=
  if delivery.attemptCount ≥ 8 then
    { delivery with status := .abandoned, nextRetryAt := none }
  else
    { delivery with
      status := .failed
      nextRetryAt := some (now + seconds (backoffSeconds delivery.attemptCount)) }

/-- The in-memory delivery after the `try` statement, or `none` where an exception
escapes it. -/
def settle (now : Int) (delivery : WebhookDelivery) : Attempt → Option WebhookDelivery
  | .response statusCode text =>
      let delivery := { delivery with
        responseCode := some statusCode
        responseBody := storedBody text }
      if 200 ≤ statusCode ∧ statusCode < 300 then
        some { delivery with status := .succeeded, nextRetryAt := none }
      else
        -- `raise httpx.HTTPStatusError`, which is an `HTTPError`
        some (handleFailure now delivery)
  | .raised .httpError => some (handleFailure now delivery)
  | .raised .validationError => some (handleFailure now delivery)
  | .raised (.other _) => none

/-- The last save: four columns of the copy in memory, over whatever the row holds. -/
def saveResult (copy row : WebhookDelivery) : WebhookDelivery :=
  { row with
    responseCode := copy.responseCode
    responseBody := copy.responseBody
    status := copy.status
    nextRetryAt := copy.nextRetryAt }

/-- What the last save raises for: the database refuses the text of the copy.  The one the
row was read with is there already. -/
def saveRaises (settings : Settings) (delivery copy : WebhookDelivery) : Bool :=
  copy.responseBody ≠ delivery.responseBody && !settings.stores copy.responseBody

/-- The copy that is saved, or `none` where nothing is: the `try` statement or the save
raises. -/
def saved? (settings : Settings) (now : Int) (delivery : WebhookDelivery) (attempt : Attempt) :
    Option WebhookDelivery :=
  (settle now delivery attempt).filter fun copy => !saveRaises settings delivery copy

/-! ### The system -/

/-- A `deliver_webhook` task on the queue.  The message itself is the id alone; the
row as the dispatching round read it is kept beside it as history. -/
structure Message where
  deliveryId : UUID
  selected : WebhookDelivery
  deriving DecidableEq, Repr

/-- A `deliver_webhook` execution between its reservation and its last save: the
message it was started by, and the copy of the row it holds in memory. -/
structure Execution where
  pk : UUID
  message : Message
  delivery : WebhookDelivery
  deriving DecidableEq, Repr

instance : Keyed Execution UUID := ⟨Execution.pk⟩

structure State where
  endpoints : Table WebhookEndpoint
  events : Table WebhookEvent
  deliveries : Table WebhookDelivery
  queue : List Message
  executions : Table Execution
  clock : Int

/-- No event emitted yet, over any set of endpoints. -/
def State.init (endpoints : Table WebhookEndpoint) (clock : Int) : State where
  endpoints := endpoints
  events := ∅
  deliveries := ∅
  queue := []
  executions := ∅
  clock := clock

/-- `endpoint__is_active=True`. -/
def State.endpointActive (s : State) (delivery : WebhookDelivery) : Bool :=
  (s.endpoints.get? delivery.endpoint).any (·.isActive)

/-- The first selection of `dispatch_pending_webhooks`. -/
def State.selectsPending (s : State) (delivery : WebhookDelivery) : Bool :=
  delivery.status = .pending ∧ s.endpointActive delivery ∧ delivery.nextRetryAt = none

/-- The second: `next_retry_at__lte=now`. -/
def State.selectsFailed (s : State) (now : Int) (delivery : WebhookDelivery) : Bool :=
  delivery.status = .failed ∧ delivery.nextRetryAt.any (fun t => t ≤ now) ∧
    s.endpointActive delivery

/-- The third: `last_attempt_at__lt=now - timedelta(minutes=15)`. -/
def State.selectsStale (s : State) (now : Int) (delivery : WebhookDelivery) : Bool :=
  delivery.status = .processing ∧
    delivery.lastAttemptAt.any (fun t => t < now - reservationAge) ∧ s.endpointActive delivery

/-- The deliveries a round selects.  The queries have no `ORDER BY`; the table's order
stands for the one the database returns. -/
def dispatchPendingWebhooks (settings : Settings) (now : Int) (s : State) :
    List WebhookDelivery :=
  if settings.enableWebhooks then
    let rows := s.deliveries.rows
    let ids := (rows.filter s.selectsPending).take 100
    let ids := ids ++ (rows.filter (s.selectsFailed now)).take (100 - ids.length)
    ids ++ (rows.filter (s.selectsStale now)).take (100 - ids.length)
  else []

/-- `WebhookService.emit`: the event, and a pending delivery for every active endpoint
that declares its type.  `draw` is the key each delivery is given. -/
def emit (s : State) (event : WebhookEvent) (draw : UUID → UUID) : Option State := do
  let events ← s.events.insert? event
  let endpoints := s.endpoints.rows.filter fun endpoint =>
    endpoint.isActive && endpoint.eventTypes.contains event.eventType
  let deliveries ← endpoints.foldlM (fun (t : Table WebhookDelivery) endpoint =>
    t.insert? { pk := draw endpoint.pk, endpoint := endpoint.pk, event := event.pk }) s.deliveries
  some { s with events := events, deliveries := deliveries }

inductive Event
  /-- A committed `emit`. -/
  | emit (event : WebhookEvent) (draw : UUID → UUID)
  /-- A round of `dispatch_pending_webhooks`; Beat starts one a minute, and so does the
  commit of an `emit`. -/
  | dispatch
  /-- The `i`-th task on the queue starts, and runs its reservation transaction. -/
  | start (i : Nat) (execution : UUID)
  /-- An execution gets to the end of its `try` statement, and saves if it gets past it. -/
  | finish (execution : UUID) (attempt : Attempt)
  /-- A worker process dies with the reservation it holds.  Messages are acknowledged
  late, so the broker may hand this one out again. -/
  | crash (execution : UUID) (redelivered : Bool)

/-- `deliver_webhook` up to the commit of its reservation. -/
def startDelivery (settings : Settings) (now : Int) (s : State) (i : Nat) (execution : UUID) :
    Option State := do
  let message ← s.queue[i]?
  let s := { s with queue := s.queue.eraseIdx i }
  match s.deliveries.get? message.deliveryId with
  | none => some s -- `WebhookDelivery.DoesNotExist`
  | some row =>
      match reserve settings now row with
      | .error _ => some s
      | .ok none => some s
      | .ok (some reserved) =>
          let executions ← s.executions.insert?
            { pk := execution, message := message, delivery := reserved }
          some { s with
            deliveries := s.deliveries.modify message.deliveryId fun d => { d with
              attemptCount := reserved.attemptCount
              lastAttemptAt := reserved.lastAttemptAt
              status := reserved.status }
            executions := executions }

/-- `deliver_webhook` from the end of the exchange on. -/
def finishDelivery (settings : Settings) (now : Int) (s : State) (execution : UUID)
    (attempt : Attempt) : Option State := do
  let running ← s.executions.get? execution
  let s := { s with executions := s.executions.erase execution }
  match saved? settings now running.delivery attempt with
  | none => some s
  | some copy =>
      some { s with
        deliveries := s.deliveries.modify copy.pk (saveResult copy) }

/-- What an event does at a time the clock has reached. -/
def apply (settings : Settings) (now : Int) (s : State) : Event → Option State
  | .emit event draw => emit s event draw
  | .dispatch => some { s with
      queue := s.queue ++ (dispatchPendingWebhooks settings now s).map fun d => ⟨d.pk, d⟩ }
  | .start i execution => startDelivery settings now s i execution
  | .finish execution attempt => finishDelivery settings now s execution attempt
  | .crash execution redelivered => do
      let running ← s.executions.get? execution
      some { s with
        executions := s.executions.erase execution
        queue := if redelivered then s.queue ++ [running.message] else s.queue }

/-- The copy a step reserves, where it is a task that gets past its early returns. -/
def reserved? (settings : Settings) (s : State) : Int × Event → Option WebhookDelivery
  | (now, .start i _) => do
      let message ← s.queue[i]?
      let row ← s.deliveries.get? message.deliveryId
      (reserve settings now row).toOption.join
  | _ => none

/-- One step at a time no earlier than the last one. -/
def step (settings : Settings) (s : State) : Int × Event → Option State
  | (now, event) =>
      if s.clock ≤ now then apply settings now { s with clock := now } event else none

end DjangoFoundation.Webhooks
