/-
Webhooks without Celery: `delay` of `common/tasks.py` calls the task, so a round of
`dispatch_pending_webhooks` delivers inline, and what a delivery raises it raises too.

`WebhookService.validate_url`, `signature_headers` and the exchange are taken apart here into
the ways they end, which `Attempt` names.  What is beyond the process is an argument for each
delivery: the time it takes, what the resolver answers and what the HTTP client comes to.
-/
import DjangoFoundation.Common.Crypto
import DjangoFoundation.Common.Url
import DjangoFoundation.Webhooks.Tasks

namespace DjangoFoundation.Webhooks

/-- What `socket.getaddrinfo` comes to. -/
inductive Resolution
  /-- Its addresses, by `ipaddress.ip_address(address).is_global`. -/
  | addresses (isGlobal : List Bool)
  | gaierror
  /-- Anything else it raises, such as a `UnicodeError`. -/
  | other (name : String)
  deriving DecidableEq, Repr

structure Request where
  url : String
  content : String
  headers : List (String × String)
  deriving DecidableEq, Repr

/-- What is configured and what is imported. -/
structure Environment where
  /-- `settings.APP_ENV == "production"`. -/
  production : Bool
  appName : String
  unicode : Unicode
  urls : Url.Tables
  keyring : Keyring
  /-- `serialize_event(event)`: JSON of an event, which is not changed after it is created. -/
  serializeEvent : UUID → String
  /-- `hmac.new(key, message, hashlib.sha256).hexdigest()`. -/
  hmac : (key message : String) → String

/-- What is beyond the process, in one delivery. -/
structure Exchange where
  /-- Before the reservation, and from there to the end of the exchange. -/
  waited : Nat
  took : Nat
  /-- `int(time.time())`. -/
  timestamp : Nat
  getaddrinfo : (host : String) → (port : Nat) → Resolution
  /-- `client.post(url, content=body, headers=headers)`. -/
  post : Request → Attempt

/-! ### The parts of the `try` statement -/

def ValueError : Exception := .other "ValueError"

def allowedSchemes (env : Environment) : List String :=
  if env.production then ["https"] else ["http", "https"]

/-- The two checks before anything is resolved. -/
def accepts (env : Environment) (parsed : Url.ParseResult) : Bool :=
  String.ofList parsed.scheme ∈ allowedSchemes env &&
    (parsed.hostname env.unicode ≠ [] && parsed.username = [] && parsed.password = [])

/-- `socket.getaddrinfo(parsed.hostname, parsed.port or 443)`. -/
def resolve (env : Environment) (x : Exchange) (parsed : Url.ParseResult) (port : Option Nat) :
    Resolution :=
  x.getaddrinfo (String.ofList (parsed.hostname env.unicode))
    ((port.filter fun n => n ≠ 0).getD 443)

def validateUrl (env : Environment) (x : Exchange) (url : String) : Except Exception Unit :=
  match Url.urlparse env.urls url with
  | none => .error ValueError
  | some parsed =>
      if !accepts env parsed then .error .validationError
      else match parsed.port with
        -- evaluated for the call, and not a `socket.gaierror`
        | none => .error ValueError
        | some port =>
            match resolve env x parsed port with
            | .gaierror => .error .validationError
            | .other name => .error (.other name)
            | .addresses isGlobal =>
                if isGlobal.all id then .ok () else .error .validationError

/-- `signature_headers`, with the secret decrypted. -/
def signatureHeaders (env : Environment) (x : Exchange) (event : UUID) (secret body : String) :
    List (String × String) :=
  let timestamp := toString x.timestamp
  [("Content-Type", "application/json"),
    ("User-Agent", env.appName ++ "-Webhooks/1.0"),
    ("X-Webhook-ID", UUID.str event),
    ("X-Webhook-Timestamp", timestamp),
    ("X-Webhook-Signature", "v1=" ++ env.hmac secret (timestamp ++ "." ++ body))]

def request (env : Environment) (x : Exchange) (endpoint : WebhookEndpoint) (event : UUID)
    (secret : String) : Request where
  url := endpoint.url
  content := env.serializeEvent event
  headers := signatureHeaders env x event secret (env.serializeEvent event)

/-- What the `try` statement comes to, up to the answer. -/
def attempt (env : Environment) (x : Exchange) (endpoint : WebhookEndpoint) (event : UUID) :
    Attempt :=
  match validateUrl env x endpoint.url with
  | .error exception => .raised exception
  | .ok () =>
      match env.keyring.decryptValue "webhook-secret" endpoint.encryptedSecret with
      | none => .raised ValueError
      | some secret => x.post (request env x endpoint event secret)

/-! ### A round -/

/-- `DoesNotExist`, of a `get()` that finds no row. -/
def DoesNotExist : Exception := .other "DoesNotExist"

/-- What leaves the task where nothing is saved of an attempt: the exception that has escaped
the handler, or that of the last save. -/
def Attempt.exception : Attempt → Exception
  | .raised exception => exception
  | .response _ _ => DataError

theorem pk_saveResult (copy row : WebhookDelivery) :
    Keyed.pk (saveResult copy row) = Keyed.pk row := rfl

/-- The columns a reservation saves, in a row. -/
def saveReservation (copy row : WebhookDelivery) : WebhookDelivery :=
  { row with
    attemptCount := copy.attemptCount
    lastAttemptAt := copy.lastAttemptAt
    status := copy.status }

theorem pk_saveReservation (copy row : WebhookDelivery) :
    Keyed.pk (saveReservation copy row) = Keyed.pk row := rfl

/-- `deliver_webhook` from its reservation on, of the row it has reserved: what escapes it, and
what it leaves. -/
def deliverReserved (env : Environment) (settings : Settings) (x : Exchange) (s : State)
    (endpoint : WebhookEndpoint) (delivery : WebhookDelivery) : Option Exception × State :=
  let outcome := attempt env x endpoint delivery.event
  match saved? settings s.clock delivery outcome with
  | none => (some outcome.exception, s)
  | some copy =>
      let deliveries := s.deliveries.modify copy.pk (saveResult copy) (pk_saveResult copy)
      (none, { s with deliveries := deliveries })

/-- `deliver_webhook(delivery_id)`. -/
def deliverWebhook (env : Environment) (settings : Settings) (x : Exchange) (s : State)
    (deliveryId : UUID) : Option Exception × State :=
  let now := s.clock + x.waited
  match s.deliveries.get? deliveryId with
  | none => (some DoesNotExist, { s with clock := now })
  | some row =>
      match s.endpoints.get? row.endpoint with
      | none => (some DoesNotExist, { s with clock := now })
      | some endpoint =>
          match reserve settings now row with
          | .error exception => (some exception, { s with clock := now })
          | .ok none => (none, { s with clock := now })
          | .ok (some delivery) =>
              let deliveries := s.deliveries.modify deliveryId (saveReservation delivery)
                (pk_saveReservation delivery)
              deliverReserved env settings x
                { s with clock := now + x.took, deliveries := deliveries } endpoint delivery

/-- `for delivery_id in ids: deliver_webhook.delay(str(delivery_id))`. -/
def deliverAll (env : Environment) (settings : Settings) (exchange : UUID → Exchange) :
    State → List UUID → Option Exception × State
  | s, [] => (none, s)
  | s, deliveryId :: ids =>
      match deliverWebhook env settings (exchange deliveryId) s deliveryId with
      | (some exception, s) => (some exception, s)
      | (none, s) => deliverAll env settings exchange s ids

/-- `dispatch_pending_webhooks()`. -/
def dispatchInline (env : Environment) (settings : Settings) (exchange : UUID → Exchange)
    (s : State) : Option Exception × State :=
  deliverAll env settings exchange s
    ((dispatchPendingWebhooks settings s.clock s).map WebhookDelivery.pk)

/-- The event has subscribers, so the commit of its `emit` is to dispatch. -/
def State.hasSubscribers (s : State) (event : WebhookEvent) : Bool :=
  s.endpoints.rows.any fun endpoint =>
    endpoint.isActive && endpoint.eventTypes.contains event.eventType

/-- `WebhookService.emit`, with what its hook raises after the commit. -/
def emitInline (env : Environment) (settings : Settings) (exchange : UUID → Exchange) (s : State)
    (event : WebhookEvent) (draw : UUID → UUID) : Option (Option Exception × State) :=
  (emit s event draw).map fun s' =>
    if settings.enableWebhooks && s.hasSubscribers event then
      dispatchInline env settings exchange s'
    else (none, s')

end DjangoFoundation.Webhooks
