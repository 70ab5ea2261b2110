/-
What a webhook delivery sends: `WebhookService.create_endpoint`, which makes the secret, and
`serialize_event`, which makes the body.

An event is here the columns that go into its body, with what the database and `datetime` see
to: an id has 128 bits, an instant is one of the calendar, and a payload is JSON, whose floats
are finite.
-/
import DjangoFoundation.Lib.Codes
import DjangoFoundation.Common.JsonText
import DjangoFoundation.Webhooks.Synchronous

namespace DjangoFoundation

open Codes (padded)

/-! ### Instants as text -/

def isLeap (year : Nat) : Bool := year % 4 = 0 && (year % 100 ≠ 0 || year % 400 = 0)

/-- `datetime._days_in_month(year, month)`. -/
def daysInMonth (year month : Nat) : Nat :=
  if month = 2 then if isLeap year then 29 else 28
  else if month ∈ [4, 6, 9, 11] then 30
  else 31

/-- A `datetime` in UTC, as Django reads it from a column. -/
structure DateTime where
  year : Nat
  month : Nat
  day : Nat
  hour : Nat
  minute : Nat
  second : Nat
  microsecond : Nat
  year_range : 1 ≤ year ∧ year ≤ 9999
  month_range : 1 ≤ month ∧ month ≤ 12
  day_range : 1 ≤ day ∧ day ≤ daysInMonth year month
  time_range : hour < 24 ∧ minute < 60 ∧ second < 60 ∧ microsecond < 1000000
  deriving DecidableEq

/-- The fraction of a second, and the offset behind it. -/
def DateTime.fraction (microsecond : Nat) : List Char :=
  if microsecond = 0 then "+00:00".toList else '.' :: (padded 6 microsecond ++ "+00:00".toList)

/-- `created_at.isoformat()`. -/
def DateTime.isoformat (t : DateTime) : String :=
  String.ofList (padded 4 t.year ++ '-' :: (padded 2 t.month ++ '-' :: (padded 2 t.day ++
    'T' :: (padded 2 t.hour ++ ':' :: (padded 2 t.minute ++ ':' :: (padded 2 t.second ++
      fraction t.microsecond))))))

example : (DateTime.mk 2026 2 3 4 5 6 70 (by decide) (by decide) (by decide) (by decide)).isoformat
    = "2026-02-03T04:05:06.000070+00:00" := by decide +kernel

namespace Webhooks

/-! ### The body -/

structure WireEvent where
  pk : UUID
  eventType : String
  payload : Json
  createdAt : DateTime
  pk_lt : pk < 2 ^ 128
  payload_proper : payload.isProper = true

/-- `WebhookService.serialize_event(event)`. -/
def serializeEvent (event : WireEvent) : String :=
  Json.dumps (.dict [("id", .str (UUID.str event.pk)), ("type", .str event.eventType),
    ("created_at", .str event.createdAt.isoformat), ("data", event.payload)])

/-- What the environment serializes for the id is this event. -/
def Environment.Serializes (env : Environment) (event : WireEvent) : Prop :=
  env.serializeEvent event.pk = Webhooks.serializeEvent event

/-! ### The secret -/

/-- `WebhookService.create_endpoint`, with the secret that `generate_token` draws: the row and
the secret the caller gets. -/
def createEndpoint (env : Environment) (x : Exchange) (pk : UUID) (nonce : Nat) (secret : String)
    (url : String) (eventTypes : List String) : Except Exception (WebhookEndpoint × String) :=
  (validateUrl env x url).map fun _ =>
    ({ pk
       url
       eventTypes := sortedSet eventTypes
       encryptedSecret := env.keyring.encryptValue "webhook-secret" nonce secret }, secret)

/-- What a delivery posts, where it comes to that. -/
def posted (env : Environment) (x : Exchange) (endpoint : WebhookEndpoint) (event : UUID) :
    Option Request :=
  match validateUrl env x endpoint.url with
  | .error _ => none
  | .ok () =>
      (env.keyring.decryptValue "webhook-secret" endpoint.encryptedSecret).map
        (request env x endpoint event)

def Request.header (r : Request) (name : String) : Option String := r.headers.lookup name

/-- The signature is that of the timestamp and the content, under the secret. -/
def verifies (env : Environment) (secret : String) (r : Request) : Prop :=
  ∃ timestamp, r.header "X-Webhook-Timestamp" = some timestamp ∧
    timestamp.toList.all Char.isDigit = true ∧
    r.header "X-Webhook-Signature" =
      some ("v1=" ++ env.hmac secret (timestamp ++ "." ++ r.content))

end Webhooks

end DjangoFoundation
