/-
`APIKeyViewSet` (`apps/api/views/api_keys.py`) with its serializer, behind authentication
and inside `idempotent()`, and runs of its requests beside those to any other view.

`parse` is the request parser with the declared fields of `APIKeySerializer`: what it makes
of a body, or the error it raises.  A call carries the identifiers and the secret it draws.
-/
import Mathlib.Logic.Equiv.Basic
import DjangoFoundation.Lib.Run
import DjangoFoundation.Api.Views
import DjangoFoundation.Core.Idempotency

namespace DjangoFoundation

namespace APIKeys

variable (env : Environment) (jwt : Jwt) (settings : Settings)
  (parse : List UInt8 → Except Exception KeyFields) (now : Int)

/-! ### `APIKeySerializer` -/

/-- `APIKeySerializer(api_key).data`. -/
structure Data where
  id : UUID
  name : String
  keyPrefix : String
  scopes : List String
  createdAt : Int
  lastUsedAt : Option Int
  lastUsedIp : Option String
  expiresAt : Option Int
  revokedAt : Option Int
  isActive : Bool
  deriving DecidableEq, Repr

def data (key : APIKey) : Data where
  id := key.pk
  name := key.name
  keyPrefix := key.keyPrefix
  scopes := key.scopes
  createdAt := key.createdAt
  lastUsedAt := key.lastUsedAt
  lastUsedIp := key.lastUsedIp
  expiresAt := key.expiresAt
  revokedAt := key.revokedAt
  isActive := key.isActive now

/-- What `validate_scopes` and `validate_expires_at` raise, by field. -/
def fieldErrors (fields : KeyFields) : List (String × String) :=
  let unknown := fields.scopes.filter fun scope => scope ∉ settings.apiKeyAvailableScopes
  (if unknown ≠ [] then
    [("scopes", "Unknown scopes: " ++ ", ".intercalate (sortedSet unknown))] else []) ++
  if fields.expiresAt.any fun t => t ≤ now then
    [("expires_at", "Expiry must be in the future.")] else []

/-- `serializer.is_valid(raise_exception=True)`, and `validated_data` after it. -/
def validated (fields : KeyFields) : Except Exception KeyFields :=
  match fieldErrors settings now fields with
  | [] => .ok { fields with scopes := sortedSet fields.scopes }
  | errors => .error (.invalid errors)

/-! ### `create` -/

/-- The data of a new key with `data["key"] = raw`. -/
structure CreatedData extends Data where
  key : String
  deriving DecidableEq, Repr

/-- `success_response(data)`, of its data. -/
structure Body where
  success : Bool := true
  data : CreatedData
  deriving DecidableEq, Repr

/-- A `POST` to the list, with what is drawn for it. -/
structure Create where
  request : Request
  /-- The `Idempotency-Key` header, empty where there is none. -/
  idempotencyKey : String := ""
  path : List UInt8
  body : List UInt8
  /-- The ids of an idempotency record and of a key. -/
  record : UUID
  pk : UUID
  keyPrefix : KeyPrefix
  secret : String

/-- The raw key of the draw. -/
def Create.raw (c : Create) : String := APIKeyService.rawKey c.keyPrefix c.secret

def featureDisabled : APIException where
  detail := "API keys are disabled."
  code := "FEATURE_DISABLED"
  statusCode := 404

/-- `create`, inside its decorator. -/
def create (c : Create) (user : UUID) (db : Database) :
    Except Exception (Idempotency.Response Body × Database) := do
  if !settings.enableAPIKeys then throw (.api featureDisabled)
  let fields ← parse c.body
  let fields ← validated settings now fields
  let (apiKey, raw, db) ← APIKeyService.create env now db user user c.request.client fields c.pk
    c.keyPrefix c.secret
  return ({ statusCode := 201, data := some { data := { data now apiKey with key := raw } } }, db)

/-! ### Runs -/

/-- The database, the records of `idempotent()`, and the time of the last call. -/
structure State where
  clock : Int
  db : Database
  records : Table (Idempotency.IdempotencyRecord Body) := ∅

/-- `timedelta(hours=24)`. -/
def ttl : Int := minutes (60 * 24)

/-- What the decorator reads of the request. -/
def Create.guarded (c : Create) (user : UUID) : Idempotency.Request where
  user := some user
  idempotencyKey := c.idempotencyKey
  method := [0x50, 0x4f, 0x53, 0x54]
  path := c.path
  body := c.body

/-- The request to create a key: authenticated, permitted, and then the view. -/
def Create.run (s : State) (c : Create) : State :=
  match principal env jwt settings now s.db c.request with
  | (none, r) => { s with db := r.db }
  | (some user, r) =>
      match Idempotency.idempotent env.keyring ttl now (c.guarded user.pk) c.record
          (create env settings parse now c user.pk) s.records r.db with
      | .error _ => { s with db := r.db }
      | .ok (_, records, db) => { s with db := db, records := records }

/-- `revoke`, of a key among those of the user.  The routes are there where API keys are. -/
def revoke (db : Database) (request : Request) (pk : UUID) : Database :=
  match principal env jwt settings now db request with
  | (none, r) => r.db
  | (some user, r) =>
      if !settings.enableAPIKeys then r.db
      else match APIKeyService.find? r.db fun key => key.owner = user.pk ∧ key.pk = pk with
        | none => r.db
        | some apiKey =>
            r.db.committed (APIKeyService.revoke now r.db apiKey.pk user.pk request.client)

inductive Call
  /-- A request to any other view, and the list and detail of keys. -/
  | visit (request : Request)
  | create (create : Create)
  | revoke (request : Request) (pk : UUID)

def Call.run (s : State) : Call → State
  | .visit request => { s with db := (principal env jwt settings now s.db request).2.db }
  | .create c => c.run env jwt settings parse now s
  | .revoke request pk => { s with db := APIKeys.revoke env jwt settings now s.db request pk }

def step (s : State) (e : Int × Call) : Option State :=
  if s.clock ≤ e.1 then some { e.2.run env jwt settings parse e.1 s with clock := e.1 } else none

/-! ### Two runs -/

/-- The request of a client who holds the key `raw'` in place of `raw`. -/
def presenting (raw raw' : String) (request : Request) : Request :=
  { request with apiKey := request.apiKey.map (Equiv.swap raw raw') }

/-- The same call, by clients who hold `raw'` in place of `raw`. -/
def Call.presenting (raw raw' : String) : Call → Call
  | .visit request => .visit (APIKeys.presenting raw raw' request)
  | .create c => .create { c with request := APIKeys.presenting raw raw' c.request }
  | .revoke request pk => .revoke (APIKeys.presenting raw raw' request) pk

/-- The same call, by clients who hold `raw'` in place of `raw`. -/
def swapped (raw raw' : String) (e : Int × Call) : Int × Call := (e.1, e.2.presenting raw raw')

theorem rehashed_pk (keyHash : String) (key : APIKey) :
    Keyed.pk { key with keyHash := keyHash } = Keyed.pk key := rfl

/-- The database with another hash for the key of a prefix. -/
def rehash (keyPrefix keyHash : String) (db : Database) : Database :=
  { db with
    apiKeys := db.apiKeys.modify keyPrefix (fun key => { key with keyHash := keyHash })
      (rehashed_pk keyHash) }

/-- The same request, with another secret drawn. -/
def Create.redraw (c : Create) (secret : String) : Create := { c with secret := secret }

/-- Everything at rest but the hash of one key. -/
def State.withoutHash (keyPrefix : KeyPrefix) (s : State) : State :=
  { s with db := rehash keyPrefix.value "" s.db }

end APIKeys

end DjangoFoundation
