/-
`APIKeyService` (`apps/api_keys/services.py`).

A prefix is unique, and so is the id of a key; the identifiers and the secret a call draws
are its arguments.
-/
import DjangoFoundation.Database

namespace DjangoFoundation

variable (env : Environment) (now : Int)

/-- `APIKey.is_active`. -/
def APIKey.isActive (key : APIKey) (now : Int) : Bool :=
  key.revokedAt = none && key.expiresAt.all fun t => t > now

/-- `APIKey.__str__`. -/
def APIKey.str (key : APIKey) : String := key.name ++ " (" ++ key.keyPrefix ++ ")"

/-- `secrets.token_hex(6)`. -/
structure KeyPrefix where
  value : String
  length_eq : value.toList.length = 12
  hex : ∀ c ∈ value.toList, c ∈ "0123456789abcdef".toList

/-- What the serializer hands to `create`. -/
structure KeyFields where
  name : String
  scopes : List String
  expiresAt : Option Int := none
  deriving DecidableEq, Repr

theorem used_key_pk (key : APIKey) (usedAt : Int) (ipAddress : Option String) :
    Keyed.pk { key with lastUsedAt := some usedAt, lastUsedIp := ipAddress } = Keyed.pk key := rfl

theorem revoked_key_pk (key : APIKey) (revokedAt : Int) :
    Keyed.pk { key with revokedAt := some revokedAt } = Keyed.pk key := rfl

namespace APIKeyService

/-- `_hash(raw_key)`, under the pepper. -/
def hash (rawKey : String) : String := env.keyring.keyedHash "api-key" rawKey

/-- What stands between `dk_` and the first dot, in a key of that form. -/
def keyPrefix? (rawKey : String) : Option String :=
  match rawKey.toList with
  | 'd' :: 'k' :: '_' :: rest =>
      if '.' ∈ rest then some (String.ofList (rest.takeWhile fun c => c ≠ '.')) else none
  | _ => none

/-- `f"{cls.marker}_{prefix}.{secret}"`. -/
def rawKey (keyPrefix : KeyPrefix) (secret : String) : String :=
  "dk_" ++ keyPrefix.value ++ "." ++ secret

/-- The row under a prefix with its owner, where the checks let it through. -/
def admitted? (db : Database) (rawKey keyPrefix : String) : Option (APIKey × User) := do
  let key ← db.apiKeys.get? keyPrefix
  let owner ← db.users.get? key.owner
  if !key.isActive now || !canAuthenticateNow db.bans now owner ||
      key.keyHash ≠ hash env rawKey then
    none
  else some (key, owner)

/-- `.update(last_used_at=timezone.now(), last_used_ip=ip_address)`. -/
def noteUse (db : Database) (key : APIKey) (ipAddress : Option String) : Database :=
  { db with
    apiKeys := db.apiKeys.modify key.keyPrefix
      (fun k => { k with lastUsedAt := some now, lastUsedIp := ipAddress })
      fun k => used_key_pk k now ipAddress }

/-- The key and its owner, or nobody; and the database after it.  The prefix is a parameter of
the query, whatever stands in it. -/
def authenticate (db : Database) (rawKey : String) (ipAddress : Option String) :
    Except Exception (Option (APIKey × User)) × Database :=
  match keyPrefix? rawKey with
  | none => (.ok none, db)
  | some keyPrefix =>
      if !env.stores keyPrefix then (.error .dataError, db)
      else match admitted? env now db rawKey keyPrefix with
        | none => (.ok none, db)
        | some (key, owner) => (.ok (some (key, owner)), noteUse now db key ipAddress)

/-- `APIKey.objects.get(pk=..)`, and the same within the keys of an owner. -/
def find? (db : Database) (p : APIKey → Bool) : Option APIKey := db.apiKeys.rows.find? p

/-- `APIKey.objects.create`, of a row under a free prefix and a free id. -/
def insert? (db : Database) (key : APIKey) : Option Database :=
  if (find? db fun other => other.pk = key.pk).isSome then none
  else (db.apiKeys.insert? key).map fun apiKeys => { db with apiKeys := apiKeys }

/-- The row of a new key. -/
def row (owner : UUID) (fields : KeyFields) (pk : UUID) (keyPrefix : KeyPrefix)
    (secret : String) : APIKey where
  pk := pk
  keyPrefix := keyPrefix.value
  owner := owner
  name := fields.name
  keyHash := hash env (rawKey keyPrefix secret)
  scopes := sortedSet fields.scopes
  createdAt := now
  expiresAt := fields.expiresAt

/-- The new key and its raw value, with the database after it. -/
def create (db : Database) (owner actor : UUID) (client : Client) (fields : KeyFields) (pk : UUID)
    (keyPrefix : KeyPrefix) (secret : String) : Except Exception (APIKey × String × Database) :=
  let apiKey := row env now owner fields pk keyPrefix secret
  match insert? db apiKey with
  | none => .error .integrity
  | some db =>
      let db := db.record {
        eventType := .apiKeyCreated
        user := some owner
        client := client
        metadata := [("prefix", keyPrefix.value)] }
      let db := db.auditLog {
        action := "api_key.created"
        target := UUID.str apiKey.pk
        actor := some actor
        targetType := "api_keys.apikey"
        targetRepr := apiKey.str
        after := sanitize [("name", .text fields.name), ("scopes", .texts apiKey.scopes),
          ("prefix", .text keyPrefix.value)]
        client := client }
      .ok (apiKey, rawKey keyPrefix secret, db)

def revoke (db : Database) (pk actor : UUID) (client : Client) : Except Exception Database :=
  match find? db fun key => key.pk = pk with
  | none => .error .doesNotExist
  | some locked =>
      if locked.revokedAt.isSome then .ok db
      else
        let db := { db with
          apiKeys := db.apiKeys.modify locked.keyPrefix
            (fun key => { key with revokedAt := some now }) fun key => revoked_key_pk key now }
        let db := db.record {
          eventType := .apiKeyRevoked
          user := some locked.owner
          client := client
          metadata := [("prefix", locked.keyPrefix)] }
        .ok (db.auditLog {
          action := "api_key.revoked"
          target := UUID.str locked.pk
          actor := some actor
          targetType := "api_keys.apikey"
          targetRepr := locked.str
          after := sanitize [("revoked_at", .instant now)]
          client := client })

end APIKeyService

end DjangoFoundation
