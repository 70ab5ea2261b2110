/-
The tables the account services share, and the environment they run in.

A service call is a function on a `Database`: what it returns is what its transaction
commits, and an exception leaves the database as it was.
-/
import DjangoFoundation.Common.Crypto
import DjangoFoundation.Common.Exceptions
import DjangoFoundation.Common.Logging
import DjangoFoundation.Common.Text
import DjangoFoundation.Accounts.Models
import DjangoFoundation.Authentication.Models

namespace DjangoFoundation

structure APIKey where
  pk : UUID
  keyPrefix : String
  owner : UUID
  name : String
  keyHash : String
  scopes : List String
  createdAt : Int
  expiresAt : Option Int
  revokedAt : Option Int := none
  lastUsedAt : Option Int := none
  lastUsedIp : Option String := none
  deriving DecidableEq, Repr

/-- `prefix` is unique, and what keys are looked up by. -/
instance : Keyed APIKey String := ⟨APIKey.keyPrefix⟩

inductive SecurityEventType
  | loginSuccess
  | loginFailed
  | newDeviceLogin
  | passwordChanged
  | passwordReset
  | emailChanged
  | twoFactorEnabled
  | twoFactorDisabled
  | recoveryCodeUsed
  | sessionRevoked
  | accountLocked
  | accountUnlocked
  | accountDeleted
  | apiKeyCreated
  | apiKeyRevoked
  deriving DecidableEq, Repr

/-- What a record keeps of the request it is made in: `get_client_ip(request)`, the
`User-Agent` header and the request's id. -/
structure Client where
  ipAddress : Option String := none
  userAgent : String := ""
  requestId : String := ""
  deriving DecidableEq, Repr

structure SecurityEvent where
  eventType : SecurityEventType
  user : Option UUID
  client : Client := {}
  metadata : List (String × String) := []
  deriving DecidableEq, Repr

structure AuditLog where
  action : String
  target : String
  actor : Option UUID
  targetType : String := ""
  targetRepr : String := ""
  after : List (String × LogValue) := []
  client : Client := {}
  deriving DecidableEq, Repr

/-- A call of `EmailService.enqueue` made by a commit. -/
structure Email where
  template : String
  recipient : String
  deriving DecidableEq, Repr

/-- An `ApplicationEvent` published by a commit. -/
structure ApplicationEvent where
  name : String
  target : UUID
  deriving DecidableEq, Repr

structure Database where
  users : Table User := ∅
  profiles : Table UserProfile := ∅
  preferences : Table UserPreferences := ∅
  securitySettings : Table UserSecuritySettings := ∅
  bans : Table UserBan := ∅
  oneTimeTokens : Table OneTimeToken := ∅
  userSessions : Table UserSession := ∅
  sessions : Table Session := ∅
  outstandingTokens : Table OutstandingToken := ∅
  blacklistedTokens : Table BlacklistedToken := ∅
  twoFactorCredentials : Table TwoFactorCredential := ∅
  recoveryCodes : Table RecoveryCode := ∅
  apiKeys : Table APIKey := ∅
  securityEvents : List SecurityEvent := []
  auditLogs : List AuditLog := []
  outbox : List Email := []
  published : List ApplicationEvent := []

/-- What the services find outside the code base: the secret and the password hashers,
Unicode, the database's comparisons of text, and the password validators. -/
structure Environment where
  keyring : Keyring
  unicode : Unicode
  /-- `LOWER(value)`, of the unique constraints. -/
  lowered : String → String
  /-- `column__iexact=value`. -/
  iexact : (column value : String) → Bool
  /-- `validate_password(password, user=user)` raises nothing. -/
  acceptsPassword : (password : String) → User → Bool
  /-- The database takes the text; PostgreSQL takes none with a NUL in it. -/
  stores : String → Bool := fun text => '\x00' ∉ text.toList

/-- An environment of lower-case ASCII text and no password rules. -/
def Environment.plain : Environment where
  keyring := .plain
  unicode := {
    spaceTable := fun _ => false
    lowerTable := fun c => [c]
    casefoldTable := fun c => [c] }
  lowered value := value
  iexact column value := column = value
  acceptsPassword _ _ := true

/-- A user of it. -/
def ada : User where
  pk := 1
  password := "plain$salt$secret"
  email := "ada@example.org"
  username := "ada"
  status := .active
  emailVerifiedAt := some 0

namespace Database

/-! ### Records written on the way -/

/-- `SecurityEventService.record`. -/
def securityEvent (db : Database) (eventType : SecurityEventType) (user : UUID) : Database :=
  { db with securityEvents := db.securityEvents ++ [{ eventType := eventType, user := some user }] }

/-- `SecurityEventService.record`, of all its columns. -/
def record (db : Database) (event : SecurityEvent) : Database :=
  { db with securityEvents := db.securityEvents ++ [event] }

/-- `AuditService.record`. -/
def audit (db : Database) (action target : String) (actor : Option UUID) : Database :=
  { db with
    auditLogs := db.auditLogs ++ [{ action := action, target := target, actor := actor }] }

/-- `AuditService.record`, of all its columns. -/
def auditLog (db : Database) (log : AuditLog) : Database :=
  { db with auditLogs := db.auditLogs ++ [log] }

/-- `transaction.on_commit(lambda: EmailService.enqueue(..))`. -/
def email (db : Database) (template recipient : String) : Database :=
  { db with outbox := db.outbox ++ [Email.mk template recipient] }

/-- `transaction.on_commit(lambda: EventBus.publish(..))`. -/
def publish (db : Database) (name : String) (target : UUID) : Database :=
  { db with published := db.published ++ [ApplicationEvent.mk name target] }

/-- Rewrites the row of a user. -/
def updateUser (db : Database) (user : UUID) (f : User → User)
    (hf : ∀ u, (f u).pk = u.pk := by intro _; rfl) : Database :=
  { db with users := db.users.modify user f hf }

/-- `Model.objects.get(pk=..)`. -/
def getUser (db : Database) (user : UUID) : Except Exception User :=
  match db.users.get? user with
  | some row => .ok row
  | none => .error .doesNotExist

/-- What a call leaves behind: its result, or, when it raises, what was there. -/
def committed (db : Database) : Except Exception Database → Database
  | .ok db' => db'
  | .error _ => db

/-- The tables that say who a user is and what they can do: everything but sessions,
refresh tokens and the records written on the way. -/
structure SameAccounts (db db' : Database) : Prop where
  users : db'.users = db.users
  bans : db'.bans = db.bans
  oneTimeTokens : db'.oneTimeTokens = db.oneTimeTokens

theorem SameAccounts.refl (db : Database) : SameAccounts db db := ⟨rfl, rfl, rfl⟩

theorem SameAccounts.trans {a b c : Database} (h : SameAccounts a b) (h' : SameAccounts b c) :
    SameAccounts a c :=
  ⟨h'.users.trans h.users, h'.bans.trans h.bans, h'.oneTimeTokens.trans h.oneTimeTokens⟩

end Database

end DjangoFoundation
