/-
`AccountService.register_user` and `change_username`, with `UserManager.create_user`, and
runs of them beside the calls of `Accounts/Lifecycle`.

The role a new account is given is a row of another part of the code base; it says nothing
about the account's columns and is left out.
-/
import DjangoFoundation.Accounts.Lifecycle

namespace DjangoFoundation

/-- The checks of a `User` that are Django's own. -/
structure Validators where
  /-- `validate_password(password)`, for nobody in particular. -/
  acceptsNewPassword : String → Bool
  /-- The validators of `EmailField(max_length=254)`. -/
  acceptsEmail : String → Bool
  /-- `\w`, outside ASCII. -/
  wordTable : Char → Bool
  /-- `unicodedata.normalize("NFKC", value)`. -/
  nfkc : String → String

/-- Validators that ask for no more than the code itself. -/
def Validators.plain : Validators where
  acceptsNewPassword _ := true
  acceptsEmail email := '@' ∈ email.toList
  wordTable _ := false
  nfkc value := value

variable (env : Environment) (validators : Validators) (now : Int)

/-! ### Validation -/

/-- `[\w.@+-]`. -/
def usernameChar (c : Char) : Bool :=
  (if Unicode.isAscii c then c.isAlphanum || c = '_' else validators.wordTable c) ||
    c ∈ ['.', '@', '+', '-']

/-- The validators of `username`. -/
def acceptsUsername (username : String) : Bool :=
  username ≠ "" && username.toList.all (usernameChar validators) && username.length ≤ 150

/-- `full_clean` of a user, up to its constraints. -/
def acceptsUser (user : User) : Bool :=
  validators.acceptsEmail user.email && acceptsUsername validators user.username &&
    user.firstName.length ≤ 150 && user.lastName.length ≤ 150 && user.phone.length ≤ 32

namespace AccountService

def accountExists : Exception :=
  .api {
    detail := "An account with those details already exists."
    code := "CONFLICT"
    statusCode := 409 }

def usernameUnavailable : Exception :=
  .api { detail := "That username is unavailable.", code := "CONFLICT", statusCode := 409 }

/-- What `create_user` cleans. -/
def newUser (pk : UUID) (email username password salt firstName lastName : String) : User where
  pk := pk
  password := env.keyring.makePassword salt password
  email := env.unicode.normalizeEmailAddress email
  username := env.unicode.stripped username
  firstName := firstName
  lastName := lastName
  createdAt := now
  updatedAt := now

/-- `User.objects.create_user`.  Its cleaning ends in `AbstractBaseUser.clean`, which has the
address in NFKC; `save` has it in the manager's form. -/
def createUser (db : Database) (pk : UUID)
    (email username password salt firstName lastName : String) : Except Exception Database :=
  if email = "" ∨ username = "" then .error .valueError
  else
    let user := newUser env now pk email username password salt firstName lastName
    if !acceptsUser validators user then .error .validation
    else
      let user := { user with
        email := env.unicode.normalizeEmailAddress (validators.nfkc user.email)
        username := env.unicode.stripped user.username }
      if emailTaken env db user.pk user.email ∨ usernameTaken env db user.pk user.username then
        .error accountExists
      else match db.users.insert? user with
        | none => .error accountExists
        | some users => .ok { db with users := users }

/-- The rows that come with an account. -/
def createRows (db : Database) (user : UUID) : Except Exception Database :=
  match db.profiles.insert? ⟨user, "", "", ""⟩, db.preferences.insert? { user := user },
      db.securitySettings.insert? { user := user } with
  | some profiles, some preferences, some securitySettings =>
      .ok { db with
        profiles := profiles
        preferences := preferences
        securitySettings := securitySettings }
  | _, _, _ => .error .integrity

def registerUser (db : Database) (pk : UUID)
    (email username password salt firstName lastName raw : String) : Except Exception Database := do
  if !validators.acceptsNewPassword password then throw .validation
  let db ← createUser env validators now db pk email username password salt firstName lastName
  let user ← db.getUser pk
  let db ← createRows db user.pk
  let db ← TokenService.issue env now db user.pk .emailVerification (minutes (60 * 24)) [] raw
  let db := db.audit "user.created" (UUID.str user.pk) (some user.pk)
  return db.email "email_verification" user.email

def changeUsername (db : Database) (user : UUID) (username : String) :
    Except Exception Database := do
  let locked ← db.getUser user
  let cleaned := { locked with username := env.unicode.stripped username }
  -- `full_clean` goes on to the constraints, on the address as `clean` leaves it
  if !acceptsUser validators cleaned || emailTaken env db locked.pk (validators.nfkc locked.email) ||
      usernameTaken env db locked.pk cleaned.username then
    throw .validation
  let saved := env.unicode.stripped cleaned.username
  if usernameTaken env db locked.pk saved then throw usernameUnavailable
  let db := db.updateUser locked.pk fun u => { u with username := saved, updatedAt := now }
  return db.audit "username.changed" (UUID.str locked.pk) (some locked.pk)

end AccountService

/-! ### Runs -/

namespace Accounts

inductive Call
  | register (pk : UUID) (email username password salt firstName lastName raw : String)
  | changeUsername (user : UUID) (username : String)
  /-- A one-time token, what its confirmation does, or a ban. -/
  | lifecycle (call : Lifecycle.Call)

def Call.run (db : Database) : Call → Except Exception Database
  | .register pk email username password salt firstName lastName raw =>
      AccountService.registerUser env validators now db pk email username password salt firstName
        lastName raw
  | .changeUsername user username =>
      AccountService.changeUsername env validators now db user username
  | .lifecycle call => call.run env now db

/-- The database and the time of the last call. -/
structure State where
  clock : Int := 0
  db : Database := {}

def step (s : State) (e : Int × Call) : Option State :=
  if s.clock ≤ e.1 then
    some { clock := e.1, db := s.db.committed (e.2.run env validators e.1 s.db) }
  else none

end Accounts

end DjangoFoundation
