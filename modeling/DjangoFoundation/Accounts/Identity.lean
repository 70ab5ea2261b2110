/-
Runs of `change_password` beside the calls of `Accounts/Lifecycle`: the three changes of an
account's password or address, and the confirmations a one-time token can make.
-/
import DjangoFoundation.Accounts.Lifecycle

namespace DjangoFoundation

namespace Identity

inductive Call
  | changePassword (user : UUID) (oldPassword newPassword salt : String)
      (sessionKey : Option String)
  | lifecycle (call : Lifecycle.Call)

variable (env : Environment) (now : Int)

def Call.run (db : Database) : Call → Except Exception Database
  | .changePassword user oldPassword newPassword salt sessionKey =>
      AccountService.changePassword env now db user oldPassword newPassword salt sessionKey
  | .lifecycle call => call.run env now db

/-- The call returns, and its changes are committed. -/
def Call.commits (db : Database) (call : Call) : Bool := (call.run env now db).isOk

/-- The raw token and the purpose of a `reset_password`, `confirm_email_change` or
`confirm_deletion`. -/
def Call.confirms? : Call → Option (String × TokenPurpose)
  | .lifecycle (.resetPassword rawToken _ _ _) => some (rawToken, .passwordReset)
  | .lifecycle (.confirmEmailChange rawToken _) => some (rawToken, .emailChange)
  | .lifecycle (.confirmDeletion rawToken _ _) => some (rawToken, .accountDeletion)
  | _ => none

/-- Whose password or address a call is about to change. -/
def Call.changes? (db : Database) : Call → Option UUID
  | .changePassword user _ _ _ _ => some user
  | .lifecycle (.resetPassword rawToken _ _ _) =>
      (TokenService.usable? env now db rawToken .passwordReset).map fun token => token.user
  | .lifecycle (.confirmEmailChange rawToken _) =>
      (TokenService.usable? env now db rawToken .emailChange).map fun token => token.user
  | _ => none

/-- The call confirms something with this very token. -/
def Call.presents (call : Call) (token : OneTimeToken) : Bool :=
  call.confirms?.any fun (rawToken, purpose) =>
    TokenService.tokenHash env rawToken purpose = token.tokenHash

/-- The database and the time of the last call. -/
structure State where
  clock : Int
  db : Database

def step (s : State) (e : Int × Call) : Option State :=
  if s.clock ≤ e.1 then
    some { clock := e.1, db := s.db.committed (e.2.run env e.1 s.db) }
  else none

end Identity

end DjangoFoundation
