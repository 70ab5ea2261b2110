/-
`apps/authentication/backends.py`: who a login identifier and a password name.

An account is found by either of two columns; a password is checked where exactly one
account is.
-/
import DjangoFoundation.Database

namespace DjangoFoundation

variable (env : Environment)

/-- `Q(email__iexact=identifier.strip()) | Q(username__iexact=identifier.strip())`. -/
def User.hasIdentifier (user : User) (identifier : String) : Bool :=
  env.iexact user.email (env.unicode.stripped identifier) ||
    env.iexact user.username (env.unicode.stripped identifier)

/-- The users that query finds. -/
def Database.identified (db : Database) (identifier : String) : List User :=
  db.users.rows.filter fun user => user.hasIdentifier env identifier

namespace EmailOrUsernameBackend

/-- `User.objects.get(..)`, where it raises neither of its exceptions. -/
def find? (db : Database) (identifier : String) : Option User :=
  match db.identified env identifier with
  | [user] => some user
  | _ => none

/-- The account whose hash the password is checked against, and what the check says. -/
def evaluated (db : Database) (identifier password : String) : Option (User × Bool) :=
  if identifier = "" ∨ password = "" then none
  else (find? env db identifier).map fun user =>
    (user, env.keyring.checkPassword password user.password)

/-- `authenticate`; `user_can_authenticate` reads `is_active`. -/
def authenticate (db : Database) (identifier password : String) : Option User :=
  match evaluated env db identifier password with
  | some (user, true) => if user.isActive then some user else none
  | _ => none

variable {env}

theorem find?_eq_some {db : Database} {identifier : String} {user : User} :
    find? env db identifier = some user ↔ db.identified env identifier = [user] := by
  unfold find?
  split
  · rename_i u h
    rw [h, Option.some.injEq, List.cons.injEq]
    simp
  · rename_i h
    constructor
    · intro hno
      cases hno
    · intro heq
      exact absurd heq (h user)

theorem evaluated_eq_some {db : Database} {identifier password : String} {user : User}
    {right : Bool} : evaluated env db identifier password = some (user, right) ↔
      identifier ≠ "" ∧ password ≠ "" ∧ find? env db identifier = some user ∧
        env.keyring.checkPassword password user.password = right := by
  unfold evaluated
  split
  · rename_i h
    constructor
    · intro hno
      cases hno
    · intro ⟨hid, hpw, _⟩
      exact absurd h (not_or.mpr ⟨hid, hpw⟩)
  · rename_i h
    obtain ⟨hid, hpw⟩ := not_or.mp h
    simp only [Option.map_eq_some_iff, Prod.mk.injEq]
    constructor
    · intro ⟨u, hu, huser, hright⟩
      subst huser
      exact ⟨hid, hpw, hu, hright⟩
    · intro ⟨_, _, hu, hright⟩
      exact ⟨user, hu, rfl, hright⟩

theorem authenticate_eq_some {db : Database} {identifier password : String} {user : User} :
    authenticate env db identifier password = some user ↔
      evaluated env db identifier password = some (user, true) ∧ user.isActive = true := by
  unfold authenticate
  split
  · rename_i u h
    rw [h]
    by_cases hactive : u.isActive = true
    · simp only [hactive, if_true, Option.some.injEq, Prod.mk.injEq, and_true]
      constructor
      · intro hu
        exact ⟨hu, hu ▸ hactive⟩
      · intro hu
        exact hu.1
    · simp only [hactive, Option.some.injEq, Prod.mk.injEq, and_true]
      constructor
      · intro hno
        cases hno
      · intro ⟨hu, hyes⟩
        exact absurd (hu ▸ hyes) hactive
  · rename_i h
    constructor
    · intro hno
      cases hno
    · intro heq
      exact absurd heq.1 (h user)

end EmailOrUsernameBackend

end DjangoFoundation
