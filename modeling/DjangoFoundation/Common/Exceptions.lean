/-
`common/exceptions/handler.py`, and the other ways a service call can fail.
-/

namespace DjangoFoundation

/-- `APIException(detail, code=code, status_code=statusCode, fields=fields)`. -/
structure APIException where
  detail : String
  code : String
  statusCode : Nat := 400
  fields : List (String × Int) := []
  deriving DecidableEq, Repr

/-- What a call raises; the transaction it ran in is rolled back. -/
inductive Exception
  | api (exception : APIException)
  /-- `django.core.exceptions.ValidationError`. -/
  | validation
  | integrity
  /-- `django.db.utils.DataError`, of a value the database does not take. -/
  | dataError
  | doesNotExist
  | keyError (key : String)
  | valueError
  /-- `rest_framework.serializers.ValidationError`, by field. -/
  | invalid (errors : List (String × String))
  | runtimeError (message : String)
  deriving DecidableEq, Repr

/-- A sequence of calls returns where each of them does. -/
theorem bind_eq_ok {ε α β : Type} {x : Except ε α} {f : α → Except ε β} {b : β} :
    (x >>= f) = .ok b ↔ ∃ a, x = .ok a ∧ f a = .ok b := by
  cases x with
  | error e => exact iff_of_false (by intro h; cases h) (by rintro ⟨_, h, _⟩; cases h)
  | ok a => exact ⟨fun h => ⟨a, rfl, h⟩, by rintro ⟨_, h, hf⟩; cases h; exact hf⟩

end DjangoFoundation
