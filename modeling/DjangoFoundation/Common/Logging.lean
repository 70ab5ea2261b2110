/-
`sanitize` (`common/logging.py`), which audit records pass their values through.
-/
import Mathlib.Data.List.Infix

namespace DjangoFoundation

/-- A value of a dictionary that is logged or audited. -/
inductive LogValue
  | text (value : String)
  | texts (values : List String)
  /-- `isoformat()` of an instant. -/
  | instant (value : Int)
  deriving DecidableEq, Repr

/-- The alternatives of `SENSITIVE_KEY`. -/
def sensitiveKeys : List String :=
  ["password", "authorization", "cookie", "token", "secret", "apikey", "api_key", "api-key",
    "key_hash", "session_key", "encrypted", "totp", "recoverycode", "recovery_code",
    "recovery-code"]

/-- A letter as `re.IGNORECASE` compares it with those of a pattern in ASCII. -/
def ignoreCase (c : Char) : Char :=
  if c = 'İ' ∨ c = 'ı' then 'i'
  else if c = 'ſ' then 's'
  else if c = '\u212A' then 'k' -- the Kelvin sign
  else c.toLower

/-- `SENSITIVE_KEY.search(key)`. -/
def sensitiveKey (key : String) : Bool :=
  sensitiveKeys.any fun word => word.toList <:+: key.toList.map ignoreCase

/-- A Kelvin sign stands for the letter. -/
example : sensitiveKey "x-to\u212Aen" = true := by decide

/-- `sanitize(value)`, of a dictionary whose values are no dictionaries. -/
def sanitize (value : List (String × LogValue)) : List (String × LogValue) :=
  value.map fun (key, item) => (key, if sensitiveKey key then .text "[REDACTED]" else item)

end DjangoFoundation
