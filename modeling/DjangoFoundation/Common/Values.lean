/-
`sanitize` (`common/logging.py`) of any value: scalars, and dictionaries, lists and tuples of
values.
-/
import DjangoFoundation.Lib.DataTree
import DjangoFoundation.Common.Json
import DjangoFoundation.Common.Logging

namespace DjangoFoundation

/-- A value that holds no other, or a key. -/
inductive Scalar
  | none
  | bool (value : Bool)
  | int (value : Int)
  | float (repr : String)
  | str (value : String)
  /-- A `date`, by its `isoformat()`. -/
  | date (iso : String)
  /-- A `datetime`, by the two parts of its `isoformat()`. -/
  | datetime (day time : String)
  /-- These by their `str`, as is any other object. -/
  | uuid (text : String)
  | decimal (text : String)
  | object (text : String)
  deriving DecidableEq, Repr

namespace Scalar

/-- `str(value)`. -/
def text : Scalar → String
  | .none => "None"
  | .bool value => if value then "True" else "False"
  | .int value => toString value
  | .float repr => repr
  | .str value => value
  | .date iso => iso
  | .datetime day time => day ++ " " ++ time
  | .uuid text | .decimal text | .object text => text

/-- `SENSITIVE_KEY.search(str(key))`. -/
def isSensitive (key : Scalar) : Bool := sensitiveKey key.text

/-- The scalar if JSON has it, else its `isoformat()` or `str`. -/
def kept : Scalar → Scalar
  | .date iso => .str iso
  | .datetime day time => .str (day ++ "T" ++ time)
  | .uuid text | .decimal text | .object text => .str text
  | value => value

theorem kept_kept (value : Scalar) : value.kept.kept = value.kept := by
  cases value <;> rfl

end Scalar

abbrev Value := DataTree Scalar Scalar

namespace Value

mutual

def sanitize : Value → Value
  | .dict items => .dict (sanitizeItems items)
  | .list items => .list (sanitizeList items)
  | .tuple items => .list (sanitizeList items)
  | .leaf value => .leaf value.kept

def sanitizeList : List Value → List Value
  | [] => []
  | item :: items => sanitize item :: sanitizeList items

def sanitizeItems : List (Scalar × Value) → List (Scalar × Value)
  | [] => []
  | (key, item) :: items =>
      (key, if sensitiveKey key.text then .leaf (.str "[REDACTED]") else sanitize item) ::
        sanitizeItems items

end

mutual

/-- `sanitize` redacts what stands under sensitive keys. -/
theorem sanitize_eq_redact : ∀ value : Value,
    sanitize value = value.redact Scalar.isSensitive (.str "[REDACTED]") Scalar.kept
  | .leaf value => rfl
  | .list items => by rw [sanitize, DataTree.redact, sanitizeList_eq_redactList items]
  | .tuple items => by rw [sanitize, DataTree.redact, sanitizeList_eq_redactList items]
  | .dict items => by rw [sanitize, DataTree.redact, sanitizeItems_eq_redactItems items]

theorem sanitizeList_eq_redactList : ∀ items : List Value,
    sanitizeList items =
      DataTree.redactList Scalar.isSensitive (.str "[REDACTED]") Scalar.kept items
  | [] => rfl
  | item :: items => by
      rw [sanitizeList, DataTree.redactList, sanitize_eq_redact item,
        sanitizeList_eq_redactList items]

theorem sanitizeItems_eq_redactItems : ∀ items : List (Scalar × Value),
    sanitizeItems items =
      DataTree.redactItems Scalar.isSensitive (.str "[REDACTED]") Scalar.kept items
  | [] => rfl
  | (key, item) :: items => by
      rw [sanitizeItems, DataTree.redactItems, sanitize_eq_redact item,
        sanitizeItems_eq_redactItems items, Scalar.isSensitive]

end

/-! ### JSON -/

mutual

/-- A JSON value among the values. -/
def ofJson : Json → Value
  | .null => .leaf .none
  | .bool value => .leaf (.bool value)
  | .int value => .leaf (.int value)
  | .float repr => .leaf (.float repr)
  | .str value => .leaf (.str value)
  | .list items => .list (ofJsonList items)
  | .dict items => .dict (ofJsonItems items)

def ofJsonList : List Json → List Value
  | [] => []
  | item :: items => ofJson item :: ofJsonList items

def ofJsonItems : List (String × Json) → List (Scalar × Value)
  | [] => []
  | (key, item) :: items => (.str key, ofJson item) :: ofJsonItems items

end

end Value

end DjangoFoundation
