/-
`Setting` (`apps/core/models.py`) and its validation.
-/
import DjangoFoundation.Lib.Table
import DjangoFoundation.Common.Base
import DjangoFoundation.Common.Json
import DjangoFoundation.Common.Logging

namespace DjangoFoundation

inductive SettingValueType
  | string
  | integer
  | boolean
  | json
  deriving DecidableEq, Repr

/-- The value of the choice. -/
def SettingValueType.value : SettingValueType → String
  | .string => "string"
  | .integer => "integer"
  | .boolean => "boolean"
  | .json => "json"

structure Setting where
  pk : UUID
  key : String
  value : Json
  valueType : SettingValueType := .string
  group : String := "general"
  isPublic : Bool := false
  description : String := ""
  createdAt : Int
  updatedAt : Int
  deriving DecidableEq, Repr

/-- `key` is unique, and what settings are looked up by. -/
instance : Keyed Setting String := ⟨Setting.key⟩

namespace Setting

/-! ### `full_clean` -/

def secretWords : List String :=
  ["password", "secret", "credential", "private_key", "access_key", "token", "dsn"]

/-- `($|[._-])` matches here; `$` does before a last line feed, too. -/
def wordEnds (rest : List Char) : Bool :=
  rest = [] || rest = ['\n'] || rest.head?.any fun c => c ∈ ['.', '_', '-']

/-- The expression of `clean` matches here, or further on.  `starts` is whether its first group
does here. -/
def secretFrom (starts : Bool) (cs : List Char) : Bool :=
  (starts && secretWords.any fun word =>
    word.toList.isPrefixOf cs && wordEnds (cs.drop word.length)) ||
  match cs with
  | [] => false
  | c :: cs => secretFrom (c ∈ ['.', '_', '-']) cs

/-- `re.search(.., self.key, re.IGNORECASE)`. -/
def secretLike (key : String) : Bool := secretFrom true (key.toList.map ignoreCase)

/-- `valid[self.value_type](self.value)`. -/
def valid : SettingValueType → Json → Bool
  | .string, .str _ => true
  | .integer, .int _ => true
  | .boolean, .bool _ => true
  | .json, _ => true
  | _, _ => false

/-- `value in self.empty_values`, of the value of a `JSONField`. -/
def emptyValue : Json → Bool
  | .null | .str "" | .list [] | .dict [] => true
  | _ => false

/-- `CharField.clean(value)`: not blank, and not too long. -/
def textErrors (field value : String) (maxLength : Nat) : List (String × String) :=
  if value = "" then [(field, "This field cannot be blank.")]
  else if maxLength < value.length then
    [(field, s!"Ensure this value has at most {maxLength} characters (it has {value.length}).")]
  else []

/-- `clean_fields()`; the other fields take any value of their type. -/
def fieldErrors (row : Setting) : List (String × String) :=
  textErrors "key" row.key 150 ++
  (if row.value = .null then [("value", "This field cannot be null.")]
    else if emptyValue row.value then [("value", "This field cannot be blank.")]
    else []) ++
  textErrors "group" row.group 64

/-- `clean()`, which raises at the first thing it finds. -/
def cleanErrors (row : Setting) : List (String × String) :=
  if secretLike row.key then
    [("key", "Secret-like values must be stored outside the database.")]
  else if !valid row.valueType row.value then
    [("value", "Value does not match type " ++ row.valueType.value ++ ".")]
  else []

/-- `validate_unique()`, of a key without errors, against the other rows. -/
def uniqueErrors (rows : Table Setting) (row : Setting) : List (String × String) :=
  if (rows.get? row.key).any fun other => other.pk ≠ row.pk then
    [("key", "Setting with this Key already exists.")]
  else []

/-- `full_clean(validate_unique=False)`: what it raises, by field. -/
def errors (row : Setting) : List (String × String) := row.fieldErrors ++ row.cleanErrors

/-- `full_clean()`. -/
def allErrors (rows : Table Setting) (row : Setting) : List (String × String) :=
  row.errors ++ if "key" ∈ row.errors.map Prod.fst then [] else uniqueErrors rows row

end Setting

end DjangoFoundation
