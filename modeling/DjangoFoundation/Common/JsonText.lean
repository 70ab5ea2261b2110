/-
`json.dumps(value, separators=(",", ":"), sort_keys=True)`.

The entries of a dictionary are written by their keys; what is written for a value is then the
text of the value with its entries sorted, which `sorted` is.  All of the text is in ASCII.
-/
import Mathlib.Data.List.Basic
import Mathlib.Data.List.Sort
import DjangoFoundation.Common.Json

namespace DjangoFoundation.Json

/-! ### Text -/

/-- `"%04x" % n`. -/
def hex4 (n : Nat) : List Char :=
  [(n / 4096 % 16).digitChar, (n / 256 % 16).digitChar, (n / 16 % 16).digitChar,
    (n % 16).digitChar]

/-- A character outside ASCII's printable ones, by its UTF-16 units. -/
def escapeUnits (n : Nat) : List Char :=
  if n < 65536 then '\\' :: 'u' :: hex4 n
  else '\\' :: 'u' :: hex4 (55296 + (n - 65536) / 1024) ++
    '\\' :: 'u' :: hex4 (56320 + (n - 65536) % 1024)

/-- `ESCAPE_ASCII`, for one character. -/
def escape (c : Char) : List Char :=
  if c = '"' then ['\\', '"']
  else if c = '\\' then ['\\', '\\']
  else if c = '\x08' then ['\\', 'b']
  else if c = '\x0c' then ['\\', 'f']
  else if c = '\n' then ['\\', 'n']
  else if c = '\r' then ['\\', 'r']
  else if c = '\t' then ['\\', 't']
  else if 32 ≤ c.toNat ∧ c.toNat ≤ 126 then [c]
  else escapeUnits c.toNat

/-- `encode_basestring_ascii(s)`. -/
def quote (s : String) : List Char := '"' :: (s.toList.flatMap escape ++ ['"'])

/-- `int.__repr__(n)`. -/
def intText (n : Int) : List Char :=
  if n < 0 then '-' :: Nat.toDigits 10 n.natAbs else Nat.toDigits 10 n.natAbs

mutual

/-- The text of a value, its entries in the order they have. -/
def write : Json → List Char
  | .null => ['n', 'u', 'l', 'l']
  | .bool true => ['t', 'r', 'u', 'e']
  | .bool false => ['f', 'a', 'l', 's', 'e']
  | .int value => intText value
  | .float repr => repr.toList
  | .str value => quote value
  | .list items => '[' :: writeList items
  | .dict items => '\x7b' :: writeItems items

def writeList : List Json → List Char
  | [] => [']']
  | item :: items => write item ++ writeMore items

/-- The items after the first one. -/
def writeMore : List Json → List Char
  | [] => [']']
  | item :: items => ',' :: (write item ++ writeMore items)

def writeItems : List (String × Json) → List Char
  | [] => ['\x7d']
  | (key, item) :: items => quote key ++ ':' :: (write item ++ writeMoreItems items)

def writeMoreItems : List (String × Json) → List Char
  | [] => ['\x7d']
  | (key, item) :: items => ',' :: (quote key ++ ':' :: (write item ++ writeMoreItems items))

end

/-! ### Keys -/

mutual

/-- Entries by their keys, at every depth; a dictionary has no key twice. -/
def sorted : Json → Json
  | .list items => .list (sortedList items)
  | .dict items => .dict ((sortedItems items).mergeSort fun a b => a.1 ≤ b.1)
  | value => value

def sortedList : List Json → List Json
  | [] => []
  | item :: items => sorted item :: sortedList items

def sortedItems : List (String × Json) → List (String × Json)
  | [] => []
  | (key, item) :: items => (key, sorted item) :: sortedItems items

end

def dumps (value : Json) : String := String.ofList value.sorted.write

/-! ### What is JSON -/

/-- A character of a number. -/
def inNumber (c : Char) : Bool := c.isDigit || c ∈ ['-', '+', '.', 'e']

/-- `float.__repr__` of a finite number: a sign or a digit first, and a point or an exponent,
which integers have not. -/
def floatText (repr : String) : Bool :=
  repr.toList.head?.any (fun c => c.isDigit || c = '-') && repr.toList.all inNumber &&
    repr.toList.any fun c => c = '.' || c = 'e'

mutual

/-- Its floats are finite, which JSON has no others than. -/
def isProper : Json → Bool
  | .float repr => floatText repr
  | .list items => isProperList items
  | .dict items => isProperItems items
  | _ => true

def isProperList : List Json → Bool
  | [] => true
  | item :: items => isProper item && isProperList items

def isProperItems : List (String × Json) → Bool
  | [] => true
  | (_, item) :: items => isProper item && isProperItems items

end

end DjangoFoundation.Json
