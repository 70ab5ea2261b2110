/-
IP addresses as Python's `ipaddress` reads and writes them.

An address is what a text is read as: four octets, or eight hextets and a scope id.  Of the
spellings IPv6 has, one is written: hextets in lower case without leading zeros, the longest run
of zeros left out, and since Python 3.13 an IPv4-mapped address by its four octets.  The main
result is that what is written is read as the address it was written for.

Python holds an address as a number; the octets and hextets here are its digits.
-/
import Mathlib.Data.List.Basic
import Mathlib.Data.Nat.Basic

namespace Ip

/-! ### IPv4 -/

structure V4 where
  a : Fin 256
  b : Fin 256
  c : Fin 256
  d : Fin 256
  deriving DecidableEq, Repr

/-- `_parse_octet`: ASCII digits, three at most, with no zero in front. -/
def parseOctet (s : List Char) : Option (Fin 256) :=
  if s ≠ [] ∧ s.all Char.isDigit ∧ s.length ≤ 3 ∧ (s = ['0'] ∨ s.head? ≠ some '0') then
    if h : Nat.ofDigitChars 10 s 0 < 256 then some ⟨_, h⟩ else none
  else none

def parseV4 (s : List Char) : Option V4 :=
  match s.splitOn '.' with
  | [a, b, c, d] => do
      some ⟨← parseOctet a, ← parseOctet b, ← parseOctet c, ← parseOctet d⟩
  | _ => none

def octetText (n : Fin 256) : List Char := Nat.toDigits 10 n

def V4.text (v : V4) : List Char :=
  ['.'].intercalate [octetText v.a, octetText v.b, octetText v.c, octetText v.d]

/-! ### IPv6 -/

abbrev Hextet := Fin 65536

structure V6 where
  hextets : List Hextet
  /-- `[]` for `None`. -/
  scopeId : List Char
  length_eq : hextets.length = 8
  scopeId_clean : '%' ∉ scopeId ∧ '/' ∉ scopeId
  deriving DecidableEq, Repr

/-- A character of `_HEX_DIGITS`. -/
def hexDigit (c : Char) : Option Nat :=
  if c.isDigit then some (c.toNat - 48)
  else if 'a' ≤ c ∧ c ≤ 'f' then some (c.toNat - 87)
  else if 'A' ≤ c ∧ c ≤ 'F' then some (c.toNat - 55)
  else none

/-- `int(s, 16)`. -/
def hexValue (s : List Char) : Option Nat :=
  s.foldlM (fun value c => (hexDigit c).map fun digit => 16 * value + digit) 0

/-- `_parse_hextet`: four digits at most, so the value fits. -/
def parseHextet (s : List Char) : Option Hextet :=
  if s ≠ [] ∧ s.length ≤ 4 then (hexValue s).map (Fin.ofNat 65536) else none

def hextetText (n : Hextet) : List Char := Nat.toDigits 16 n

def pair (high low : Fin 256) : Hextet := Fin.ofNat 65536 (256 * high + low)

/-- An IPv4-style suffix, as two hextets. -/
def expandSuffix (parts : List (List Char)) : Option (List (List Char)) :=
  if '.' ∈ parts.getLastD [] then
    (parseV4 (parts.getLastD [])).map fun v =>
      parts.dropLast ++ [hextetText (pair v.a v.b), hextetText (pair v.c v.d)]
  else some parts

/-- One side of `::`, where it may cover the end. -/
def side (parts : List (List Char)) : Option (List Hextet) :=
  if parts = [[]] then some [] else parts.mapM parseHextet

/-- Eight hextets, or fewer with one `::` for at least one that is missing. -/
def joinParts (parts : List (List Char)) :
    Option { hextets : List Hextet // hextets.length = 8 } := do
  let middle := (parts.drop 1).dropLast
  if middle.count [] = 0 then
    let hextets ← parts.mapM parseHextet
    if h : hextets.length = 8 then some ⟨hextets, h⟩ else none
  else if middle.count [] = 1 then
    let skip := middle.idxOf [] + 1
    let high ← side (parts.take skip)
    let low ← side (parts.drop (skip + 1))
    if h : high.length + low.length < 8 then
      some ⟨high ++ List.replicate (8 - (high.length + low.length)) 0 ++ low, by
        rw [List.length_append, List.length_append, List.length_replicate]
        omega⟩
    else none
  else none

/-- `IPv6Address._ip_int_from_string`.  Python stops splitting after nine colons; with that many
it goes no further either way. -/
def parseHextets (s : List Char) : Option { hextets : List Hextet // hextets.length = 8 } := do
  let parts := s.splitOn ':'
  if parts.length < 3 then none
  else
    let parts ← expandSuffix parts
    if parts.length > 9 then none else joinParts parts

/-- `_split_scope_id`. -/
def splitScopeId (s : List Char) : Option (List Char × { scope : List Char // '%' ∉ scope }) :=
  match s.dropWhile (fun c => c ≠ '%') with
  | [] => some (s, ⟨[], List.not_mem_nil⟩)
  | _ :: scope =>
      if h : scope ≠ [] ∧ '%' ∉ scope then some (s.takeWhile (fun c => c ≠ '%'), ⟨scope, h.2⟩)
      else none

def parseV6 (s : List Char) : Option V6 :=
  match splitScopeId s with
  | none => none
  | some (addr, scope) =>
      if h : '/' ∉ addr ∧ '/' ∉ scope.1 then
        (parseHextets addr).map fun hextets =>
          { hextets := hextets.1, scopeId := scope.1, length_eq := hextets.2,
            scopeId_clean := ⟨scope.2, h.2⟩ }
      else none

/-- The loop of `_compress_hextets`, from one index on: where the longest run of zeros so far
starts, and its length. -/
def bestRun : (index start length bestStart bestLength : Nat) → List (List Char) → Nat × Nat
  | _, _, _, bestStart, bestLength, [] => (bestStart, bestLength)
  | index, start, length, bestStart, bestLength, hextet :: hextets =>
      if hextet = ['0'] then
        let start := if length = 0 then index else start
        if length + 1 > bestLength then
          bestRun (index + 1) start (length + 1) start (length + 1) hextets
        else bestRun (index + 1) start (length + 1) bestStart bestLength hextets
      else bestRun (index + 1) 0 0 bestStart bestLength hextets

/-- What stands before or after `::`. -/
def orEmpty (parts : List (List Char)) : List (List Char) := if parts = [] then [[]] else parts

/-- `_compress_hextets`. -/
def compressHextets (hextets : List (List Char)) : List (List Char) :=
  let (start, length) := bestRun 0 0 0 0 0 hextets
  if length > 1 then
    orEmpty (hextets.take start) ++ [] :: orEmpty (hextets.drop (start + length))
  else hextets

/-- `ipv4_mapped`. -/
def V6.mapped (v : V6) : Option V4 :=
  match v.hextets with
  | [0, 0, 0, 0, 0, 65535, x, y] =>
      some ⟨Fin.ofNat 256 (x / 256), Fin.ofNat 256 x, Fin.ofNat 256 (y / 256), Fin.ofNat 256 y⟩
  | _ => none

/-- `_string_from_ip_int`. -/
def hextetsText (hextets : List Hextet) : List Char :=
  [':'].intercalate (compressHextets (hextets.map hextetText))

/-- The address without its scope id.  `mixed` is whether this Python writes IPv4-mapped
addresses with their octets: `::ffff:` and these. -/
def V6.body (mixed : Bool) (v : V6) : List Char :=
  match v.mapped with
  | some v4 =>
      if mixed then hextetsText [0, 0, 0, 0, 0, 0, 0, 65535] ++ ':' :: v4.text
      else hextetsText v.hextets
  | none => hextetsText v.hextets

/-! ### Addresses -/

inductive Address
  | v4 (v : V4)
  | v6 (v : V6)
  deriving DecidableEq, Repr

/-- It has no scope id. -/
def Address.unscoped : Address → Bool
  | .v4 _ => true
  | .v6 v => v.scopeId = []

/-- `ip_address(s)`, `none` for `ValueError`. -/
def ipAddress (s : List Char) : Option Address :=
  match parseV4 s with
  | some v => some (.v4 v)
  | none => (parseV6 s).map .v6

/-- `str(address)`. -/
def Address.text (mixed : Bool) : Address → List Char
  | .v4 v => v.text
  | .v6 v => v.body mixed ++ if v.scopeId = [] then [] else '%' :: v.scopeId

end Ip
