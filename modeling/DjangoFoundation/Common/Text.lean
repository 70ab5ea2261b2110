/-
Python's `str` methods as the user model uses them.

ASCII is as Python has it.  Beyond ASCII the case and white-space tables of Unicode are
a parameter, `Unicode`: nothing here depends on what they say.
-/
import DjangoFoundation.Common.Base
import Mathlib.Data.List.Basic
import Mathlib.Data.List.Dedup
import Mathlib.Data.List.Sort
import Mathlib.Logic.Function.Basic

namespace DjangoFoundation

/-- Unicode's tables, consulted for characters outside ASCII alone. -/
structure Unicode where
  spaceTable : Char → Bool
  lowerTable : Char → List Char
  casefoldTable : Char → List Char

namespace Unicode

variable (unicode : Unicode)

def isAscii (c : Char) : Bool := c.toNat < 128

/-- `c.isspace()`: tab to carriage return, the four separators, and the space. -/
def charIsSpace (c : Char) : Bool :=
  if isAscii c then (9 ≤ c.toNat ∧ c.toNat ≤ 13) ∨ (28 ≤ c.toNat ∧ c.toNat ≤ 32)
  else unicode.spaceTable c

def charLower (c : Char) : List Char :=
  if isAscii c then [c.toLower] else unicode.lowerTable c

def charCasefold (c : Char) : List Char :=
  if isAscii c then [c.toLower] else unicode.casefoldTable c

/-- `str.strip()`. -/
def strip (s : List Char) : List Char :=
  ((s.dropWhile unicode.charIsSpace).reverse.dropWhile unicode.charIsSpace).reverse

/-- `str.lower()`; where it differs from this by a final sigma, `casefold` does not. -/
def lower (s : List Char) : List Char := s.flatMap unicode.charLower

/-- `str.casefold()`. -/
def casefold (s : List Char) : List Char := s.flatMap unicode.charCasefold

/-- `s.rsplit("@", 1)`, where it gives two parts. -/
def rsplitAt : List Char → Option (List Char × List Char)
  | [] => none
  | c :: s =>
      match rsplitAt s with
      | some (name, domain) => some (c :: name, domain)
      | none => if c = '@' then some ([], s) else none

/-- `BaseUserManager.normalize_email`. -/
def normalizeEmail (email : List Char) : List Char :=
  match rsplitAt (unicode.strip email) with
  | none => email
  | some (name, domain) => name ++ '@' :: unicode.lower domain

/-- `UserManager.normalize_email_address`. -/
def normalizeEmailAddress (email : String) : String :=
  String.ofList (unicode.casefold (unicode.normalizeEmail (unicode.strip email.toList)))

/-- `username.strip()`. -/
def stripped (s : String) : String :=
  String.ofList (unicode.strip s.toList)

/-! ### Plain text

Text all of ASCII, without capitals or white space, is left as it is by all of these. -/

/-- A character no method here changes or removes. -/
def Plain (c : Char) : Prop :=
  isAscii c = true ∧ c.toLower = c ∧ ¬(9 ≤ c.toNat ∧ c.toNat ≤ 13) ∧ ¬(28 ≤ c.toNat ∧ c.toNat ≤ 32)

instance (c : Char) : Decidable (Plain c) := inferInstanceAs (Decidable (_ ∧ _ ∧ _ ∧ _))

variable {unicode}

theorem not_isSpace_of_plain {c : Char} (h : Plain c) : unicode.charIsSpace c = false := by
  obtain ⟨hascii, _, htab, hsep⟩ := h
  simp [charIsSpace, hascii, htab, hsep]

theorem dropWhile_plain {s : List Char} (h : ∀ c ∈ s, Plain c) :
    s.dropWhile unicode.charIsSpace = s := by
  cases s with
  | nil => rfl
  | cons c s =>
      rw [List.dropWhile_cons, not_isSpace_of_plain (h c List.mem_cons_self)]
      rfl

theorem strip_plain {s : List Char} (h : ∀ c ∈ s, Plain c) : unicode.strip s = s := by
  unfold strip
  rw [dropWhile_plain h, dropWhile_plain fun c hc => h c (List.mem_reverse.mp hc),
    List.reverse_reverse]

private theorem flatMap_plain {f : Char → List Char} (hf : ∀ c, Plain c → f c = [c])
    {s : List Char} (h : ∀ c ∈ s, Plain c) : s.flatMap f = s := by
  induction s with
  | nil => rfl
  | cons c s ih =>
      rw [List.flatMap_cons, hf c (h c List.mem_cons_self),
        ih fun d hd => h d (List.mem_cons_of_mem c hd)]
      rfl

theorem lower_plain {s : List Char} (h : ∀ c ∈ s, Plain c) : unicode.lower s = s :=
  flatMap_plain (fun c hc => by rw [charLower, if_pos hc.1, hc.2.1]) h

theorem casefold_plain {s : List Char} (h : ∀ c ∈ s, Plain c) : unicode.casefold s = s :=
  flatMap_plain (fun c hc => by rw [charCasefold, if_pos hc.1, hc.2.1]) h

theorem rsplitAt_eq_some {s name domain : List Char} (h : rsplitAt s = some (name, domain)) :
    s = name ++ '@' :: domain := by
  induction s generalizing name with
  | nil => cases h
  | cons c s ih =>
      unfold rsplitAt at h
      cases hs : rsplitAt s with
      | some parts =>
          obtain ⟨name', domain'⟩ := parts
          rw [hs] at h
          cases h
          rw [ih hs]
          rfl
      | none =>
          rw [hs] at h
          simp only at h
          split at h
          · rename_i hc
            cases h
            rw [hc]
            rfl
          · cases h

theorem normalizeEmail_plain {s : List Char} (h : ∀ c ∈ s, Plain c) :
    unicode.normalizeEmail s = s := by
  unfold normalizeEmail
  rw [strip_plain h]
  cases hs : rsplitAt s with
  | none => rfl
  | some parts =>
      obtain ⟨name, domain⟩ := parts
      have heq := rsplitAt_eq_some hs
      have hdomain : ∀ c ∈ domain, Plain c := by
        intro c hc
        refine h c ?_
        rw [heq]
        exact List.mem_append_right _ (List.mem_cons_of_mem _ hc)
      simp only [lower_plain hdomain]
      exact heq.symm

/-- Plain text is its own normal form as an address. -/
theorem normalizeEmailAddress_plain {s : String} (h : ∀ c ∈ s.toList, Plain c) :
    unicode.normalizeEmailAddress s = s := by
  unfold normalizeEmailAddress
  rw [strip_plain h, normalizeEmail_plain h, casefold_plain h, String.ofList_toList]

theorem stripped_plain {s : String} (h : ∀ c ∈ s.toList, Plain c) : unicode.stripped s = s := by
  unfold stripped
  rw [strip_plain h, String.ofList_toList]

/-! ### White space at the ends

`strip` leaves no white space at either end, and text without any there is left as it is.
Lowering and case folding bring none back, as long as the tables, like Unicode's, neither
drop a character nor make white space of one. -/

/-- The tables neither drop a character nor make white space of one. -/
structure KeepsInk (unicode : Unicode) : Prop where
  lower : ∀ c, unicode.charIsSpace c = false →
    unicode.charLower c ≠ [] ∧ ∀ d ∈ unicode.charLower c, unicode.charIsSpace d = false
  casefold : ∀ c, unicode.charIsSpace c = false →
    unicode.charCasefold c ≠ [] ∧ ∀ d ∈ unicode.charCasefold c, unicode.charIsSpace d = false

/-- No white space at either end. -/
structure Trimmed (unicode : Unicode) (s : List Char) : Prop where
  head : ∀ c ∈ s.head?, unicode.charIsSpace c = false
  last : ∀ c ∈ s.getLast?, unicode.charIsSpace c = false

private theorem head?_dropWhile (p : Char → Bool) (s : List Char) :
    ∀ c ∈ (s.dropWhile p).head?, p c = false := by
  induction s with
  | nil => simp
  | cons d s ih =>
      by_cases hd : p d = true
      · rw [List.dropWhile_cons_of_pos hd]
        exact ih
      · rw [List.dropWhile_cons_of_neg hd]
        simpa using hd

private theorem dropWhile_of_head? {p : Char → Bool} {s : List Char}
    (h : ∀ c ∈ s.head?, p c = false) : s.dropWhile p = s := by
  cases s with
  | nil => rfl
  | cons d s =>
      have hd : p d = false := h d rfl
      rw [List.dropWhile_cons_of_neg (by simp [hd])]

private theorem getLast?_dropWhile (p : Char → Bool) (s : List Char) :
    ∀ c ∈ (s.dropWhile p).getLast?, c ∈ s.getLast? := by
  induction s with
  | nil => simp
  | cons d s ih =>
      intro c hc
      by_cases hd : p d = true
      · rw [List.dropWhile_cons_of_pos hd] at hc
        have hlast := ih c hc
        cases s with
        | nil => simp at hlast
        | cons e s => simpa [List.getLast?_cons_cons] using hlast
      · rwa [List.dropWhile_cons_of_neg hd] at hc

theorem trimmed_strip (s : List Char) : unicode.Trimmed (unicode.strip s) := by
  constructor
  · intro c hc
    rw [strip, List.head?_reverse] at hc
    have hlast := getLast?_dropWhile _ _ c hc
    rw [List.getLast?_reverse] at hlast
    exact head?_dropWhile _ _ c hlast
  · intro c hc
    rw [strip, List.getLast?_reverse] at hc
    exact head?_dropWhile _ _ c hc

theorem strip_of_trimmed {s : List Char} (h : unicode.Trimmed s) : unicode.strip s = s := by
  have hlast : ∀ c ∈ s.reverse.head?, unicode.charIsSpace c = false := by
    rw [List.head?_reverse]
    exact h.last
  rw [strip, dropWhile_of_head? h.head, dropWhile_of_head? hlast, List.reverse_reverse]

theorem stripped_stripped (s : String) :
    unicode.stripped (unicode.stripped s) = unicode.stripped s := by
  rw [stripped, stripped, String.toList_ofList, strip_of_trimmed (trimmed_strip _)]

section FlatMap

variable {f : Char → List Char}
    (hf : ∀ c, unicode.charIsSpace c = false →
      f c ≠ [] ∧ ∀ d ∈ f c, unicode.charIsSpace d = false)

include hf

private theorem head?_flatMap {s : List Char} (h : ∀ c ∈ s.head?, unicode.charIsSpace c = false) :
    ∀ c ∈ (s.flatMap f).head?, unicode.charIsSpace c = false := by
  cases s with
  | nil => simp
  | cons d s =>
      intro c hc
      obtain ⟨hne, hink⟩ := hf d (h d rfl)
      rw [List.flatMap_cons, List.head?_append_of_ne_nil _ hne] at hc
      exact hink c (List.mem_of_head? hc)

private theorem getLast?_flatMap {s : List Char}
    (h : ∀ c ∈ s.getLast?, unicode.charIsSpace c = false) :
    ∀ c ∈ (s.flatMap f).getLast?, unicode.charIsSpace c = false := by
  intro c hc
  rcases List.eq_nil_or_concat' s with rfl | ⟨t, d, rfl⟩
  · simp at hc
  · obtain ⟨hne, hink⟩ := hf d (h d (by simp))
    rw [List.flatMap_append, List.flatMap_singleton, List.getLast?_append_of_ne_nil _ hne] at hc
    exact hink c (List.mem_of_getLast? hc)

end FlatMap

private theorem at_ink : unicode.charIsSpace '@' = false := by
  rw [charIsSpace, if_pos (by decide)]
  decide

theorem trimmed_normalizeEmail (h : unicode.KeepsInk) {s : List Char} (hs : unicode.Trimmed s) :
    unicode.Trimmed (unicode.normalizeEmail s) := by
  unfold normalizeEmail
  rw [strip_of_trimmed hs]
  cases hparts : rsplitAt s with
  | none => exact hs
  | some parts =>
      obtain ⟨name, domain⟩ := parts
      have heq := rsplitAt_eq_some hparts
      constructor
      · intro c hc
        cases name with
        | nil =>
            have hat : c = '@' := by simpa [eq_comm] using hc
            exact hat ▸ at_ink
        | cons d name =>
            have hd : c = d := by simpa [eq_comm] using hc
            refine hs.head c ?_
            rw [heq, hd]
            rfl
      · intro c hc
        rw [List.getLast?_append_of_ne_nil _ (List.cons_ne_nil _ _)] at hc
        rcases List.eq_nil_or_concat' domain with rfl | ⟨t, d, rfl⟩
        · have hat : c = '@' := by simpa [lower, eq_comm] using hc
          exact hat ▸ at_ink
        · have hlast : ∀ c ∈ ('@' :: (t ++ [d])).getLast?, unicode.charIsSpace c = false := by
            intro c hc
            refine hs.last c ?_
            rw [heq, List.getLast?_append_of_ne_nil _ (List.cons_ne_nil _ _)]
            exact hc
          have hlower : ∀ c ∈ (t ++ [d]).getLast?, unicode.charIsSpace c = false := by
            intro c hc
            refine hlast c ?_
            rw [← List.singleton_append, List.getLast?_append_of_ne_nil _ (by simp)]
            exact hc
          have hne : unicode.lower (t ++ [d]) ≠ [] := by
            rw [lower, List.flatMap_append, List.flatMap_singleton]
            exact List.append_ne_nil_of_right_ne_nil _ (h.lower d (hlower d (by simp))).1
          rw [← List.singleton_append, List.getLast?_append_of_ne_nil _ hne] at hc
          exact getLast?_flatMap h.lower hlower c hc

/-- An address in the manager's form is found by itself. -/
theorem stripped_normalizeEmailAddress (h : unicode.KeepsInk) (s : String) :
    unicode.stripped (unicode.normalizeEmailAddress s) = unicode.normalizeEmailAddress s := by
  have hs := trimmed_normalizeEmail h (trimmed_strip s.toList)
  rw [stripped, normalizeEmailAddress, String.toList_ofList, strip_of_trimmed]
  exact ⟨head?_flatMap h.casefold hs.head, getLast?_flatMap h.casefold hs.last⟩

end Unicode

/-! ### Bytes and keys of text -/

/-- `sorted(set(values))`. -/
def sortedSet (values : List String) : List String := values.dedup.insertionSort (· ≤ ·)

theorem mem_sortedSet {value : String} {values : List String} :
    value ∈ sortedSet values ↔ value ∈ values := by
  rw [sortedSet, (List.perm_insertionSort _ _).mem_iff, List.mem_dedup]

/-- `str.encode()`. -/
def encode (s : String) : List UInt8 := s.toUTF8.data.toList

theorem encode_injective : Function.Injective encode := by
  intro s t h
  exact String.toByteArray_inj.mp (ByteArray.ext (Array.toList_inj.mp h))

/-- `uuid.hex`: 32 hexadecimal digits. -/
def UUID.hex (pk : UUID) : String :=
  String.ofList ((List.range 32).reverse.map fun i => (pk / 16 ^ i % 16).digitChar)

theorem UUID.plain_hex (pk : UUID) : ∀ c ∈ (UUID.hex pk).toList, Unicode.Plain c := by
  have hdigit : ∀ n, n < 16 → Unicode.Plain n.digitChar := by decide
  intro c hc
  rw [UUID.hex, String.toList_ofList, List.mem_map] at hc
  obtain ⟨i, _, rfl⟩ := hc
  exact hdigit _ (Nat.mod_lt _ (by decide))

/-- `str(uuid)`: the digits in groups of 8, 4, 4, 4 and 12. -/
def UUID.str (pk : UUID) : String :=
  let digits := (UUID.hex pk).toList
  String.ofList (digits.take 8 ++ '-' :: (digits.drop 8).take 4 ++ '-' :: (digits.drop 12).take 4 ++
    '-' :: (digits.drop 16).take 4 ++ '-' :: digits.drop 20)

theorem eq_of_digits {n a b : Nat} (ha : a < 16 ^ n) (hb : b < 16 ^ n)
    (h : ∀ i < n, a / 16 ^ i % 16 = b / 16 ^ i % 16) : a = b := by
  induction n generalizing a b with
  | zero => omega
  | succ n ih =>
      rw [Nat.pow_succ] at ha hb
      have hlow := h 0 (Nat.succ_pos n)
      rw [Nat.pow_zero, Nat.div_one, Nat.div_one] at hlow
      have hhigh : a / 16 = b / 16 := by
        refine ih (by omega) (by omega) fun i hi => ?_
        have hdigit := h (i + 1) (by omega)
        rw [Nat.pow_succ', ← Nat.div_div_eq_div_mul, ← Nat.div_div_eq_div_mul] at hdigit
        exact hdigit
      omega

/-- An id of 128 bits is read back from its digits. -/
theorem UUID.hex_injective {pk pk' : UUID} (hpk : pk < 2 ^ 128) (hpk' : pk' < 2 ^ 128)
    (h : UUID.hex pk = UUID.hex pk') : pk = pk' := by
  have hdigit : ∀ m < 16, ∀ n < 16, m.digitChar = n.digitChar → m = n := by decide
  have hmap := String.ofList_injective h
  refine eq_of_digits (n := 32) (by omega) (by omega) fun i hi => ?_
  refine hdigit _ (Nat.mod_lt _ (by decide)) _ (Nat.mod_lt _ (by decide)) ?_
  exact List.map_inj_left.mp hmap i (List.mem_reverse.mpr (List.mem_range.mpr hi))

end DjangoFoundation
