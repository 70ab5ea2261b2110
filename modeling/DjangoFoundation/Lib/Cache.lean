/-
A cache of counters and flags, each kept for a time.

An entry is a value and the instant it expires at; it is there up to that instant and
not at it.  Writing sets a new expiry, counting up keeps the old one.  A timeout of zero
or less stores nothing that can be read again.
-/
import Mathlib.Data.Option.Basic

universe u

/-- Values and expiries by key. -/
structure Cache (κ : Type u) where
  entry : κ → Option (Nat × Int)

namespace Cache

variable {κ : Type u}

instance : EmptyCollection (Cache κ) := ⟨⟨fun _ => none⟩⟩

/-- The entry of a key, while it is kept. -/
def live? (c : Cache κ) (now : Int) (k : κ) : Option (Nat × Int) :=
  (c.entry k).filter fun e => now < e.2

theorem live?_eq_some {c : Cache κ} {now : Int} {k : κ} {e : Nat × Int} :
    c.live? now k = some e ↔ c.entry k = some e ∧ now < e.2 := by
  simp only [live?, Option.filter_eq_some_iff, decide_eq_true_eq]

/-- `cache.get(key)`. -/
def get (c : Cache κ) (now : Int) (k : κ) : Option Nat :=
  (c.live? now k).map Prod.fst

/-- What is left of a key's timeout. -/
def remaining (c : Cache κ) (now : Int) (k : κ) : Option Int :=
  (c.live? now k).map fun e => e.2 - now

section Write

variable [DecidableEq κ]

/-- `cache.set(key, value, timeout=timeout)`. -/
def set (c : Cache κ) (now : Int) (k : κ) (value : Nat) (timeout : Int) : Cache κ where
  entry j := if j = k then some (value, now + timeout) else c.entry j

/-- `cache.add(key, value, timeout=timeout)`: `none` where the key is there. -/
def add (c : Cache κ) (now : Int) (k : κ) (value : Nat) (timeout : Int) : Option (Cache κ) :=
  match c.live? now k with
  | none => some (c.set now k value timeout)
  | some _ => none

/-- `cache.incr(key)`, with the new value; `none` where the key is not there. -/
def incr (c : Cache κ) (now : Int) (k : κ) : Option (Nat × Cache κ) :=
  match c.live? now k with
  | none => none
  | some (value, expiry) =>
      some (value + 1, ⟨fun j => if j = k then some (value + 1, expiry) else c.entry j⟩)

/-- `cache.delete_many(keys)`. -/
def deleteMany (c : Cache κ) (keys : List κ) : Cache κ where
  entry j := if j ∈ keys then none else c.entry j

@[simp] theorem entry_set (c : Cache κ) (now : Int) (k j : κ) (value : Nat) (timeout : Int) :
    (c.set now k value timeout).entry j =
      if j = k then some (value, now + timeout) else c.entry j := rfl

end Write

end Cache
