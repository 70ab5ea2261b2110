/-
A cache of values, each kept for a time.

An entry is a value and the instant it expires at; it is there up to that instant and not
at it, unless it is deleted or dropped before.
-/
import Mathlib.Data.Option.Basic

universe u v

/-- Values and expiries by key. -/
structure Memo (κ : Type u) (ν : Type v) where
  entry : κ → Option (ν × Int)

namespace Memo

variable {κ : Type u} {ν : Type v}

instance : EmptyCollection (Memo κ ν) := ⟨⟨fun _ => none⟩⟩

/-- `cache.get(key)`. -/
def get (m : Memo κ ν) (now : Int) (k : κ) : Option ν :=
  ((m.entry k).filter fun e => now < e.2).map Prod.fst

theorem get_eq_some {m : Memo κ ν} {now : Int} {k : κ} {value : ν} :
    m.get now k = some value ↔ ∃ expiry, m.entry k = some (value, expiry) ∧ now < expiry := by
  simp only [get, Option.map_eq_some_iff, Option.filter_eq_some_iff, decide_eq_true_eq,
    Prod.exists]
  constructor
  · rintro ⟨_, expiry, ⟨hentry, hlive⟩, rfl⟩
    exact ⟨expiry, hentry, hlive⟩
  · rintro ⟨expiry, hentry, hlive⟩
    exact ⟨value, expiry, ⟨hentry, hlive⟩, rfl⟩

/-- What is there later was there before. -/
theorem get_of_le {m : Memo κ ν} {now later : Int} {k : κ} {value : ν} (hle : now ≤ later)
    (h : m.get later k = some value) : m.get now k = some value := by
  obtain ⟨expiry, hentry, hlive⟩ := get_eq_some.mp h
  exact get_eq_some.mpr ⟨expiry, hentry, by omega⟩

section Write

variable [DecidableEq κ]

/-- `cache.set(key, value, timeout)`. -/
def set (m : Memo κ ν) (now : Int) (k : κ) (value : ν) (timeout : Int) : Memo κ ν where
  entry j := if j = k then some (value, now + timeout) else m.entry j

/-- `cache.delete(key)`. -/
def delete (m : Memo κ ν) (k : κ) : Memo κ ν where
  entry j := if j = k then none else m.entry j

theorem get_set (m : Memo κ ν) {now timeout : Int} (htimeout : 0 < timeout) (k j : κ) (value : ν) :
    (m.set now k value timeout).get now j = if j = k then some value else m.get now j := by
  by_cases hj : j = k
  · have hlive : now < now + timeout := by omega
    simp [get, set, hj, hlive]
  · simp [get, set, hj]

theorem get_delete (m : Memo κ ν) (now : Int) (k j : κ) :
    (m.delete k).get now j = if j = k then none else m.get now j := by
  by_cases hj : j = k
  · simp [get, delete, hj]
  · simp [get, delete, hj]

end Write

end Memo
