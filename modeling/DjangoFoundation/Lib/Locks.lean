/-
Exclusive locks held by the rows of a table.

The rows are whatever holds locks: processes, transactions, requests.  Nobody waits here; a
lock is taken where it is free, and `Exclusive` says that no lock is held by two.
-/
import DjangoFoundation.Lib.Table

universe u v w

namespace Locks

variable {α : Type u} {κ : Type v} {ℓ : Type w} [Keyed α κ]

/-- No lock is held by two rows. -/
def Exclusive (locked : α → List ℓ) (t : Table α) : Prop :=
  ∀ a ∈ t, ∀ b ∈ t, ∀ lock ∈ locked a, lock ∈ locked b → Keyed.pk a = Keyed.pk b

variable {locked : α → List ℓ} {t t' : Table α}

theorem exclusive_empty : Exclusive locked (∅ : Table α) :=
  fun a ha => absurd ha (Table.not_mem_empty a)

section Rows

variable [DecidableEq κ]

/-- A row that comes in holds nothing yet. -/
theorem Exclusive.insert? {a : α} (h : Exclusive locked t) (hinsert : t.insert? a = some t')
    (ha : locked a = []) : Exclusive locked t' := by
  intro b hb c hc lock hlb hlc
  rcases (Table.mem_insert? hinsert).mp hb with hb | rfl
  · rcases (Table.mem_insert? hinsert).mp hc with hc | rfl
    · exact h b hb c hc lock hlb hlc
    · rw [ha] at hlc
      cases hlc
  · rw [ha] at hlb
    cases hlb

/-- A row that goes leaves its locks. -/
theorem Exclusive.erase (h : Exclusive locked t) (k : κ) : Exclusive locked (t.erase k) := by
  intro a ha b hb
  exact h a (Table.mem_erase.mp ha).1 b (Table.mem_erase.mp hb).1

end Rows

/-! ### Free locks -/

section Free

variable [DecidableEq κ] [DecidableEq ℓ]

/-- No row but the one under `k` holds the lock. -/
def free (locked : α → List ℓ) (t : Table α) (k : κ) (lock : ℓ) : Bool :=
  t.rows.all fun a => Keyed.pk a = k ∨ lock ∉ locked a

variable {k : κ} {lock : ℓ}

theorem free_iff : free locked t k lock = true ↔
    ∀ a ∈ t, Keyed.pk a ≠ k → lock ∉ locked a := by
  simp only [free, List.all_eq_true, decide_eq_true_eq]
  constructor
  · intro h a ha hk
    exact (h a ha).resolve_left hk
  · intro h a ha
    by_cases hk : Keyed.pk a = k
    · exact Or.inl hk
    · exact Or.inr (h a ha hk)

/-- Nobody else is there to hold a lock. -/
theorem free_singleton (locked : α → List ℓ) (a : α) (lock : ℓ) :
    free locked {a} (Keyed.pk a) lock = true := by
  rw [free_iff]
  intro b hb hne
  exact absurd (congrArg Keyed.pk (List.mem_singleton.mp hb)) hne

theorem free_empty (locked : α → List ℓ) (k : κ) (lock : ℓ) :
    free locked (∅ : Table α) k lock = true := rfl

/-- What a row holds is free once the row is gone. -/
theorem Exclusive.free_erase (h : Exclusive locked t) {a : α} (ha : a ∈ t)
    (hlock : lock ∈ locked a) (k : κ) : free locked (t.erase (Keyed.pk a)) k lock = true := by
  rw [free_iff]
  intro b hb _ hb'
  obtain ⟨hmem, hne⟩ := Table.mem_erase.mp hb
  exact hne (h b hmem a ha lock hb' hlock)

/-- A row keeps some of its locks and takes others that are free. -/
theorem Exclusive.modify {f : α → α} (h : Exclusive locked t)
    (hf : ∀ a, Keyed.pk (f a) = Keyed.pk a)
    (hlocks : ∀ a ∈ t, Keyed.pk a = k → ∀ lock ∈ locked (f a),
      lock ∈ locked a ∨ free locked t k lock = true) : Exclusive locked (t.modify k f hf) := by
  -- a lock of the row rewritten is held by no other row
  have hone : ∀ a ∈ t, Keyed.pk a = k → ∀ b ∈ t, Keyed.pk b ≠ k → ∀ lock ∈ locked (f a),
      lock ∉ locked b := by
    intro a ha hka b hb hkb lock hlock hlb
    rcases hlocks a ha hka lock hlock with hheld | hfree
    · exact hkb ((h a ha b hb lock hheld hlb).symm.trans hka)
    · exact free_iff.mp hfree b hb hkb hlb
  intro b hb c hc lock hlb hlc
  rcases Table.mem_modify.mp hb with ⟨b', hb', hkb, rfl⟩ | ⟨hb, hkb⟩
  · rcases Table.mem_modify.mp hc with ⟨c', hc', hkc, rfl⟩ | ⟨hc, hkc⟩
    · rw [hf, hf, hkb, hkc]
    · exact absurd hlc (hone b' hb' hkb c hc hkc lock hlb)
  · rcases Table.mem_modify.mp hc with ⟨c', hc', hkc, rfl⟩ | ⟨hc, hkc⟩
    · exact absurd hlb (hone c' hc' hkc b hb hkb lock hlc)
    · exact h b hb c hc lock hlb hlc

end Free

end Locks
