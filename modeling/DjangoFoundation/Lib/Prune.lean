/-
A table beside what is left of it once rows nobody needs are removed.

`Pruned dead t t'` says that every key has the same row in both, or a dead one in `t`
and none in `t'`.  Removing dead rows gets there, and what is written to both tables
alike keeps it, as long as a dead row stays dead.
-/
import DjangoFoundation.Lib.Table

universe u v

namespace Table

variable {α : Type u} {κ : Type v} [Keyed α κ] [DecidableEq κ]

/-- Every row of `t` is in `t'` too, or dead and gone. -/
def Pruned (dead : α → Prop) (t t' : Table α) : Prop :=
  ∀ k, t'.get? k = t.get? k ∨ t'.get? k = none ∧ ∃ a, t.get? k = some a ∧ dead a

namespace Pruned

variable {dead dead' : α → Prop} {t t' u : Table α}

theorem refl (t : Table α) : Pruned dead t t := fun _ => Or.inl rfl

theorem imp (h : Pruned dead t t') (hdead : ∀ a ∈ t, dead a → dead' a) : Pruned dead' t t' := by
  intro k
  rcases h k with hsame | ⟨hnone, a, ha, hda⟩
  · exact Or.inl hsame
  · exact Or.inr ⟨hnone, a, ha, hdead a (mem_of_get? ha) hda⟩

/-- What is left was there. -/
theorem get?_of_some (h : Pruned dead t t') {k : κ} {a : α} (ha : t'.get? k = some a) :
    t.get? k = some a := by
  rcases h k with hsame | ⟨hnone, _⟩
  · exact hsame.symm.trans ha
  · rw [hnone] at ha
    cases ha

/-- A lookup that only takes living rows finds the same. -/
theorem filter_eq (h : Pruned dead t t') {k : κ} {p : α → Bool}
    (hp : ∀ a ∈ t, Keyed.pk a = k → dead a → p a = false) :
    (t'.get? k).filter p = (t.get? k).filter p := by
  rcases h k with hsame | ⟨hnone, a, ha, hda⟩
  · rw [hsame]
  · rw [hnone, ha, Option.filter_none, Option.filter_some,
      hp a (mem_of_get? ha) (pk_of_get? ha) hda]
    rfl

theorem delete (h : Pruned dead t t') {p : α → Bool} (hp : ∀ a ∈ t', p a = true → dead a) :
    Pruned dead t (t'.delete p) := by
  intro k
  rw [get?_delete]
  rcases h k with hsame | ⟨hnone, hdead⟩
  · cases hk : t'.get? k with
    | none =>
        rw [hk] at hsame
        exact Or.inl hsame
    | some a =>
        rw [hk] at hsame
        by_cases hpa : p a = true
        · refine Or.inr ⟨?_, a, hsame.symm, hp a (mem_of_get? hk) hpa⟩
          rw [Option.filter_some, hpa]
          rfl
        · refine Or.inl ?_
          rw [Option.filter_some_pos (by simpa using hpa)]
          exact hsame
  · rw [hnone]
    exact Or.inr ⟨rfl, hdead⟩

theorem update (h : Pruned dead t t') (p : α → Bool) {f : α → α}
    (hf : ∀ a, Keyed.pk (f a) = Keyed.pk a) (hdead : ∀ a, dead a → dead (f a)) :
    Pruned dead (t.update p f hf) (t'.update p f hf) := by
  intro k
  rw [get?_update, get?_update]
  rcases h k with hsame | ⟨hnone, a, ha, hda⟩
  · rw [hsame]
    exact Or.inl rfl
  · rw [hnone, ha]
    refine Or.inr ⟨rfl, _, rfl, ?_⟩
    show dead (if p a then f a else a)
    by_cases hpa : p a = true
    · rw [if_pos hpa]
      exact hdead a hda
    · rw [if_neg hpa]
      exact hda

theorem modify (h : Pruned dead t t') (k : κ) {f : α → α}
    (hf : ∀ a, Keyed.pk (f a) = Keyed.pk a) (hdead : ∀ a, dead a → dead (f a)) :
    Pruned dead (t.modify k f hf) (t'.modify k f hf) :=
  h.update _ hf hdead

theorem insert? (h : Pruned dead t t') {a : α} (hins : t.insert? a = some u) :
    ∃ u', t'.insert? a = some u' ∧ Pruned dead u u' := by
  have hfree : ∀ b ∈ t', Keyed.pk b ≠ Keyed.pk a := by
    rw [← get?_eq_none]
    have hnone : t.get? (Keyed.pk a) = none := get?_eq_none.mpr (insert?_eq_some hins).1
    rcases h (Keyed.pk a) with hsame | ⟨hgone, _⟩
    · exact hsame.trans hnone
    · exact hgone
  obtain ⟨u', hu'⟩ := exists_insert? hfree
  refine ⟨u', hu', fun k => ?_⟩
  rw [get?_insert? hu', get?_insert? hins]
  by_cases hk : Keyed.pk a = k
  · rw [if_pos hk, if_pos hk]
    exact Or.inl rfl
  · rw [if_neg hk, if_neg hk]
    exact h k

/-- Got or created, where the row that is there, if any, is a living one. -/
theorem ensure (h : Pruned dead t t') {a : α}
    (hlive : ∀ b ∈ t, Keyed.pk b = Keyed.pk a → ¬dead b) :
    Pruned dead (t.ensure a) (t'.ensure a) := by
  intro k
  rw [get?_ensure, get?_ensure]
  rcases h k with hsame | ⟨hnone, b, hb, hdb⟩
  · rw [hsame]
    exact Or.inl rfl
  · have hk : Keyed.pk a ≠ k := by
      intro hk
      exact hlive b (mem_of_get? hb) ((pk_of_get? hb).trans hk.symm) hdb
    rw [if_neg hk, if_neg hk]
    exact Or.inr ⟨hnone, b, hb, hdb⟩

end Pruned

end Table
