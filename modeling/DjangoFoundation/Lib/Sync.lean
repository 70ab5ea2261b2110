/-
Tables brought up to a list of definitions: rows updated or created, and rows got or created.

One lemma says what a later lookup finds after one such step, one what it finds after the list.
-/
import DjangoFoundation.Lib.Table

universe u v w

namespace Table

variable {α : Type u} {β : Type w} {κ : Type v} [Keyed α κ] [DecidableEq κ]

/-- Update or create: the row under the key of `a` rewritten, or `a` if there is none.  The row
comes with the table. -/
def updateOrCreate (t : Table α) (a : α) (f : α → α) (hf : ∀ a, Keyed.pk (f a) = Keyed.pk a) :
    α × Table α :=
  match t.get? (Keyed.pk a) with
  | some old => (f old, t.modify (Keyed.pk a) f hf)
  | none => (a, t.ensure a)

theorem updateOrCreate_fst (t : Table α) (a : α) (f : α → α)
    (hf : ∀ a, Keyed.pk (f a) = Keyed.pk a) :
    (t.updateOrCreate a f hf).1 = ((t.get? (Keyed.pk a)).map f).getD a := by
  unfold updateOrCreate
  cases t.get? (Keyed.pk a) with
  | none => rfl
  | some old => rfl

theorem get?_updateOrCreate (t : Table α) (a : α) (f : α → α)
    (hf : ∀ a, Keyed.pk (f a) = Keyed.pk a) (k : κ) :
    (t.updateOrCreate a f hf).2.get? k =
      if Keyed.pk a = k then some (((t.get? k).map f).getD a) else t.get? k := by
  unfold updateOrCreate
  by_cases hk : Keyed.pk a = k
  · subst hk
    rw [if_pos rfl]
    cases hold : t.get? (Keyed.pk a) with
    | none =>
        rw [get?_ensure, if_pos rfl, hold]
        rfl
    | some old =>
        rw [get?_modify, if_pos rfl, hold]
        rfl
  · rw [if_neg hk]
    cases t.get? (Keyed.pk a) with
    | none => rw [get?_ensure, if_neg hk]
    | some old => rw [get?_modify, if_neg (Ne.symm hk)]

/-- Of a list of definitions with distinct keys the one with the key decides. -/
theorem get?_foldl_updateOrCreate (row : β → α) (f : β → α → α)
    (hf : ∀ b a, Keyed.pk (f b a) = Keyed.pk a) (l : List β)
    (hl : (l.map fun b => Keyed.pk (row b)).Nodup) (t : Table α) (k : κ) :
    (l.foldl (fun t b => (t.updateOrCreate (row b) (f b) (hf b)).2) t).get? k =
      match l.find? fun b => Keyed.pk (row b) = k with
      | some b => some (((t.get? k).map (f b)).getD (row b))
      | none => t.get? k := by
  induction l generalizing t with
  | nil => rfl
  | cons b l ih =>
      rw [List.map_cons, List.nodup_cons] at hl
      rw [List.foldl_cons, ih hl.2, get?_updateOrCreate]
      by_cases hk : Keyed.pk (row b) = k
      · -- no other definition has the key
        have hnone : (l.find? fun c => Keyed.pk (row c) = k) = none := by
          rw [List.find?_eq_none]
          intro c hc hck
          have hpk : Keyed.pk (row c) = Keyed.pk (row b) := (of_decide_eq_true hck).trans hk.symm
          exact hl.1 (hpk ▸ List.mem_map_of_mem hc)
        rw [hnone, List.find?_cons_of_pos (by simpa using hk)]
        simp only [hk, if_true]
      · rw [List.find?_cons_of_neg (by simpa using hk)]
        simp only [hk, if_false]

/-- A lookup does not depend on the order of the rows. -/
theorem get?_congr {t t' : Table α} (h : ∀ a, a ∈ t ↔ a ∈ t') (k : κ) : t.get? k = t'.get? k := by
  cases hget : t'.get? k with
  | none =>
      rw [get?_eq_none] at hget ⊢
      exact fun a ha => hget a ((h a).mp ha)
  | some a =>
      rw [get?_eq_some] at hget ⊢
      exact ⟨(h a).mpr hget.1, hget.2⟩

/-- What has been got or created is got. -/
theorem get?_ensure_ensure (t : Table α) {a b : α} (h : Keyed.pk b = Keyed.pk a) (k : κ) :
    ((t.ensure a).ensure b).get? k = (t.ensure a).get? k := by
  rw [get?_ensure]
  by_cases hk : Keyed.pk b = k
  · rw [if_pos hk, get?_ensure, if_pos (h.symm.trans hk)]
    rfl
  · rw [if_neg hk]

/-- What was there stays; else the first one with the key is there. -/
theorem get?_foldl_ensure (l : List α) (t : Table α) (k : κ) :
    (l.foldl ensure t).get? k = (t.get? k).or (l.find? fun a => Keyed.pk a = k) := by
  induction l generalizing t with
  | nil => rw [List.foldl_nil, List.find?_nil, Option.or_none]
  | cons a l ih =>
      rw [List.foldl_cons, ih, get?_ensure]
      by_cases hk : Keyed.pk a = k
      · rw [if_pos hk, List.find?_cons_of_pos (by simpa using hk)]
        cases t.get? k <;> rfl
      · rw [if_neg hk, List.find?_cons_of_neg (by simpa using hk)]

end Table
