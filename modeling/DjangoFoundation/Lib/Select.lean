/-
The part of a table where a condition holds.

What is written to a table is written to the part, where it concerns rows of it, and leaves
the part alone, where it does not.  Each operation has a lemma for either.
-/
import DjangoFoundation.Lib.Table

universe u v

namespace Table

variable {α : Type u} {κ : Type v} [Keyed α κ] {t t' : Table α} {p q : α → Bool} {a : α}

/-- The rows where `p` holds. -/
def select (t : Table α) (p : α → Bool) : Table α where
  rows := t.rows.filter p
  nodup := t.nodup.sublist (List.filter_sublist.map _)

theorem mem_select : a ∈ t.select p ↔ a ∈ t ∧ p a = true := List.mem_filter

@[simp] theorem select_empty (p : α → Bool) : (∅ : Table α).select p = ∅ := rfl

theorem select_delete (t : Table α) (p q : α → Bool) :
    (t.delete q).select p = (t.select p).delete q := by
  ext1
  show List.filter _ (List.filter _ t.rows) = List.filter _ (List.filter _ t.rows)
  rw [List.filter_filter, List.filter_filter]
  simp only [Bool.and_comm]

theorem select_delete_of_not (h : ∀ a ∈ t, q a = true → p a = false) :
    (t.delete q).select p = t.select p := by
  ext1
  show List.filter _ (List.filter _ t.rows) = List.filter _ t.rows
  rw [List.filter_filter]
  refine List.filter_congr fun a ha => ?_
  by_cases hq : q a = true
  · rw [h a ha hq, Bool.false_and]
  · simp [hq]

section Update

variable {f : α → α} {hf : ∀ a, Keyed.pk (f a) = Keyed.pk a}

theorem select_update (hp : ∀ a, p (f a) = p a) :
    (t.update q f hf).select p = (t.select p).update q f hf := by
  ext1
  show List.filter p (List.map _ t.rows) = List.map _ (List.filter p t.rows)
  rw [List.filter_map]
  refine congrArg (List.map _) (List.filter_congr fun a _ => ?_)
  by_cases hq : q a = true
  · simp [hq, hp]
  · simp [hq]

theorem select_update_of_not (hp : ∀ a, p (f a) = p a) (h : ∀ a ∈ t, q a = true → p a = false) :
    (t.update q f hf).select p = t.select p := by
  rw [select_update hp]
  ext1
  show List.map _ (List.filter p t.rows) = List.filter p t.rows
  refine (List.map_congr_left fun a ha => ?_).trans (List.map_id _)
  obtain ⟨hmem, hpa⟩ := List.mem_filter.mp ha
  by_cases hq : q a = true
  · rw [h a hmem hq] at hpa
    cases hpa
  · simp [hq]

end Update

section Keys

variable [DecidableEq κ]

theorem get?_select (t : Table α) (p : α → Bool) (k : κ) :
    (t.select p).get? k = (t.get? k).filter p := by
  have hdelete : t.select p = t.delete fun a => !p a := by
    ext1
    show List.filter p t.rows = List.filter _ t.rows
    simp only [Bool.not_not]
  rw [hdelete, get?_delete]
  simp only [Bool.not_not]

theorem select_insert? (h : t.insert? a = some t') (hp : p a = true) :
    (t.select p).insert? a = some (t'.select p) := by
  obtain ⟨hfree, hrows⟩ := insert?_eq_some h
  obtain ⟨u, hu⟩ := exists_insert? (t := t.select p) (a := a) fun b hb =>
    hfree b (mem_select.mp hb).1
  have hsame : u = t'.select p := by
    ext1
    rw [(insert?_eq_some hu).2]
    show t.rows.filter p ++ [a] = t'.rows.filter p
    rw [hrows, List.filter_append, List.filter_cons_of_pos hp, List.filter_nil]
  rw [hu, hsame]

theorem select_insert?_of_not (h : t.insert? a = some t') (hp : p a = false) :
    t'.select p = t.select p := by
  ext1
  show t'.rows.filter p = t.rows.filter p
  rw [(insert?_eq_some h).2, List.filter_append, List.filter_cons_of_neg (by simp [hp]),
    List.filter_nil, List.append_nil]

theorem select_ensure (hp : p a = true) (hkey : ∀ b ∈ t, Keyed.pk b = Keyed.pk a → p b = true) :
    (t.ensure a).select p = (t.select p).ensure a := by
  unfold ensure
  cases h : t.insert? a with
  | some t' =>
      rw [select_insert? h hp]
      rfl
  | none =>
      obtain ⟨b, hb⟩ := exists_of_insert?_eq_none h
      have hpb := hkey b (mem_of_get? hb) (pk_of_get? hb)
      have hget : (t.select p).get? (Keyed.pk a) = some b := by
        rw [get?_select, hb, Option.filter_some_pos hpb]
      rw [insert?_of_get? hget]
      rfl

theorem select_ensure_of_not (hp : p a = false) : (t.ensure a).select p = t.select p := by
  unfold ensure
  cases h : t.insert? a with
  | some t' => exact select_insert?_of_not h hp
  | none => rfl

theorem select_put (hp : p a = true) : (t.put a).select p = (t.select p).put a := by
  ext1
  show List.filter p ((t.erase (Keyed.pk a)).rows ++ [a]) =
    ((t.select p).erase (Keyed.pk a)).rows ++ [a]
  rw [List.filter_append, List.filter_cons_of_pos hp, List.filter_nil]
  exact congrArg (fun u => Table.rows u ++ [a]) (select_delete t p _)

theorem select_put_of_not (hp : p a = false)
    (hkey : ∀ b ∈ t, Keyed.pk b = Keyed.pk a → p b = false) :
    (t.put a).select p = t.select p := by
  have herase : (t.erase (Keyed.pk a)).select p = t.select p :=
    select_delete_of_not fun b hb hk => hkey b hb (of_decide_eq_true hk)
  rw [← herase]
  ext1
  show List.filter p ((t.erase (Keyed.pk a)).rows ++ [a]) = List.filter p _
  rw [List.filter_append, List.filter_cons_of_neg (by simp [hp]), List.filter_nil,
    List.append_nil]

end Keys

end Table
