/-
Database tables as lists of rows with distinct primary keys.

A table is its rows together with the fact that no two share a key, so a lookup
by key is a lookup of *the* row.  The operations are the ones a query layer has:
get by key, insert under a new key, update or delete where a condition holds.
Each has one lemma saying what a later lookup finds, and one saying which rows
are there, and nothing below this file looks at the list again.

An operation is a function of the rows, so that two runs can be compared table by table; the
lemmas near the end say how a rewriting of rows passes the other operations.
-/
import Mathlib.Data.List.Nodup
import Mathlib.Data.List.Basic

universe u v

/-- Rows that carry their own primary key. -/
class Keyed (α : Type u) (κ : outParam (Type v)) where
  pk : α → κ

/-- Rows, no two of them under one key. -/
@[ext]
structure Table (α : Type u) {κ : Type v} [Keyed α κ] where
  rows : List α
  nodup : (rows.map Keyed.pk).Nodup

namespace Table

variable {α : Type u} {κ : Type v} [Keyed α κ]

instance : EmptyCollection (Table α) := ⟨⟨[], List.nodup_nil⟩⟩

instance : Singleton α (Table α) := ⟨fun a => ⟨[a], List.nodup_singleton _⟩⟩

instance : Membership α (Table α) := ⟨fun t a => a ∈ t.rows⟩

@[simp] theorem mem_rows {t : Table α} {a : α} : a ∈ t.rows ↔ a ∈ t := Iff.rfl

@[simp] theorem not_mem_empty (a : α) : a ∉ (∅ : Table α) := List.not_mem_nil

/-- Two rows under one key are the same row. -/
theorem eq_of_pk_eq {t : Table α} {a b : α} (ha : a ∈ t) (hb : b ∈ t)
    (h : Keyed.pk a = Keyed.pk b) : a = b :=
  List.inj_on_of_nodup_map t.nodup ha hb h

/-! ### Lookup

Keys are distinct, so the row under a key is found by membership alone, and any two rows with
one key are the same.
-/

section Lookup

variable [DecidableEq κ]

/-- The row under a key. -/
def get? (t : Table α) (k : κ) : Option α :=
  t.rows.find? fun a => Keyed.pk a = k

theorem get?_eq_some {t : Table α} {k : κ} {a : α} :
    t.get? k = some a ↔ a ∈ t ∧ Keyed.pk a = k := by
  constructor
  · intro h
    exact ⟨List.mem_of_find?_eq_some h, by simpa using List.find?_some h⟩
  · rintro ⟨hmem, rfl⟩
    cases hf : t.get? (Keyed.pk a) with
    | none =>
        have := List.find?_eq_none.mp hf a hmem
        simp at this
    | some b =>
        have hb : b ∈ t := List.mem_of_find?_eq_some hf
        have hk : Keyed.pk b = Keyed.pk a := by simpa using List.find?_some hf
        rw [eq_of_pk_eq hb hmem hk]

theorem get?_eq_none {t : Table α} {k : κ} :
    t.get? k = none ↔ ∀ a ∈ t, Keyed.pk a ≠ k := by
  simp only [get?, List.find?_eq_none, decide_eq_true_eq]
  exact Iff.rfl

theorem pk_of_get? {t : Table α} {k : κ} {a : α} (h : t.get? k = some a) : Keyed.pk a = k :=
  (get?_eq_some.mp h).2

theorem mem_of_get? {t : Table α} {k : κ} {a : α} (h : t.get? k = some a) : a ∈ t :=
  (get?_eq_some.mp h).1

theorem get?_of_mem {t : Table α} {a : α} (h : a ∈ t) : t.get? (Keyed.pk a) = some a :=
  get?_eq_some.mpr ⟨h, rfl⟩

/-- The row under a key is the only one. -/
theorem filter_pk_of_get? {t : Table α} {k : κ} {a : α} (h : t.get? k = some a) :
    (t.rows.filter fun b => Keyed.pk b = k) = [a] := by
  obtain ⟨ha, hk⟩ := get?_eq_some.mp h
  obtain ⟨before, after, hrows⟩ := List.append_of_mem ha
  have hnodup := t.nodup
  rw [hrows, List.map_append, List.map_cons, List.nodup_append, List.nodup_cons] at hnodup
  obtain ⟨_, ⟨hafter, _⟩, hbefore⟩ := hnodup
  have hnone : ∀ b, b ∈ before ∨ b ∈ after → ¬Keyed.pk b = k := by
    rintro b (hb | hb) hbk
    · exact hbefore _ (List.mem_map_of_mem hb) _ List.mem_cons_self (hbk.trans hk.symm)
    · exact hafter ((hbk.trans hk.symm) ▸ List.mem_map_of_mem hb)
  rw [hrows, List.filter_append, List.filter_cons_of_pos (by simpa using hk),
    List.filter_eq_nil_iff.mpr, List.filter_eq_nil_iff.mpr, List.nil_append]
  · intro b hb
    simpa using hnone b (Or.inr hb)
  · intro b hb
    simpa using hnone b (Or.inl hb)

/-- A key is among those of the rows selected by `p` where its row is. -/
theorem mem_pks_filter {t : Table α} {k : κ} {a : α} (h : t.get? k = some a) (p : α → Bool) :
    k ∈ (t.rows.filter p).map Keyed.pk ↔ p a = true := by
  rw [List.mem_map]
  constructor
  · intro ⟨b, hb, hk⟩
    obtain ⟨hmem, hp⟩ := List.mem_filter.mp hb
    have hab : b = a := eq_of_pk_eq hmem (mem_of_get? h) (hk.trans (pk_of_get? h).symm)
    exact hab ▸ hp
  · intro hp
    exact ⟨a, List.mem_filter.mpr ⟨mem_of_get? h, hp⟩, pk_of_get? h⟩

end Lookup

/-! ### Update

Rows are rewritten in their places and keep their keys, so which keys there are stays the same.
-/

/-- Rewrites the rows where `p` holds, leaving their keys alone. -/
def update (t : Table α) (p : α → Bool) (f : α → α)
    (hf : ∀ a, Keyed.pk (f a) = Keyed.pk a := by intro _; rfl) : Table α where
  rows := t.rows.map fun a => if p a then f a else a
  nodup := by
    have hpk : ((t.rows.map fun a => if p a then f a else a).map Keyed.pk)
        = t.rows.map Keyed.pk := by
      rw [List.map_map]
      refine List.map_congr_left fun a _ => ?_
      simp only [Function.comp_apply]
      split
      · exact hf a
      · rfl
    rw [hpk]
    exact t.nodup

theorem mem_update {t : Table α} {p : α → Bool} {f : α → α}
    {hf : ∀ a, Keyed.pk (f a) = Keyed.pk a} {b : α} :
    b ∈ t.update p f hf ↔ ∃ a ∈ t, b = if p a then f a else a := by
  simp only [← mem_rows, update, List.mem_map, eq_comm]

/-- Two conditions that agree on the rows select the same. -/
theorem update_congr {t : Table α} {p q : α → Bool} {f : α → α}
    {hf : ∀ a, Keyed.pk (f a) = Keyed.pk a} (h : ∀ a ∈ t, p a = q a) :
    t.update p f hf = t.update q f hf := by
  ext1
  refine List.map_congr_left fun a ha => ?_
  rw [h a ha]

theorem get?_update [DecidableEq κ] (t : Table α) (p : α → Bool) (f : α → α)
    (hf : ∀ a, Keyed.pk (f a) = Keyed.pk a) (k : κ) :
    (t.update p f hf).get? k = (t.get? k).map fun a => if p a then f a else a := by
  have hcomp : ((fun b : α => decide (Keyed.pk b = k)) ∘ fun a => if p a then f a else a)
      = fun a => decide (Keyed.pk a = k) := by
    funext a
    simp only [Function.comp_apply]
    split
    · rw [hf a]
    · rfl
  simp only [get?, update, List.find?_map, hcomp]

section Modify

variable [DecidableEq κ]

/-- Rewrites the row under a key. -/
def modify (t : Table α) (k : κ) (f : α → α)
    (hf : ∀ a, Keyed.pk (f a) = Keyed.pk a := by intro _; rfl) : Table α :=
  t.update (fun a => Keyed.pk a = k) f hf

theorem get?_modify (t : Table α) (k j : κ) (f : α → α)
    (hf : ∀ a, Keyed.pk (f a) = Keyed.pk a) :
    (t.modify k f hf).get? j = if j = k then (t.get? j).map f else t.get? j := by
  rw [modify, get?_update]
  cases hj : t.get? j with
  | none => simp
  | some a =>
      have hpk := pk_of_get? hj
      by_cases h : j = k
      · subst h
        simp [hpk]
      · simp [hpk, h]

theorem mem_modify {t : Table α} {k : κ} {f : α → α} {hf : ∀ a, Keyed.pk (f a) = Keyed.pk a}
    {b : α} : b ∈ t.modify k f hf ↔
      (∃ a ∈ t, Keyed.pk a = k ∧ b = f a) ∨ (b ∈ t ∧ Keyed.pk b ≠ k) := by
  rw [modify, mem_update]
  constructor
  · rintro ⟨a, ha, rfl⟩
    by_cases hk : Keyed.pk a = k
    · exact Or.inl ⟨a, ha, hk, by simp [hk]⟩
    · rw [if_neg (by simpa using hk)]
      exact Or.inr ⟨ha, hk⟩
  · rintro (⟨a, ha, hk, rfl⟩ | ⟨hb, hk⟩)
    · exact ⟨a, ha, by simp [hk]⟩
    · exact ⟨b, hb, by simp [hk]⟩

/-- Rewriting a row changes a count by that row alone. -/
theorem countP_modify {t : Table α} {k : κ} {a : α} (h : t.get? k = some a) {f : α → α}
    {hf : ∀ a, Keyed.pk (f a) = Keyed.pk a} (p : α → Bool) :
    (t.modify k f hf).rows.countP p + (if p a then 1 else 0) =
      t.rows.countP p + if p (f a) then 1 else 0 := by
  have hpk := pk_of_get? h
  obtain ⟨l₁, l₂, hrows⟩ := List.append_of_mem (mem_of_get? h)
  have hnodup := t.nodup
  rw [hrows, List.map_append, List.map_cons, List.nodup_append, List.nodup_cons] at hnodup
  obtain ⟨-, ⟨hafter, -⟩, hbefore⟩ := hnodup
  have hsame : ∀ l : List α, (∀ b ∈ l, Keyed.pk b ≠ k) →
      (l.map fun b => if decide (Keyed.pk b = k) then f b else b) = l := by
    intro l hl
    refine (List.map_congr_left fun b hb => ?_).trans (List.map_id l)
    rw [if_neg (by simpa using hl b hb)]
    rfl
  have hmodify : (t.modify k f hf).rows = l₁ ++ f a :: l₂ := by
    show t.rows.map (fun b => if decide (Keyed.pk b = k) then f b else b) = _
    rw [hrows, List.map_append, List.map_cons, hsame l₁, hsame l₂, if_pos (by simpa using hpk)]
    · intro b hb heq
      exact hafter (List.mem_map.mpr ⟨b, hb, heq.trans hpk.symm⟩)
    · intro b hb heq
      exact hbefore _ (List.mem_map_of_mem hb) _ List.mem_cons_self (heq.trans hpk.symm)
  rw [hmodify, hrows, List.countP_append, List.countP_append, List.countP_cons, List.countP_cons]
  omega

end Modify

/-! ### Insert

`insert?` refuses a key that is taken, and `ensure` leaves the row there is.
-/

section Insert

variable [DecidableEq κ]

/-- Adds a row under a key that is not taken. -/
def insert? (t : Table α) (a : α) : Option (Table α) :=
  if h : Keyed.pk a ∉ t.rows.map Keyed.pk then
    some ⟨t.rows ++ [a], by
      rw [List.map_append, List.nodup_append]
      refine ⟨t.nodup, List.nodup_singleton _, ?_⟩
      intro x hx y hy hxy
      rw [List.map_singleton, List.mem_singleton] at hy
      exact h (hy ▸ hxy ▸ hx)⟩
  else none

theorem insert?_eq_some {t t' : Table α} {a : α} (h : t.insert? a = some t') :
    (∀ b ∈ t, Keyed.pk b ≠ Keyed.pk a) ∧ t'.rows = t.rows ++ [a] := by
  unfold insert? at h
  split at h
  · rename_i hnew
    simp only [Option.some.injEq] at h
    refine ⟨fun b hb hk => hnew (hk ▸ List.mem_map_of_mem hb), ?_⟩
    rw [← h]
  · simp at h

/-- A key nobody has can be inserted under. -/
theorem exists_insert? {t : Table α} {a : α} (h : ∀ b ∈ t, Keyed.pk b ≠ Keyed.pk a) :
    ∃ t', t.insert? a = some t' := by
  refine ⟨_, dif_pos fun hmem => ?_⟩
  obtain ⟨b, hb, hpk⟩ := List.mem_map.mp hmem
  exact h b hb hpk

/-- An insertion fails where a row has the key. -/
theorem exists_of_insert?_eq_none {t : Table α} {a : α} (h : t.insert? a = none) :
    ∃ b, t.get? (Keyed.pk a) = some b := by
  cases hget : t.get? (Keyed.pk a) with
  | some b => exact ⟨b, rfl⟩
  | none =>
      obtain ⟨t', ht'⟩ := exists_insert? (get?_eq_none.mp hget)
      rw [h] at ht'
      cases ht'

theorem mem_insert? {t t' : Table α} {a b : α} (h : t.insert? a = some t') :
    b ∈ t' ↔ b ∈ t ∨ b = a := by
  simp only [← mem_rows, (insert?_eq_some h).2, List.mem_append, List.mem_singleton]

theorem get?_insert? {t t' : Table α} {a : α} (h : t.insert? a = some t') (k : κ) :
    t'.get? k = if Keyed.pk a = k then some a else t.get? k := by
  obtain ⟨hnew, hrows⟩ := insert?_eq_some h
  split
  · rename_i hk
    exact get?_eq_some.mpr ⟨(mem_insert? h).mpr (Or.inr rfl), hk⟩
  · rename_i hk
    simp only [get?, hrows, List.find?_append]
    simp [hk]

theorem get?_insert?_self {t t' : Table α} {a : α} (h : t.insert? a = some t') :
    t'.get? (Keyed.pk a) = some a := by
  rw [get?_insert? h, if_pos rfl]

/-- The rows that were there are still found. -/
theorem get?_insert?_old {t t' : Table α} {a b : α} {k : κ} (h : t.insert? a = some t')
    (hb : t.get? k = some b) : t'.get? k = some b := by
  rw [get?_insert? h, if_neg, hb]
  intro hk
  exact (insert?_eq_some h).1 b (mem_of_get? hb) ((pk_of_get? hb).trans hk.symm)

/-- Rows under free keys, no two of them the same, all go in. -/
theorem exists_foldlM_insert? {β : Type*} (f : β → α) (l : List β) (t : Table α)
    (hfree : ∀ b ∈ l, ∀ a ∈ t, Keyed.pk a ≠ Keyed.pk (f b))
    (hnodup : (l.map fun b => Keyed.pk (f b)).Nodup) :
    ∃ t' : Table α, l.foldlM (fun t b => t.insert? (f b)) t = some t' ∧
      t'.rows = t.rows ++ l.map f := by
  induction l generalizing t with
  | nil => exact ⟨t, rfl, by rw [List.map_nil, List.append_nil]⟩
  | cons b l ih =>
      rw [List.map_cons, List.nodup_cons] at hnodup
      obtain ⟨t₁, ht₁⟩ := exists_insert? (hfree b List.mem_cons_self)
      have hfree₁ : ∀ c ∈ l, ∀ a ∈ t₁, Keyed.pk a ≠ Keyed.pk (f c) := by
        intro c hc a ha
        rcases (mem_insert? ht₁).mp ha with ha | rfl
        · exact hfree c (List.mem_cons_of_mem b hc) a ha
        · exact fun hpk => hnodup.1 (hpk ▸ List.mem_map_of_mem hc)
      obtain ⟨t', ht', hrows⟩ := ih t₁ hfree₁ hnodup.2
      refine ⟨t', ?_, ?_⟩
      · rw [List.foldlM_cons, ht₁]
        exact ht'
      · rw [hrows, (insert?_eq_some ht₁).2, List.map_cons, List.append_assoc, List.singleton_append]

/-- They are there one after the other. -/
theorem rows_of_foldlM_insert? {β : Type*} {f : β → α} {l : List β} {t t' : Table α}
    (h : l.foldlM (fun (t : Table α) b => t.insert? (f b)) t = some t') :
    t'.rows = t.rows ++ l.map f := by
  induction l generalizing t with
  | nil =>
      cases h
      exact (List.append_nil _).symm
  | cons b l ih =>
      rw [List.foldlM_cons, Option.bind_eq_bind, Option.bind_eq_some_iff] at h
      obtain ⟨t₁, ht₁, hrest⟩ := h
      rw [ih hrest, (insert?_eq_some ht₁).2, List.append_assoc]
      rfl

/-- Get or create: the row under the key of `a`, which is `a` where there was none. -/
def ensure (t : Table α) (a : α) : Table α := (t.insert? a).getD t

theorem get?_ensure (t : Table α) (a : α) (k : κ) :
    (t.ensure a).get? k = if Keyed.pk a = k then some ((t.get? k).getD a) else t.get? k := by
  unfold ensure
  cases h : t.insert? a with
  | some t' =>
      rw [Option.getD_some, get?_insert? h]
      split
      · rename_i hk
        rw [get?_eq_none.mpr fun b hb hpk => (insert?_eq_some h).1 b hb (hpk.trans hk.symm)]
        rfl
      · rfl
  | none =>
      obtain ⟨b, hb⟩ := exists_of_insert?_eq_none h
      rw [Option.getD_none]
      split
      · rename_i hk
        rw [← hk, hb]
        rfl
      · rfl

theorem mem_ensure {t : Table α} {a b : α} (h : b ∈ t.ensure a) : b ∈ t ∨ b = a := by
  unfold ensure at h
  cases hins : t.insert? a with
  | some t' =>
      rw [hins, Option.getD_some] at h
      exact (mem_insert? hins).mp h
  | none =>
      rw [hins, Option.getD_none] at h
      exact Or.inl h

theorem get?_ensure_of_some {t : Table α} {a b : α} {k : κ} (h : t.get? k = some b) :
    (t.ensure a).get? k = some b := by
  rw [get?_ensure, h, Option.getD_some, ite_self]

end Insert

/-! ### Delete -/

/-- Removes the rows where `p` holds. -/
def delete (t : Table α) (p : α → Bool) : Table α where
  rows := t.rows.filter fun a => !p a
  nodup := t.nodup.sublist (List.filter_sublist.map _)

theorem mem_delete {t : Table α} {p : α → Bool} {a : α} :
    a ∈ t.delete p ↔ a ∈ t ∧ p a = false := by
  simp only [← mem_rows, delete, List.mem_filter, Bool.not_eq_true']

theorem get?_delete [DecidableEq κ] (t : Table α) (p : α → Bool) (k : κ) :
    (t.delete p).get? k = (t.get? k).filter fun a => !p a := by
  cases h : t.get? k with
  | none =>
      rw [get?_eq_none] at h
      rw [Option.filter_none, get?_eq_none]
      intro a ha
      exact h a (mem_delete.mp ha).1
  | some a =>
      obtain ⟨ha, hk⟩ := get?_eq_some.mp h
      by_cases hp : p a = true
      · rw [Option.filter_some_neg (by simp [hp]), get?_eq_none]
        intro b hb hbk
        obtain ⟨hmem, hpb⟩ := mem_delete.mp hb
        rw [eq_of_pk_eq hmem ha (hbk.trans hk.symm), hp] at hpb
        cases hpb
      · rw [Option.filter_some_pos (by simpa using hp), get?_eq_some]
        exact ⟨mem_delete.mpr ⟨ha, by simpa using hp⟩, hk⟩

/-- Removes the row under a key. -/
def erase [DecidableEq κ] (t : Table α) (k : κ) : Table α :=
  t.delete fun a => Keyed.pk a = k

theorem mem_erase [DecidableEq κ] {t : Table α} {k : κ} {a : α} :
    a ∈ t.erase k ↔ a ∈ t ∧ Keyed.pk a ≠ k := by
  simp only [erase, mem_delete, decide_eq_false_iff_not]

theorem get?_erase [DecidableEq κ] (t : Table α) (j k : κ) :
    (t.erase j).get? k = if k = j then none else t.get? k := by
  rw [erase, get?_delete]
  cases h : t.get? k with
  | none => rw [Option.filter_none, ite_self]
  | some a =>
      have hpk := pk_of_get? h
      by_cases hk : k = j
      · rw [if_pos hk, Option.filter_some_neg (by simp [hpk, hk])]
      · rw [if_neg hk, Option.filter_some_pos (by simp [hpk, hk])]

theorem mem_erase_of_ne [DecidableEq κ] {t : Table α} {k : κ} {a : α} (h : t.get? k ≠ some a) :
    a ∈ t.erase k ↔ a ∈ t := by
  rw [mem_erase]
  exact ⟨And.left, fun hmem => ⟨hmem, fun hpk => h (hpk ▸ get?_of_mem hmem)⟩⟩

/-- Removing a row changes a count by that row alone. -/
theorem countP_erase [DecidableEq κ] {t : Table α} {k : κ} {a : α} (h : t.get? k = some a)
    (p : α → Bool) :
    (t.erase k).rows.countP p + (if p a then 1 else 0) = t.rows.countP p := by
  have hsplit := List.countP_eq_countP_filter_add t.rows p fun b => Keyed.pk b = k
  rw [filter_pk_of_get? h, List.countP_singleton] at hsplit
  rw [hsplit, Nat.add_comm]
  rfl

/-! ### Replace

`put` is for a whole row that is stored under its key, whether or not there was one.
-/

/-- Stores a row in the place of the one under its key, or beside the others. -/
def put [DecidableEq κ] (t : Table α) (a : α) : Table α where
  rows := (t.erase (Keyed.pk a)).rows ++ [a]
  nodup := by
    rw [List.map_append, List.nodup_append]
    refine ⟨(t.erase (Keyed.pk a)).nodup, List.nodup_singleton _, ?_⟩
    intro k hk j hj hkj
    rw [List.map_singleton, List.mem_singleton] at hj
    obtain ⟨b, hb, hbk⟩ := List.mem_map.mp hk
    exact (mem_erase.mp (mem_rows.mp hb)).2 (hbk.trans (hkj.trans hj))

theorem mem_put [DecidableEq κ] {t : Table α} {a b : α} :
    b ∈ t.put a ↔ b = a ∨ b ∈ t ∧ Keyed.pk b ≠ Keyed.pk a := by
  rw [← mem_erase, ← mem_rows, put, List.mem_append, List.mem_singleton, mem_rows, or_comm]

theorem get?_put [DecidableEq κ] (t : Table α) (a : α) (k : κ) :
    (t.put a).get? k = if Keyed.pk a = k then some a else t.get? k := by
  by_cases hk : Keyed.pk a = k
  · rw [if_pos hk, get?_eq_some]
    exact ⟨mem_put.mpr (Or.inl rfl), hk⟩
  · rw [if_neg hk]
    show List.find? _ ((t.erase (Keyed.pk a)).rows ++ [a]) = _
    have hrest := get?_erase t (Keyed.pk a) k
    rw [if_neg (Ne.symm hk)] at hrest
    rw [List.find?_append, ← hrest]
    show ((t.erase (Keyed.pk a)).get? k).or _ = _
    simp [hk]

/-- Whether the row in its place goes before or with it makes no difference. -/
theorem put_erase [DecidableEq κ] (t : Table α) (a : α) :
    (t.erase (Keyed.pk a)).put a = t.put a := by
  ext1
  show ((t.rows.filter _).filter _) ++ [a] = (t.rows.filter _) ++ [a]
  rw [List.filter_filter]
  simp only [Bool.and_self]

/-- A row that is neither the new one nor the one in its place. -/
theorem mem_put_of_ne [DecidableEq κ] {t : Table α} {a b : α} (hnew : b ≠ a)
    (hold : t.get? (Keyed.pk a) ≠ some b) : b ∈ t.put a ↔ b ∈ t := by
  rw [mem_put]
  constructor
  · rintro (heq | ⟨hmem, -⟩)
    · exact absurd heq hnew
    · exact hmem
  · intro hmem
    exact Or.inr ⟨hmem, fun hpk => hold (hpk ▸ get?_of_mem hmem)⟩

/-- What was put under a key is gone with it. -/
theorem erase_put [DecidableEq κ] (t : Table α) (a : α) :
    (t.put a).erase (Keyed.pk a) = t.erase (Keyed.pk a) := by
  ext1
  show List.filter _ (List.filter _ t.rows ++ [a]) = List.filter _ t.rows
  rw [List.filter_append, List.filter_filter, List.filter_cons_of_neg (by simp), List.filter_nil,
    List.append_nil]
  simp only [Bool.and_self]

theorem put_put [DecidableEq κ] (t : Table α) {a b : α} (hpk : Keyed.pk b = Keyed.pk a) :
    (t.put a).put b = t.put b := by
  rw [← put_erase (t.put a) b, hpk, erase_put, ← hpk, put_erase]

/-! ### Rewritten rows -/

section Rewritten

variable [DecidableEq κ] {f g : α → α} {hf : ∀ a, Keyed.pk (f a) = Keyed.pk a}
  {hg : ∀ a, Keyed.pk (g a) = Keyed.pk a}

theorem modify_comm (t : Table α) (j k : κ) (h : ∀ a, f (g a) = g (f a)) :
    (t.modify j f hf).modify k g hg = (t.modify k g hg).modify j f hf := by
  ext1
  show List.map _ (List.map _ t.rows) = List.map _ (List.map _ t.rows)
  rw [List.map_map, List.map_map]
  refine List.map_congr_left fun a _ => ?_
  simp only [Function.comp_apply, decide_eq_true_eq]
  have hf' : Keyed.pk (if Keyed.pk a = j then f a else a) = Keyed.pk a := by
    split
    · exact hf a
    · rfl
  have hg' : Keyed.pk (if Keyed.pk a = k then g a else a) = Keyed.pk a := by
    split
    · exact hg a
    · rfl
  rw [hf', hg']
  by_cases hj : Keyed.pk a = j
  · by_cases hk : Keyed.pk a = k
    · simp only [if_pos hj, if_pos hk, h]
    · simp only [if_pos hj, if_neg hk]
  · simp only [if_neg hj]

/-- What one rewriting leaves of another under the same key. -/
theorem modify_modify (t : Table α) (k : κ) (hf : ∀ a, Keyed.pk (f a) = Keyed.pk a)
    (hg : ∀ a, Keyed.pk (g a) = Keyed.pk a) (h : ∀ a, g (f a) = g a) :
    (t.modify k f hf).modify k g hg = t.modify k g hg := by
  ext1
  show List.map _ (List.map _ t.rows) = List.map _ t.rows
  rw [List.map_map]
  refine List.map_congr_left fun a _ => ?_
  simp only [Function.comp_apply, decide_eq_true_eq]
  by_cases hk : Keyed.pk a = k
  · simp only [if_pos hk, if_pos ((hf a).trans hk), h]
  · simp only [if_neg hk]

/-- A key nobody has is no row's to rewrite. -/
theorem modify_of_forall_ne {t : Table α} {k : κ} (hf : ∀ a, Keyed.pk (f a) = Keyed.pk a)
    (h : ∀ a ∈ t, Keyed.pk a ≠ k) :
    t.modify k f hf = t := by
  ext1
  refine (List.map_congr_left fun a ha => ?_).trans (List.map_id t.rows)
  simp [h a ha]

theorem find?_modify (t : Table α) (k : κ) (hf : ∀ a, Keyed.pk (f a) = Keyed.pk a)
    {p : α → Bool} (hp : ∀ a, p (f a) = p a) :
    (t.modify k f hf).rows.find? p =
      (t.rows.find? p).map fun a => if Keyed.pk a = k then f a else a := by
  have hcomp : (p ∘ fun a => if decide (Keyed.pk a = k) = true then f a else a) = p := by
    funext a
    simp only [Function.comp_apply]
    split
    · exact hp a
    · rfl
  show (List.map _ t.rows).find? p = _
  rw [List.find?_map, hcomp]
  simp only [decide_eq_true_eq]

theorem insert?_of_get? {t : Table α} {a b : α} (h : t.get? (Keyed.pk a) = some b) :
    t.insert? a = none := by
  cases hins : t.insert? a with
  | none => rfl
  | some t' => exact absurd (pk_of_get? h) ((insert?_eq_some hins).1 b (mem_of_get? h))

/-- A row goes in beside rewritten ones.. -/
theorem insert?_modify (t : Table α) {a : α} {k : κ} (hf : ∀ a, Keyed.pk (f a) = Keyed.pk a)
    (h : Keyed.pk a ≠ k) :
    (t.modify k f hf).insert? a = (t.insert? a).map fun t' => t'.modify k f hf := by
  have hget := get?_modify t k (Keyed.pk a) f hf
  rw [if_neg h] at hget
  cases hins : t.insert? a with
  | none =>
      obtain ⟨b, hb⟩ := exists_of_insert?_eq_none hins
      exact insert?_of_get? (hget.trans hb)
  | some t' =>
      have hfree : ∀ b ∈ t.modify k f hf, Keyed.pk b ≠ Keyed.pk a := by
        rw [← get?_eq_none, hget, get?_eq_none]
        exact (insert?_eq_some hins).1
      obtain ⟨u, hu⟩ := exists_insert? hfree
      rw [hu, Option.map_some, Option.some.injEq]
      ext1
      rw [(insert?_eq_some hu).2]
      show List.map _ t.rows ++ [a] = List.map _ t'.rows
      rw [(insert?_eq_some hins).2, List.map_append]
      simp [h]

/-- ..and a rewritten row as the row, rewritten once it is there. -/
theorem insert?_rewritten (t : Table α) (a : α) (hf : ∀ a, Keyed.pk (f a) = Keyed.pk a) :
    t.insert? (f a) = (t.insert? a).map fun t' => t'.modify (Keyed.pk a) f hf := by
  cases hins : t.insert? a with
  | none =>
      obtain ⟨b, hb⟩ := exists_of_insert?_eq_none hins
      exact insert?_of_get? ((hf a).symm ▸ hb)
  | some t' =>
      obtain ⟨hfree, hrows⟩ := insert?_eq_some hins
      have hfree' : ∀ b ∈ t, Keyed.pk b ≠ Keyed.pk (f a) := by
        rw [hf]
        exact hfree
      obtain ⟨u, hu⟩ := exists_insert? hfree'
      rw [hu, Option.map_some, Option.some.injEq]
      ext1
      rw [(insert?_eq_some hu).2]
      show _ = List.map _ t'.rows
      rw [hrows, List.map_append]
      have hold := congrArg rows (modify_of_forall_ne hf hfree)
      exact congrArg₂ _ hold.symm (by simp)

end Rewritten

/-! ### One row -/

section Singleton

variable [DecidableEq κ]

theorem insert?_empty (a : α) : (∅ : Table α).insert? a = some {a} := rfl

theorem get?_singleton (a : α) : ({a} : Table α).get? (Keyed.pk a) = some a :=
  get?_of_mem (List.mem_singleton.mpr rfl)

theorem modify_singleton (a : α) (f : α → α) (hf : ∀ a, Keyed.pk (f a) = Keyed.pk a) :
    ({a} : Table α).modify (Keyed.pk a) f hf = {f a} := by
  ext1
  simp [modify, update, Singleton.singleton]

theorem erase_singleton (a : α) : ({a} : Table α).erase (Keyed.pk a) = ∅ := by
  ext1
  simp [erase, delete, Singleton.singleton, EmptyCollection.emptyCollection]

end Singleton

end Table
