/-
The life of a notification, over any interleaving.

It is unread, then read, then gone, and only its user moves it on, except that a clean-up may
remove what is outdated.  What `mark_all_read` reports is bounded by that: a notification is
unread at most once, so it is counted at most once.
-/
import Mathlib.Algebra.GroupWithZero.Nat
import DjangoFoundation.Proofs.Notifications.Isolation

namespace DjangoFoundation.Notifications

open Run

variable {settings : Settings} {s t : State} {e : Int × Event} {now : Int} {user pk : UUID}
  {n : Notification} {a : Option Answer}

/-! ### Statement -/

/-- What a step leaves of the notifications there are. -/
structure Moves (settings : Settings) (s : State) (e : Int × Event) (t : State) : Prop where
  /-- Whatever is changed is changed by its user, or removed as outdated. -/
  owner : ∀ pk n, s.notifications.get? pk = some n → t.notifications.get? pk = some n ∨
    e.2.user? = some n.user ∨
      e.2 = .cleanup ∧ outdated settings e.1 n = true ∧ t.notifications.get? pk = none
  /-- What is read is never unread again. -/
  read : ∀ pk n m, s.notifications.get? pk = some n → t.notifications.get? pk = some m →
    n.readAt.isSome = true → m.readAt.isSome = true
  /-- What is gone comes back only if it is created again. -/
  gone : ∀ pk, s.notifications.get? pk = none → e.2.key? ≠ some pk →
    t.notifications.get? pk = none

/-- The call counts this notification. -/
def countedBy (pk : UUID) (s : State) (e : Int × Event) : Bool :=
  match e.2 with
  | .markAllRead user => (s.notifications.get? pk).any (unread e.1 user)
  | _ => false

/-- The notification is there, unread. -/
def pending (pk : UUID) (s : State) : Nat :=
  if (s.notifications.get? pk).any fun n => n.readAt.isNone then 1 else 0

/-- What `mark_all_read` reports to the user. -/
def reported (settings : Settings) (user : UUID) (s : State) (e : Int × Event) : Option Nat :=
  match answer settings s e with
  | some (.updatedCount count) => if e.2.user? = some user then some count else none
  | _ => none

def notifies (user : UUID) (e : Int × Event) : Bool := e.2.user? = some user && e.2.key?.isSome

/-- The user's notifications that have not been read. -/
def unreadOf (s : State) (user : UUID) : Nat :=
  s.notifications.rows.countP fun n => n.user = user && n.readAt.isNone

/-! ### One step

`Fate` already says what a step can do to a row.  What is added is the order: what is read or
gone stays so, hence what is counted once is not counted again.
-/

theorem moves_step (hs : Owned s) (h : step settings s e = some t) : Moves settings s e t where
  owner pk n hn := by
    have hfate := fate h hn
    revert hfate
    generalize t.notifications.get? pk = m
    rintro (_ | ⟨he, _⟩ | ⟨hr, he, _, hpk⟩ | ⟨hr, he, _, hpk⟩ | ⟨he, hold⟩)
    · exact Or.inl rfl
    · exact Or.inr (Or.inl (by rw [he]; rfl))
    · rw [hs _ hr n (Table.mem_of_get? hn) hpk.symm, he]
      exact Or.inr (Or.inl rfl)
    · rw [hs _ hr n (Table.mem_of_get? hn) hpk.symm, he]
      exact Or.inr (Or.inl rfl)
    · exact Or.inr (Or.inr ⟨he, hold, rfl⟩)
  read pk n m hn hm hread := by
    have hfate := fate h hn
    rw [hm] at hfate
    cases hfate with
    | kept => exact hread
    | readWithAll => rfl
    | read => rfl
  gone pk hn hkey := get?_step_none h hn hkey

/-- Read, or gone. -/
def Settled (pk : UUID) (s : State) : Prop :=
  ∀ n, s.notifications.get? pk = some n → n.readAt.isSome = true

theorem pending_eq_zero : pending pk s = 0 ↔ Settled pk s := by
  unfold pending Settled
  cases s.notifications.get? pk with
  | none => simp
  | some n => simp [← Option.isSome_iff_ne_none]

theorem settled_step (hs : Settled pk s) (h : step settings s e = some t)
    (hkey : e.2.key? ≠ some pk) : Settled pk t := by
  intro m hm
  cases hn : s.notifications.get? pk with
  | none =>
      rw [get?_step_none h hn hkey] at hm
      cases hm
  | some n =>
      have hread := hs n hn
      have hfate := fate h hn
      rw [hm] at hfate
      cases hfate with
      | kept => exact hread
      | readWithAll => rfl
      | read => rfl

theorem countedBy_eq_true : countedBy pk s e = true ↔
    ∃ user n, e.2 = .markAllRead user ∧ s.notifications.get? pk = some n ∧
      unread e.1 user n = true := by
  obtain ⟨now, e⟩ := e
  cases e <;> simp [countedBy, Option.any_eq_true]

theorem settled_of_counted (hc : countedBy pk s e = true) (h : step settings s e = some t) :
    Settled pk t := by
  obtain ⟨user, n, he, hn, hunread⟩ := countedBy_eq_true.mp hc
  obtain ⟨now, e⟩ := e
  obtain rfl : e = .markAllRead user := he
  obtain ⟨a, ha⟩ := step_eq_some.mp h
  cases ha
  have hrow := get?_markAllRead now s user pk
  rw [hn, Option.map_some, if_pos hunread] at hrow
  intro m hm
  rw [hrow] at hm
  cases hm
  rfl

theorem not_counted_of_settled (hs : Settled pk s) : countedBy pk s e = false := by
  rw [Bool.eq_false_iff]
  intro hc
  obtain ⟨user, n, -, hn, hunread⟩ := countedBy_eq_true.mp hc
  rw [unread, Bool.and_eq_true, Option.isNone_iff_eq_none] at hunread
  have hread := hs n hn
  rw [hunread.2] at hread
  cases hread

/-! ### What is reported

`mark_all_read` reports the rows its `UPDATE` matched, and those leave `unreadOf` with it.
Every other event leaves at most as many unread, except one that creates a row.
-/

theorem countP_map_update {α : Type*} (l : List α) {P q : α → Bool} {f : α → α}
    (h : ∀ a, P (f a) = false) :
    (l.map fun a => if q a then f a else a).countP P + l.countP (fun a => P a && q a) =
      l.countP P := by
  induction l with
  | nil => rfl
  | cons a l ih =>
      simp only [List.map_cons, List.countP_cons]
      by_cases hq : q a = true
      · simp only [hq, if_true, h, Bool.and_true, Bool.false_eq_true, if_false]
        omega
      · rw [Bool.not_eq_true] at hq
        simp only [hq, Bool.and_false, Bool.false_eq_true, if_false]
        omega

/-- The rows counted in `unreadOf`. -/
def unreadRow (user : UUID) (n : Notification) : Bool := n.user = user && n.readAt.isNone

theorem unreadRow_setRead (now : Int) (user : UUID) (n : Notification) :
    unreadRow user { n with readAt := some now } = false := by
  rw [unreadRow, Option.isNone_some, Bool.and_false]

theorem unreadOf_markAllRead (now : Int) (s : State) (user : UUID) :
    unreadOf (markAllRead now s user).1 user + s.notifications.rows.countP (unread now user) =
      unreadOf s user := by
  have hcount := countP_map_update s.notifications.rows (q := unread now user)
    (unreadRow_setRead now user)
  have hrows : s.notifications.rows.countP (fun n => unreadRow user n && unread now user n) =
      s.notifications.rows.countP (unread now user) := by
    refine List.countP_congr fun n _ => ?_
    rw [unreadRow, unread, ← and_user_of_visible now user n, Bool.and_comm (decide _) n.readAt.isNone,
      Bool.and_assoc]
    simp only [Bool.and_eq_true]
    tauto
  rw [hrows] at hcount
  exact hcount

theorem unreadOf_update_le (s : State) (user : UUID) (q : Notification → Bool) :
    (s.notifications.update q _ (pk_setRead now)).rows.countP (unreadRow user) ≤
      unreadOf s user := by
  have hcount := countP_map_update s.notifications.rows (q := q)
    (unreadRow_setRead now user)
  exact Nat.le.intro hcount

theorem unreadOf_delete_le (s : State) (user : UUID) (q : Notification → Bool) :
    (s.notifications.delete q).rows.countP (unreadRow user) ≤ unreadOf s user :=
  List.filter_sublist.countP_le

theorem unreadOf_finish_le (now : Int) (s : State) (r : InFlight) (user : UUID) :
    unreadOf (finish now s r).1 user ≤ unreadOf s user := by
  unfold finish finishMarkRead finishDestroy
  split
  · split_ifs
    · exact Nat.le_refl _
    · exact Nat.le_refl _
    · exact unreadOf_update_le s user _
  · exact unreadOf_delete_le s user _

theorem unreadOf_create_le {u u' : Table Notification} {row : Option Notification}
    (h : create u row = some u') (user : UUID) :
    u'.rows.countP (unreadRow user) ≤
      u.rows.countP (unreadRow user) + if row.any (fun n => n.user = user) then 1 else 0 := by
  cases row with
  | none =>
      cases h
      exact Nat.le_refl _
  | some row =>
      rw [(Table.insert?_eq_some h).2, List.countP_append, List.countP_singleton, unreadRow,
        Option.any_some]
      by_cases huser : row.user = user
      · rw [decide_eq_true huser, if_pos rfl]
        split
        · exact Nat.le_refl _
        · exact Nat.le_succ _
      · rw [decide_eq_false huser, Bool.false_and]

theorem reported_of_apply (h : apply settings e.1 s e.2 = some (t, a))
    (ha : ∀ count, a ≠ some (.updatedCount count)) : reported settings user s e = none := by
  have hanswer : answer settings s e = a := by
    rw [answer, h]
    rfl
  unfold reported
  rw [hanswer]
  split
  · rename_i count
    exact absurd rfl (ha count)
  · rfl

/-- A step that reports nothing and creates nothing leaves no more unread. -/
theorem unreadOf_quiet (h : apply settings e.1 s e.2 = some (t, a))
    (ha : ∀ count, a ≠ some (.updatedCount count)) (hle : unreadOf t user ≤ unreadOf s user) :
    unreadOf t user + (reported settings user s e).getD 0 ≤
      unreadOf s user + if notifies user e then 1 else 0 := by
  rw [reported_of_apply h ha]
  exact Nat.le_add_right_of_le hle

theorem finish_answer (now : Int) (s : State) (r : InFlight) (count : Nat) :
    (finish now s r).2 ≠ .updatedCount count := by
  unfold finish finishMarkRead finishDestroy
  split
  · split_ifs <;> exact Answer.noConfusion
  · exact Answer.noConfusion

theorem unreadOf_step (h : step settings s e = some t) (user : UUID) :
    unreadOf t user + (reported settings user s e).getD 0 ≤
      unreadOf s user + if notifies user e then 1 else 0 := by
  obtain ⟨now, e⟩ := e
  obtain ⟨a, ha⟩ := step_eq_some.mp h
  cases e with
  | notify v message channels pk =>
      obtain ⟨⟨t, b⟩, hb, heq⟩ := Option.map_eq_some_iff.mp ha
      cases heq
      obtain ⟨hcreate, -, -, rfl⟩ := notify_eq_some hb
      rw [reported_of_apply ha (by simp)]
      refine (unreadOf_create_le hcreate user).trans (Nat.add_le_add_left ?_ _)
      by_cases hv : v = user
      · have hnotifies : notifies user (now, .notify v message channels pk) = true := by
          simp [notifies, Event.user?, Event.key?, hv]
        rw [if_pos hnotifies]
        split
        · exact Nat.le_refl _
        · exact Nat.zero_le _
      · rw [if_neg, if_neg]
        · simp [notifies, Event.user?, hv]
        · rw [Option.any_eq_true]
          rintro ⟨n, hn, huser⟩
          exact hv ((newRow_eq_some hn).2.symm.trans (of_decide_eq_true huser))
  | setPreferences v emailNotifications =>
      cases ha
      exact unreadOf_quiet rfl (by simp) (Nat.le_refl _)
  | list v type =>
      cases ha
      exact unreadOf_quiet rfl (by simp) (Nat.le_refl _)
  | retrieve v pk =>
      cases ha
      refine unreadOf_quiet rfl ?_ (Nat.le_refl _)
      cases getObject now s v pk <;> simp
  | getObject v request action pk =>
      rcases start_eq_some ha with ⟨-, rfl, rfl⟩ | ⟨n, -, rfl, hrows, -⟩
      · exact unreadOf_quiet ha (by simp) (Nat.le_refl _)
      · refine unreadOf_quiet ha (by simp) (Nat.le_of_eq ?_)
        rw [unreadOf, hrows, unreadOf]
  | finish v request =>
      obtain ⟨r, hr, heq⟩ := Option.map_eq_some_iff.mp ha
      cases heq
      refine unreadOf_quiet ha (fun count hcount => ?_) (unreadOf_finish_le now _ r user)
      exact finish_answer now _ r count (Option.some.inj hcount)
  | markAllRead v =>
      cases ha
      by_cases hv : v = user
      · obtain rfl := hv
        have hreported : reported settings v s (now, .markAllRead v) =
            some (s.notifications.rows.countP (unread now v)) := by
          simp [reported, answer, apply, markAllRead, Event.user?]
        rw [hreported, Option.getD_some]
        exact (Nat.le_of_eq (unreadOf_markAllRead now s v)).trans (Nat.le_add_right _ _)
      · have hreported : reported settings user s (now, .markAllRead v) = none := by
          simp [reported, answer, apply, markAllRead, Event.user?, hv]
        rw [hreported]
        exact (unreadOf_update_le s user _).trans (Nat.le_add_right _ _)
  | cleanup =>
      cases ha
      exact unreadOf_quiet rfl (by simp) (unreadOf_delete_le s user _)

/-! ### Runs

The number unread is a balance: created notifications on one side, reported ones on the other.
-/

theorem sum_reported_le (user : UUID) {es : List (Int × Event)}
    (ht : exec (step settings) s es = some t) :
    (collect (step settings) (reported settings user) s es).sum + unreadOf t user ≤
      unreadOf s user + es.countP (notifies user) := by
  induction es generalizing s with
  | nil =>
      rw [exec_nil, Option.some.injEq] at ht
      rw [ht, collect, List.sum_nil, Nat.zero_add]
      exact Nat.le_add_right _ _
  | cons e es ih =>
      rw [exec_cons, Option.bind_eq_some_iff] at ht
      obtain ⟨s', he, hrest⟩ := ht
      have hstep := unreadOf_step he user
      have hrun := ih hrest
      have hsum : ((reported settings user s e).toList).sum =
          (reported settings user s e).getD 0 := by
        cases reported settings user s e <;> simp
      simp only [collect, he, List.sum_append, hsum, List.countP_cons]
      omega

theorem pending_step (h : step settings s e = some t) (pk : UUID) :
    pending pk t + (if countedBy pk s e then 1 else 0) ≤
      pending pk s + if e.2.key? = some pk then 1 else 0 := by
  have hle : pending pk t ≤ 1 := by
    unfold pending
    split <;> omega
  by_cases hkey : e.2.key? = some pk
  · have hnot : countedBy pk s e = false := by
      rw [Bool.eq_false_iff]
      intro hc
      obtain ⟨user, n, he, -⟩ := countedBy_eq_true.mp hc
      rw [he] at hkey
      cases hkey
    rw [if_pos hkey, hnot, if_neg Bool.false_ne_true]
    omega
  rw [if_neg hkey]
  by_cases hc : countedBy pk s e = true
  · rw [if_pos hc, pending_eq_zero.mpr (settled_of_counted hc h)]
    by_contra hlt
    have hzero : pending pk s = 0 := by omega
    rw [not_counted_of_settled (pending_eq_zero.mp hzero)] at hc
    cases hc
  · rw [if_neg hc]
    by_cases hs : Settled pk s
    · rw [pending_eq_zero.mpr (settled_step hs h hkey)]
      omega
    · have hone : pending pk s ≠ 0 := fun hzero => hs (pending_eq_zero.mp hzero)
      omega

theorem counted_le {es : List (Int × Event)} (pk : UUID) :
    (collect (step settings) (fun s e => if countedBy pk s e then some e else none) s es).length ≤
      pending pk s + es.countP fun e => e.2.key? = some pk := by
  induction es generalizing s with
  | nil => exact Nat.zero_le _
  | cons e es ih =>
      rw [collect]
      split
      · exact Nat.zero_le _
      · rename_i s' he
        have hstep := pending_step he pk
        have hrun := ih (s := s')
        have hlength : (if countedBy pk s e then some e else none).toList.length =
            if countedBy pk s e then 1 else 0 := by
          split <;> rfl
        rw [List.length_append, hlength, List.countP_cons]
        simp only [decide_eq_true_eq]
        omega

/-- **The life of a notification.**  Over any interleaving, only a notification's user changes
it, a clean-up removes none but outdated ones, none that is read is unread again and none that is
gone is back.  So `mark_all_read` counts none more often than it was unread or created, and all it
reports to a user is no more than what they had unread or were sent. -/
theorem notification_life {es : List (Int × Event)} (hs : Owned s)
    (hfresh : Steps (step settings) Fresh s es) (ht : exec (step settings) s es = some t) :
    Steps (step settings) (Moves settings) s es ∧
    (∀ pk, (collect (step settings) (fun s e => if countedBy pk s e then some e else none) s
        es).length ≤ pending pk s + es.countP fun e => e.2.key? = some pk) ∧
    ∀ user, (collect (step settings) (reported settings user) s es).sum + unreadOf t user ≤
      unreadOf s user + es.countP (notifies user) :=
  ⟨.of_inv (fun _ _ _ hs h hfresh => ⟨owned_step hs h hfresh, moves_step hs h⟩) hs hfresh,
    counted_le, fun user => sum_reported_le user ht⟩

theorem notification_life_twoUsers :
    Steps (step defaults) (Moves defaults) .init twoUsers := by
  obtain ⟨t, ht⟩ := Option.isSome_iff_exists.mp
    (show (exec (step defaults) .init twoUsers).isSome = true by decide +kernel)
  exact (notification_life owned_init (by decide +kernel) ht).1

end DjangoFoundation.Notifications
