/-
What other users do with their notifications nobody sees.

The part of the state that belongs to a user is a state of its own, and the user's requests are
answered from it alone: a run is, for that user, the run of the events about them and of the
clean-ups.  The one thing that could mix users up is a row that takes the key of one a request
still holds, after that one is gone; keys are drawn by `uuid4`, so `Fresh` says they do not.

What is compared are two runs: the one there was, and the one that is left of it when the other
users' events are taken out.  The user's part goes through the same states in both, and gets
the same answers.  `Fresh` is the one condition, and it is about random ids alone.
-/
import DjangoFoundation.Lib.Select
import DjangoFoundation.Notifications.Services

namespace DjangoFoundation.Notifications

open Run

variable {settings : Settings} {s t : State} {e : Int × Event} {now : Int} {user pk : UUID}
  {n : Notification} {r : InFlight} {a : Option Answer}

/-! ### Statement -/

/-- What belongs to a user. -/
def State.of (s : State) (user : UUID) : State where
  notifications := s.notifications.select fun n => n.user = user
  preferences := s.preferences.select fun preferences => preferences.user = user
  requests := s.requests.select fun r => r.user = user

/-- The event is about the user, or about everyone. -/
def concerns (user : UUID) (e : Int × Event) : Bool := e.2.user?.all fun v => v = user

/-- No row is created under the key of one that a request in flight has got. -/
def Fresh (s : State) (e : Int × Event) (_ : State) : Prop :=
  ∀ pk ∈ e.2.key?, ∀ r ∈ s.requests, r.copy.pk ≠ pk

/-- Requests in flight hold copies of their user's rows. -/
def Owned (s : State) : Prop :=
  ∀ r ∈ s.requests, ∀ n ∈ s.notifications, n.pk = r.copy.pk → n.user = r.user

/-! ### One step

A notification changes in four ways only, and `Fate` lists them with the place each has in the
table.  Keys that nobody has stay free until a row is created under them, which is where
`Fresh` comes in.
-/

theorem step_eq_some : step settings s e = some t ↔ ∃ a, apply settings e.1 s e.2 = some (t, a) := by
  rw [step, Option.map_eq_some_iff]
  constructor
  · rintro ⟨⟨t, a⟩, h, rfl⟩
    exact ⟨a, h⟩
  · rintro ⟨a, h⟩
    exact ⟨(t, a), h, rfl⟩

theorem getObject_eq_some : getObject now s user pk = some n ↔
    s.notifications.get? pk = some n ∧ visible now user n = true :=
  Option.filter_eq_some_iff

theorem user_of_visible (h : visible now user n = true) : n.user = user := by
  rw [visible, Bool.and_eq_true] at h
  exact of_decide_eq_true h.1

/-- What a step can do to a notification, and where it does. -/
inductive Fate (settings : Settings) (s : State) (e : Int × Event) (n : Notification) :
    Option Notification → Prop
  | kept : Fate settings s e n (some n)
  | readWithAll (he : e.2 = .markAllRead n.user) (hunread : unread e.1 n.user n = true) :
      Fate settings s e n (some { n with readAt := some e.1 })
  | read {r : InFlight} (hr : r ∈ s.requests) (he : e.2 = .finish r.user r.request)
      (haction : r.action = .markRead) (hpk : r.copy.pk = n.pk) :
      Fate settings s e n (some { n with readAt := some e.1 })
  | destroyed {r : InFlight} (hr : r ∈ s.requests) (he : e.2 = .finish r.user r.request)
      (haction : r.action = .destroy) (hpk : r.copy.pk = n.pk) : Fate settings s e n none
  | outdated (he : e.2 = .cleanup) (h : outdated settings e.1 n = true) :
      Fate settings s e n none

theorem get?_create {u u' : Table Notification} {row : Option Notification}
    (h : create u row = some u') (hn : u.get? pk = some n) : u'.get? pk = some n := by
  cases row with
  | none =>
      cases h
      exact hn
  | some row => exact Table.get?_insert?_old h hn

theorem get?_create_none {u u' : Table Notification} {row : Option Notification}
    (h : create u row = some u') (hn : u.get? pk = none) (hrow : ∀ n ∈ row, n.pk ≠ pk) :
    u'.get? pk = none := by
  cases row with
  | none =>
      cases h
      exact hn
  | some row =>
      have hne : Keyed.pk row ≠ pk := hrow row rfl
      rw [Table.get?_insert? h, if_neg hne, hn]

theorem newRow_eq_some {message : NotificationMessage} {channels : List String}
    (h : newRow settings now user message channels pk = some n) : n.pk = pk ∧ n.user = user := by
  unfold newRow at h
  split at h
  · cases h
    exact ⟨rfl, rfl⟩
  · cases h

theorem notify_eq_some {message : NotificationMessage} {channels : List String} {b : Answer}
    (h : notify settings now s user message channels pk = some (t, b)) :
    create s.notifications (newRow settings now user message channels pk) = some t.notifications ∧
      t.preferences = s.preferences.ensure { user } ∧ t.requests = s.requests ∧
      b = .notified ((newRow settings now user message channels pk).map serialize)
        (if "email" ∈ channels ∧ wantsMail s.preferences user then some message else none) := by
  rw [notify, Option.bind_eq_bind, Option.bind_eq_some_iff] at h
  obtain ⟨notifications, hcreate, h⟩ := h
  cases h
  exact ⟨hcreate, rfl, rfl, rfl⟩

theorem start_eq_some {request : Nat} {action : Action} {copy : Option Notification}
    (h : start s user request action copy = some (t, a)) :
    copy = none ∧ t = s ∧ a = some .notFound ∨
      ∃ n, copy = some n ∧ a = none ∧ t.notifications = s.notifications ∧
        t.preferences = s.preferences ∧
        s.requests.insert? ⟨user, request, action, n⟩ = some t.requests := by
  cases copy with
  | none =>
      cases h
      exact Or.inl ⟨rfl, rfl, rfl⟩
  | some n =>
      rw [start, Option.map_eq_some_iff] at h
      obtain ⟨requests, hins, h⟩ := h
      cases h
      exact Or.inr ⟨n, rfl, rfl, rfl, rfl, hins⟩

theorem get?_markAllRead (now : Int) (s : State) (user pk : UUID) :
    (markAllRead now s user).1.notifications.get? pk = (s.notifications.get? pk).map fun n =>
      if unread now user n then { n with readAt := some now } else n :=
  Table.get?_update s.notifications _ _ (pk_setRead now) pk

theorem finish_fate (now : Int) {r : InFlight} (hn : s.notifications.get? pk = some n) :
    (finish now s r).1.notifications.get? pk = some n ∨
      r.action = .markRead ∧ r.copy.pk = n.pk ∧
        (finish now s r).1.notifications.get? pk = some { n with readAt := some now } ∨
      r.action = .destroy ∧ r.copy.pk = n.pk ∧ (finish now s r).1.notifications.get? pk = none := by
  have hpk : n.pk = pk := Table.pk_of_get? hn
  cases haction : r.action with
  | markRead =>
      rw [finish, haction]
      show (finishMarkRead now s r.copy).1.notifications.get? pk = some n ∨ _
      unfold finishMarkRead
      split
      · exact Or.inl hn
      split
      · exact Or.inl hn
      · by_cases hsame : pk = r.copy.pk
        · refine Or.inr (Or.inl ⟨rfl, hsame.symm.trans hpk.symm, ?_⟩)
          rw [Table.get?_modify, if_pos hsame, hn, Option.map_some]
        · refine Or.inl ?_
          rw [Table.get?_modify, if_neg hsame, hn]
  | destroy =>
      rw [finish, haction]
      show (s.notifications.erase r.copy.pk).get? pk = some n ∨ _
      by_cases hsame : pk = r.copy.pk
      · refine Or.inr (Or.inr ⟨rfl, hsame.symm.trans hpk.symm, ?_⟩)
        show (s.notifications.erase r.copy.pk).get? pk = none
        rw [Table.get?_erase, if_pos hsame]
      · refine Or.inl ?_
        rw [Table.get?_erase, if_neg hsame, hn]

theorem requests_finish (now : Int) (s : State) (r : InFlight) :
    (finish now s r).1.requests = s.requests := by
  unfold finish finishMarkRead finishDestroy
  split
  · split_ifs <;> rfl
  · rfl

theorem get?_finish_none (hn : s.notifications.get? pk = none) :
    (finish now s r).1.notifications.get? pk = none := by
  unfold finish finishMarkRead finishDestroy
  split
  · split_ifs
    · exact hn
    · exact hn
    · have hrow := Table.get?_modify s.notifications r.copy.pk pk _ (pk_setRead now)
      rwa [hn, Option.map_none, ite_self] at hrow
  · show (s.notifications.erase _).get? pk = none
    rw [Table.get?_erase, hn, ite_self]

theorem fate (h : step settings s e = some t) (hn : s.notifications.get? pk = some n) :
    Fate settings s e n (t.notifications.get? pk) := by
  obtain ⟨now, e⟩ := e
  obtain ⟨a, ha⟩ := step_eq_some.mp h
  cases e with
  | notify user message channels k =>
      obtain ⟨⟨t, b⟩, hb, heq⟩ := Option.map_eq_some_iff.mp ha
      cases heq
      rw [get?_create (notify_eq_some hb).1 hn]
      exact .kept
  | setPreferences user emailNotifications =>
      cases ha
      rw [hn]
      exact .kept
  | list user type =>
      cases ha
      rw [hn]
      exact .kept
  | retrieve user k =>
      cases ha
      rw [hn]
      exact .kept
  | getObject user request action k =>
      rcases start_eq_some ha with ⟨-, rfl, -⟩ | ⟨m, -, -, hrows, -⟩
      · rw [hn]
        exact .kept
      · rw [hrows, hn]
        exact .kept
  | finish user request =>
      obtain ⟨r, hr, heq⟩ := Option.map_eq_some_iff.mp ha
      cases heq
      have hmem := Table.mem_of_get? hr
      have hkey : (r.user, r.request) = (user, request) := Table.pk_of_get? hr
      rw [Prod.mk.injEq] at hkey
      obtain ⟨rfl, rfl⟩ := hkey
      rcases finish_fate now (r := r)
        (s := { s with requests := s.requests.erase (r.user, r.request) }) hn with
          hkept | ⟨haction, hpk, hread⟩ | ⟨haction, hpk, hgone⟩
      · exact hkept.symm ▸ .kept
      · exact hread.symm ▸ .read hmem rfl haction hpk
      · exact hgone.symm ▸ .destroyed hmem rfl haction hpk
  | markAllRead user =>
      cases ha
      have hrow := get?_markAllRead now s user pk
      rw [hn, Option.map_some] at hrow
      refine hrow.symm ▸ ?_
      by_cases hunread : unread now user n = true
      · rw [if_pos hunread]
        rw [unread, Bool.and_eq_true] at hunread
        obtain rfl := user_of_visible hunread.1
        exact .readWithAll rfl (by rw [unread, hunread.1, hunread.2]; rfl)
      · rw [if_neg hunread]
        exact .kept
  | cleanup =>
      cases ha
      have hrow := Table.get?_delete s.notifications (outdated settings now) pk
      rw [hn] at hrow
      refine hrow.symm ▸ ?_
      by_cases hold : outdated settings now n = true
      · rw [Option.filter_some_neg (by simp [hold])]
        exact .outdated rfl hold
      · rw [Option.filter_some_pos (by simpa using hold)]
        exact .kept

/-- A key nobody has is only ever taken by a row created under it. -/
theorem get?_step_none (h : step settings s e = some t) (hn : s.notifications.get? pk = none)
    (hkey : e.2.key? ≠ some pk) : t.notifications.get? pk = none := by
  obtain ⟨now, e⟩ := e
  obtain ⟨a, ha⟩ := step_eq_some.mp h
  cases e with
  | notify user message channels k =>
      obtain ⟨⟨t, b⟩, hb, heq⟩ := Option.map_eq_some_iff.mp ha
      cases heq
      refine get?_create_none (notify_eq_some hb).1 hn fun row hrow => ?_
      rw [(newRow_eq_some hrow).1]
      exact fun hk => hkey (congrArg some hk)
  | setPreferences user emailNotifications =>
      cases ha
      exact hn
  | list user type =>
      cases ha
      exact hn
  | retrieve user k =>
      cases ha
      exact hn
  | getObject user request action k =>
      rcases start_eq_some ha with ⟨-, rfl, -⟩ | ⟨m, -, -, hrows, -⟩
      · exact hn
      · rw [hrows]
        exact hn
  | finish user request =>
      obtain ⟨r, hr, heq⟩ := Option.map_eq_some_iff.mp ha
      cases heq
      exact get?_finish_none hn
  | markAllRead user =>
      cases ha
      have hrow := get?_markAllRead now s user pk
      rwa [hn] at hrow
  | cleanup =>
      cases ha
      have hrow := Table.get?_delete s.notifications (outdated settings now) pk
      rwa [hn] at hrow

/-- A request in flight was there, or has just got its copy. -/
theorem requests_step (h : step settings s e = some t) (hr : r ∈ t.requests) :
    r ∈ s.requests ∨ r.copy ∈ s.notifications ∧ r.copy.user = r.user := by
  obtain ⟨now, e⟩ := e
  obtain ⟨a, ha⟩ := step_eq_some.mp h
  cases e with
  | notify user message channels k =>
      obtain ⟨⟨t, b⟩, hb, heq⟩ := Option.map_eq_some_iff.mp ha
      cases heq
      rw [(notify_eq_some hb).2.2.1] at hr
      exact Or.inl hr
  | getObject user request action k =>
      rcases start_eq_some ha with ⟨-, rfl, -⟩ | ⟨m, hm, -, -, -, hins⟩
      · exact Or.inl hr
      · rcases (Table.mem_insert? hins).mp hr with hold | rfl
        · exact Or.inl hold
        · obtain ⟨hget, hvisible⟩ := getObject_eq_some.mp hm
          exact Or.inr ⟨Table.mem_of_get? hget, user_of_visible hvisible⟩
  | finish user request =>
      obtain ⟨r', hr', heq⟩ := Option.map_eq_some_iff.mp ha
      cases heq
      rw [requests_finish] at hr
      exact Or.inl (Table.mem_erase.mp hr).1
  | _ =>
      cases ha
      exact Or.inl hr

theorem owned_step (hs : Owned s) (h : step settings s e = some t) (hfresh : Fresh s e t) :
    Owned t := by
  intro r hr n hn hpk
  have hget : t.notifications.get? n.pk = some n := Table.get?_of_mem hn
  cases hold : s.notifications.get? n.pk with
  | none =>
      -- a row that is new, which no request holds a copy of
      have hkey : e.2.key? = some n.pk := by
        by_contra hkey
        rw [get?_step_none h hold hkey] at hget
        cases hget
      rcases requests_step h hr with hmem | ⟨hcopy, -⟩
      · exact absurd hpk.symm (hfresh n.pk hkey r hmem)
      · have hsome := Table.get?_of_mem hcopy
        rw [show Keyed.pk r.copy = n.pk from hpk.symm, hold] at hsome
        cases hsome
  | some m =>
      have huser : n.user = m.user := by
        have hfate := fate h hold
        rw [hget] at hfate
        cases hfate <;> rfl
      have hm := Table.mem_of_get? hold
      have hmpk : m.pk = n.pk := Table.pk_of_get? hold
      rw [huser]
      rcases requests_step h hr with hmem | ⟨hcopy, howner⟩
      · exact hs r hmem m hm (hmpk.trans hpk)
      · rw [Table.eq_of_pk_eq hm hcopy (hmpk.trans hpk)]
        exact howner

/-! ### One step, from the user's part

With an event of the user's own, or a clean-up, the user's part takes the same step by itself.
With anyone else's it does not move.
-/

theorem and_user_of_visible (now : Int) (user : UUID) (n : Notification) :
    (decide (n.user = user) && visible now user n) = visible now user n := by
  unfold visible
  rw [← Bool.and_assoc, Bool.and_self]

theorem getObject_of (now : Int) (s : State) (user pk : UUID) :
    getObject now (s.of user) user pk = getObject now s user pk := by
  show ((s.notifications.select _).get? pk).filter _ = (s.notifications.get? pk).filter _
  rw [Table.get?_select, Option.filter_filter]
  simp only [and_user_of_visible]

theorem list_of (now : Int) (s : State) (user : UUID) (type : Option String) :
    list now (s.of user) user type = list now s user type := by
  have hrows : ((s.of user).notifications.rows.filter fun n =>
        visible now user n && type.all fun t => n.type = t) =
      s.notifications.rows.filter fun n => visible now user n && type.all fun t => n.type = t := by
    show List.filter _ (List.filter _ s.notifications.rows) = _
    rw [List.filter_filter]
    refine List.filter_congr fun n _ => ?_
    rw [Bool.and_right_comm, Bool.and_comm (visible now user n), and_user_of_visible]
  rw [list, list, hrows]

theorem markAllRead_of (now : Int) (s : State) (user : UUID) :
    markAllRead now (s.of user) user =
      ((markAllRead now s user).1.of user, (markAllRead now s user).2) := by
  have hrows : (s.notifications.update (unread now user) _ (pk_setRead now)).select
      (fun n => n.user = user) = _ := Table.select_update fun _ => rfl
  have hcount : (s.of user).notifications.rows.countP (unread now user) =
      s.notifications.rows.countP (unread now user) := by
    show List.countP _ (List.filter _ s.notifications.rows) = _
    rw [List.countP_filter]
    refine List.countP_congr fun n _ => ?_
    rw [unread, Bool.and_right_comm, Bool.and_comm (visible now user n), and_user_of_visible]
  rw [markAllRead, hcount]
  simp only [markAllRead, State.of, hrows]

theorem get?_preferences_of (s : State) (user : UUID) :
    (s.of user).preferences.get? user = s.preferences.get? user := by
  show (s.preferences.select _).get? user = s.preferences.get? user
  rw [Table.get?_select]
  cases h : s.preferences.get? user with
  | none => rfl
  | some preferences =>
      have huser : preferences.user = user := Table.pk_of_get? h
      rw [Option.filter_some_pos (by simp [huser])]

theorem create_select {u u' : Table Notification} {row : Option Notification}
    (h : create u row = some u') (hrow : ∀ n ∈ row, n.user = user) :
    create (u.select fun n => n.user = user) row = some (u'.select fun n => n.user = user) := by
  cases row with
  | none =>
      cases h
      rfl
  | some row => exact Table.select_insert? h (by simpa using hrow row rfl)

theorem create_select_of_ne {u u' : Table Notification} {row : Option Notification}
    (h : create u row = some u') (hrow : ∀ n ∈ row, n.user ≠ user) :
    (u'.select fun n => n.user = user) = u.select fun n => n.user = user := by
  cases row with
  | none =>
      cases h
      rfl
  | some row => exact Table.select_insert?_of_not h (by simpa using hrow row rfl)

theorem notify_of {message : NotificationMessage} {channels : List String} {b : Answer}
    (h : notify settings now s user message channels pk = some (t, b)) :
    notify settings now (s.of user) user message channels pk = some (t.of user, b) := by
  obtain ⟨hcreate, hpreferences, hrequests, rfl⟩ := notify_eq_some h
  have hpart := create_select hcreate fun n hn => (newRow_eq_some hn).2
  have hensure : t.preferences.select (fun p => p.user = user) =
      (s.preferences.select fun p => p.user = user).ensure { user } := by
    rw [hpreferences]
    exact Table.select_ensure (by simp) fun p _ hp => decide_eq_true (show p.user = user from hp)
  have hmail : wantsMail (s.of user).preferences user = wantsMail s.preferences user := by
    rw [wantsMail, get?_preferences_of, wantsMail]
  rw [notify, hmail, Option.bind_eq_bind]
  show (create (s.notifications.select _) _).bind _ = _
  rw [hpart, Option.bind_some]
  simp only [State.of, hensure, hrequests]

theorem notify_of_ne {message : NotificationMessage} {channels : List String} {b : Answer}
    {other : UUID} (h : notify settings now s other message channels pk = some (t, b))
    (hne : other ≠ user) : t.of user = s.of user := by
  obtain ⟨hcreate, hpreferences, hrequests, -⟩ := notify_eq_some h
  have hpart := create_select_of_ne hcreate fun n hn => by
    rw [(newRow_eq_some hn).2]
    exact hne
  have hensure : t.preferences.select (fun p => p.user = user) =
      s.preferences.select fun p => p.user = user := by
    rw [hpreferences]
    exact Table.select_ensure_of_not (by simpa using hne)
  simp only [State.of, hpart, hensure, hrequests]

theorem finish_of (now : Int) {user : UUID} {r : InFlight}
    (hr : ∀ n ∈ s.notifications, n.pk = r.copy.pk → n.user = user) :
    finish now (s.of user) r = ((finish now s r).1.of user, (finish now s r).2) := by
  have hget : (s.of user).notifications.get? r.copy.pk = s.notifications.get? r.copy.pk := by
    show (s.notifications.select _).get? _ = _
    rw [Table.get?_select]
    cases h : s.notifications.get? r.copy.pk with
    | none => rfl
    | some n =>
        have huser := hr n (Table.mem_of_get? h) (Table.pk_of_get? h)
        rw [Option.filter_some_pos (by simp [huser])]
  have hmodify : (s.notifications.modify r.copy.pk _ (pk_setRead now)).select
      (fun n => n.user = user) = _ := Table.select_update fun _ => rfl
  have herase : (s.notifications.erase r.copy.pk).select (fun n => n.user = user) =
      (s.notifications.select fun n => n.user = user).erase r.copy.pk := Table.select_delete _ _ _
  cases haction : r.action with
  | markRead =>
      simp only [finish, haction, finishMarkRead, hget]
      split_ifs
      · rfl
      · rfl
      · simp only [State.of, hmodify]
        rfl
  | destroy => simp only [finish, haction, finishDestroy, State.of, herase]

theorem finish_of_ne (now : Int) {user : UUID} {r : InFlight}
    (hr : ∀ n ∈ s.notifications, n.pk = r.copy.pk → n.user ≠ user) :
    (finish now s r).1.of user = s.of user := by
  have hmodify : (s.notifications.modify r.copy.pk _ (pk_setRead now)).select
      (fun n => n.user = user) = s.notifications.select fun n => n.user = user :=
    Table.select_update_of_not (fun _ => rfl) fun n hn hpk => by
      simpa using hr n hn (of_decide_eq_true hpk)
  have herase : (s.notifications.erase r.copy.pk).select (fun n => n.user = user) =
      s.notifications.select fun n => n.user = user :=
    Table.select_delete_of_not fun n hn hpk => by
      simpa using hr n hn (of_decide_eq_true hpk)
  cases haction : r.action with
  | markRead =>
      simp only [finish, haction, finishMarkRead]
      split_ifs
      · rfl
      · rfl
      · simp only [State.of, hmodify]
  | destroy => simp only [finish, haction, finishDestroy, State.of, herase]

theorem apply_of (hs : Owned s) (h : apply settings e.1 s e.2 = some (t, a))
    (hsees : concerns user e = true) :
    apply settings e.1 (s.of user) e.2 = some (t.of user, a) := by
  obtain ⟨now, e⟩ := e
  have howner : ∀ v, e.user? = some v → v = user := by
    intro v hv
    simpa [concerns, hv] using hsees
  cases e with
  | notify v message channels pk =>
      obtain rfl := howner v rfl
      obtain ⟨⟨t, b⟩, hb, heq⟩ := Option.map_eq_some_iff.mp h
      cases heq
      rw [apply, notify_of hb]
      rfl
  | setPreferences v emailNotifications =>
      obtain rfl := howner v rfl
      cases h
      have hput : (s.preferences.put { user := v, emailNotifications }).select
          (fun p => p.user = v) = _ := Table.select_put (by simp)
      simp only [apply, State.of, hput]
  | list v type =>
      obtain rfl := howner v rfl
      cases h
      rw [apply, list_of]
  | retrieve v pk =>
      obtain rfl := howner v rfl
      cases h
      rw [apply, getObject_of]
  | getObject v request action pk =>
      obtain rfl := howner v rfl
      rw [apply, getObject_of]
      rcases start_eq_some h with ⟨hcopy, rfl, rfl⟩ | ⟨n, hcopy, rfl, hrows, hpreferences, hins⟩
      · rw [hcopy]
        rfl
      · have hpart := Table.select_insert? (p := fun r : InFlight => r.user = v) hins (by simp)
        rw [hcopy, start]
        show (Table.insert? (s.requests.select _) _).map _ = _
        rw [hpart, Option.map_some]
        simp only [State.of, hrows, hpreferences]
  | finish v request =>
      obtain rfl := howner v rfl
      obtain ⟨r, hr, heq⟩ := Option.map_eq_some_iff.mp h
      cases heq
      have hkey : (r.user, r.request) = (v, request) := Table.pk_of_get? hr
      rw [Prod.mk.injEq] at hkey
      obtain ⟨rfl, rfl⟩ := hkey
      have hget : (s.of r.user).requests.get? (r.user, r.request) = some r := by
        show (s.requests.select _).get? _ = _
        rw [Table.get?_select, hr, Option.filter_some_pos (by simp)]
      have herase : (s.requests.erase (r.user, r.request)).select (fun q => q.user = r.user) =
        (s.requests.select fun q => q.user = r.user).erase (r.user, r.request) :=
        Table.select_delete _ _ _
      have hpart := finish_of now
        (s := { s with requests := s.requests.erase (r.user, r.request) }) (r := r)
        (hs r (Table.mem_of_get? hr))
      simp only [State.of, herase] at hpart
      rw [apply, hget, Option.map_some]
      simp only [State.of, hpart]
  | markAllRead v =>
      obtain rfl := howner v rfl
      cases h
      rw [apply, markAllRead_of]
  | cleanup =>
      cases h
      have hdelete := Table.select_delete s.notifications (fun n => n.user = user)
        (outdated settings now)
      simp only [apply, State.of, hdelete]

theorem of_step (hs : Owned s) (h : step settings s e = some t)
    (hsees : concerns user e = false) : t.of user = s.of user := by
  obtain ⟨a, h⟩ := step_eq_some.mp h
  obtain ⟨now, e⟩ := e
  have hother : ∀ v, e.user? = some v → v ≠ user := by
    intro v hv
    simpa [concerns, hv] using hsees
  cases e with
  | notify v message channels pk =>
      obtain ⟨⟨t, b⟩, hb, heq⟩ := Option.map_eq_some_iff.mp h
      cases heq
      exact notify_of_ne hb (hother v rfl)
  | setPreferences v emailNotifications =>
      cases h
      have hput : (s.preferences.put { user := v, emailNotifications }).select
          (fun p => p.user = user) = s.preferences.select fun p => p.user = user :=
        Table.select_put_of_not (by simpa using hother v rfl) fun p _ hp =>
          decide_eq_false fun huser => hother v rfl ((show p.user = v from hp).symm.trans huser)
      simp only [State.of, hput]
  | list v type =>
      cases h
      rfl
  | retrieve v pk =>
      cases h
      rfl
  | getObject v request action pk =>
      rcases start_eq_some h with ⟨-, rfl, -⟩ | ⟨n, -, -, hrows, hpreferences, hins⟩
      · rfl
      · have hpart := Table.select_insert?_of_not (p := fun r : InFlight => r.user = user) hins
          (by simpa using hother v rfl)
        simp only [State.of, hrows, hpreferences, hpart]
  | finish v request =>
      obtain ⟨r, hr, heq⟩ := Option.map_eq_some_iff.mp h
      cases heq
      have hkey : (r.user, r.request) = (v, request) := Table.pk_of_get? hr
      rw [Prod.mk.injEq] at hkey
      obtain ⟨rfl, rfl⟩ := hkey
      have hne := hother r.user rfl
      have herase : (s.requests.erase (r.user, r.request)).select (fun q => q.user = user) =
          s.requests.select fun q => q.user = user := by
        refine Table.select_delete_of_not fun q _ hq => decide_eq_false fun huser => hne ?_
        have hq : (q.user, q.request) = (r.user, r.request) := of_decide_eq_true hq
        rw [Prod.mk.injEq] at hq
        rw [← hq.1, huser]
      have hpart : State.of _ user = State.of _ user := finish_of_ne now
        (s := { s with requests := s.requests.erase (r.user, r.request) }) (r := r)
        fun n hn hpk => by
          rw [hs r (Table.mem_of_get? hr) n hn hpk]
          exact hne
      exact hpart.trans (by simp only [State.of, herase])
  | markAllRead v =>
      cases h
      have hrows : (s.notifications.update (unread now v) _ (pk_setRead now)).select
          (fun n => n.user = user) = s.notifications.select fun n => n.user = user := by
        refine Table.select_update_of_not (fun _ => rfl) fun n _ hn => decide_eq_false ?_
        rw [unread, Bool.and_eq_true] at hn
        rw [user_of_visible hn.1]
        exact hother v rfl
      simp only [markAllRead, State.of, hrows]
  | cleanup => exact absurd hsees (by simp [concerns, Event.user?])

/-! ### Runs

Induction on the run, by the step above; `Owned` is the invariant that lets a copy be followed
to its user.
-/

/-- **Users do not see each other.**  Whatever all users do and however their requests interleave,
a user is answered, and left with, exactly what the events about them and the clean-ups alone
would have come to. -/
theorem isolation (user : UUID) {es : List (Int × Event)} (hs : Owned s)
    (hfresh : Steps (step settings) Fresh s es) (ht : exec (step settings) s es = some t) :
    exec (step settings) (s.of user) (es.filter (concerns user)) = some (t.of user) ∧
      collect (step settings) (fun s e => if concerns user e then answer settings s e else none)
          s es =
        collect (step settings) (answer settings) (s.of user) (es.filter (concerns user)) := by
  refine exec_proj (C := Fresh) (fun s e t => owned_step) ?_ (fun s e t hs h _ => of_step hs h) hs
    hfresh ht
  intro s e t hs h _ hsees
  obtain ⟨a, ha⟩ := step_eq_some.mp h
  have hpart := apply_of hs ha hsees
  exact ⟨step_eq_some.mpr ⟨a, hpart⟩, by rw [answer, ha, answer, hpart]; rfl⟩

theorem owned_init : Owned State.init := fun r hr => absurd hr (Table.not_mem_empty r)

instance decidableFresh (s : State) (e : Int × Event) (t : State) : Decidable (Fresh s e t) :=
  inferInstanceAs (Decidable (∀ pk ∈ e.2.key?, ∀ r ∈ s.requests.rows, r.copy.pk ≠ pk))

def defaults : Settings := ⟨true, 90⟩

def notice : NotificationMessage := ⟨"info", "Notice", "Text", .dict [], none⟩

/-- Two users, the second reading all there is while a request of the first is under way. -/
def twoUsers : List (Int × Event) :=
  [(0, .notify 1 notice ["in_app", "email"] 10), (1, .notify 2 notice ["in_app"] 20),
    (2, .getObject 1 0 .markRead 10), (3, .markAllRead 2), (3, .notify 1 notice ["in_app"] 11),
    (4, .finish 1 0), (5, .markAllRead 1), (6, .list 2 none), (7, .cleanup), (8, .list 1 none)]

theorem isolation_twoUsers :
    collect (step defaults) (fun s e => if concerns 1 e then answer defaults s e else none)
        .init twoUsers =
      collect (step defaults) (answer defaults) (State.init.of 1) (twoUsers.filter (concerns 1)) := by
  obtain ⟨t, ht⟩ := Option.isSome_iff_exists.mp
    (show (exec (step defaults) .init twoUsers).isSome = true by decide +kernel)
  exact (isolation 1 owned_init (by decide +kernel) ht).2

end DjangoFoundation.Notifications
