/-
Whether a deletion reaches those who asked to be told of it.

`EventBus.publish` is the last of the callbacks `confirm_deletion` leaves to the commit, and
for an account with an avatar not the only one.  The loop of `publish` goes on after a handler
that raises, so that each handler is called once, however many of the others fail.  The loop
of the commit does not: a storage that raises is the end of it.
-/
import DjangoFoundation.Proofs.Lifecycle

namespace DjangoFoundation

namespace Events

open AccountService TokenService

variable {η : Type*} {bus : EventBus η} {outside : Outside η} {event : ApplicationEvent}

/-! ### Subscriptions -/

section Subscriptions

variable [DecidableEq η]

theorem mem_subscribe {name n : String} {handler h : η} :
    h ∈ (bus.subscribe name handler).handlers n ↔
      h ∈ bus.handlers n ∨ n = name ∧ h = handler := by
  unfold EventBus.subscribe
  by_cases hnew : handler ∈ bus.handlers name
  · rw [dif_pos hnew]
    constructor
    · exact Or.inl
    · rintro (hold | ⟨rfl, rfl⟩)
      · exact hold
      · exact hnew
  · rw [dif_neg hnew]
    dsimp only
    by_cases hn : n = name
    · rw [if_pos hn, List.mem_append, List.mem_singleton, and_iff_right hn]
    · rw [if_neg hn]
      exact ⟨Or.inl, fun hmem => hmem.resolve_right fun h => hn h.1⟩

/-- Every subscription is kept, and there is no other. -/
theorem mem_subscribed {subscriptions : List (String × η)} {name : String} {handler : η} :
    handler ∈ (subscribed subscriptions).handlers name ↔ (name, handler) ∈ subscriptions := by
  have hfold : ∀ bus : EventBus η,
      handler ∈ (subscriptions.foldl (fun bus s => bus.subscribe s.1 s.2) bus).handlers name ↔
        handler ∈ bus.handlers name ∨ (name, handler) ∈ subscriptions := by
    induction subscriptions with
    | nil => simp
    | cons s subscriptions ih =>
        intro bus
        rw [List.foldl_cons, ih, mem_subscribe, or_assoc, List.mem_cons, Prod.ext_iff]
  refine (hfold {}).trans (or_iff_right ?_)
  exact List.not_mem_nil

end Subscriptions

/-! ### `publish`

The loop catches what a handler raises and goes on.  So what is called does not depend on what
was raised before.
-/

theorem calls_foldl_deliver (handlers : List η) (effects : Effects η) :
    (handlers.foldl (deliver outside event) effects).calls =
      effects.calls ++ handlers.map fun handler => (handler, event) := by
  induction handlers generalizing effects with
  | nil => simp
  | cons handler handlers ih => simp [ih, deliver]

/-- Every handler is called, in the order of subscription. -/
theorem calls_publish (effects : Effects η) :
    (bus.publish outside event effects).calls =
      effects.calls ++ (bus.handlers event.name).map fun handler => (handler, event) :=
  calls_foldl_deliver _ effects

theorem failures_foldl_deliver (handlers : List η) (effects : Effects η) :
    (handlers.foldl (deliver outside event) effects).failures =
      effects.failures ++
        List.replicate (handlers.countP (outside.handlerRaises · event)) event.name := by
  induction handlers generalizing effects with
  | nil => simp
  | cons handler handlers ih =>
      rw [List.foldl_cons, ih]
      by_cases hraises : outside.handlerRaises handler event = true
      · simp [deliver, hraises, List.replicate_succ]
      · simp [deliver, hraises]

/-- Every handler that raises is logged. -/
theorem failures_publish (effects : Effects η) :
    (bus.publish outside event effects).failures = effects.failures ++
      List.replicate ((bus.handlers event.name).countP (outside.handlerRaises · event))
        event.name :=
  failures_foldl_deliver _ effects

section Calls

variable [DecidableEq η]

/-- What a handler was called with. -/
def Effects.callsOf (effects : Effects η) (handler : η) : List ApplicationEvent :=
  (effects.calls.filter fun call => call.1 = handler).map Prod.snd

theorem callsOf_map {handlers : List η} (hnodup : handlers.Nodup) (handler : η) :
    (((handlers.map fun h => (h, event)).filter fun call => call.1 = handler).map Prod.snd) =
      if handler ∈ handlers then [event] else [] := by
  induction handlers with
  | nil => rfl
  | cons h handlers ih =>
      obtain ⟨hnew, hrest⟩ := List.nodup_cons.mp hnodup
      rw [List.map_cons]
      by_cases hh : h = handler
      · subst hh
        rw [List.filter_cons_of_pos (by simp), List.map_cons, ih hrest, if_neg hnew,
          if_pos List.mem_cons_self]
      · rw [List.filter_cons_of_neg (by simpa using hh), ih hrest]
        simp only [List.mem_cons, Ne.symm hh, false_or]

/-- **A handler is called once**, whatever it and the others raise. -/
theorem callsOf_publish (effects : Effects η) (handler : η) :
    (bus.publish outside event effects).callsOf handler =
      effects.callsOf handler ++ if handler ∈ bus.handlers event.name then [event] else [] := by
  rw [Effects.callsOf, calls_publish, List.filter_append, List.map_append,
    callsOf_map (bus.nodup event.name), Effects.callsOf]

end Calls

/-! ### The commit

Callbacks of a commit are run in the order they were registered, and one that is not robust
stops the rest.  For an account with an avatar the storage comes first.
-/

/-- Callbacks run after others that do not raise, and only then. -/
theorem runCallbacks_append (callbacks rest : List Callback) (effects : Effects η) :
    runCallbacks bus outside (callbacks ++ rest) effects =
      if (runCallbacks bus outside callbacks effects).2 = true then
        runCallbacks bus outside callbacks effects
      else runCallbacks bus outside rest (runCallbacks bus outside callbacks effects).1 := by
  induction callbacks generalizing effects with
  | nil => rfl
  | cons callback callbacks ih =>
      rw [List.cons_append, runCallbacks, runCallbacks]
      split
      · rfl
      · exact ih _

/-- The avatar, where there is one, is deleted first. -/
theorem runCallbacks_deletion (user : User) :
    (runCallbacks bus outside (deletionCallbacks user) {}).1 =
      if user.avatar ≠ "" ∧ outside.storageRaises user.avatar = true then {}
      else bus.publish outside (accountDeleted user.pk)
        { deleted := if user.avatar ≠ "" then [user.avatar] else [] } := by
  rw [deletionCallbacks, runCallbacks_append]
  by_cases havatar : user.avatar ≠ ""
  · rw [if_pos havatar, if_pos havatar]
    by_cases hraises : outside.storageRaises user.avatar = true
    · have hrun : runCallbacks bus outside [.deleteFile user.avatar] {} = ({}, true) := by
        rw [runCallbacks, Callback.run, if_pos hraises]
      rw [hrun, if_pos rfl, if_pos ⟨havatar, hraises⟩]
    · have hrun : runCallbacks bus outside [.deleteFile user.avatar] {} =
          ({ deleted := [user.avatar] }, false) := by
        rw [runCallbacks, Callback.run, if_neg hraises]
        rfl
      rw [hrun, if_neg Bool.false_ne_true, if_neg fun h => hraises h.2]
      rfl
  · have hrun : runCallbacks bus outside [] {} = ({}, false) := rfl
    rw [if_neg havatar, if_neg havatar, hrun, if_neg Bool.false_ne_true,
      if_neg fun h => havatar h.1]
    rfl

section Deletions

variable {env : Environment} {now : Int} {db db' : Database} {rawToken suffix : String}
  {sessionKey : Option String} {token : OneTimeToken} {user : User} {callbacks : List Callback}

/-- A commit leaves the callbacks of the token's user. -/
theorem confirmDeletionCallbacks_eq_ok
    (htoken : usable? env now db rawToken .accountDeletion = some token)
    (huser : db.users.get? token.user = some user) :
    confirmDeletionCallbacks env now db rawToken suffix sessionKey = .ok (db', callbacks) ↔
      confirmDeletion env now db rawToken suffix sessionKey = .ok db' ∧
        callbacks = deletionCallbacks user := by
  obtain ⟨_, hconsume, _⟩ := confirm_of_some (bearer?_of_usable htoken huser)
  unfold confirmDeletionCallbacks
  simp only [hconsume, getUser_of_some huser, bind, Except.bind]
  cases confirmDeletion env now db rawToken suffix sessionKey with
  | error e => simp
  | ok after =>
      simp only [pure, Except.pure, Except.ok.injEq, Prod.mk.injEq]
      exact and_congr_right fun _ => eq_comm

theorem published_revoke {session : UserSession} {actor : Option UUID}
    (h : SessionService.revoke env now db session actor = .ok db') :
    db'.published = db.published := by
  unfold SessionService.revoke at h
  split at h
  · cases h
  · split at h
    · cases h
      rfl
    · cases h
      unfold SessionService.revokeLocked
      split <;> rfl

theorem published_revokeAll {user : UUID} {actor : Option UUID} {excludeCurrent : Bool}
    (h : SessionService.revokeAll env now db user actor sessionKey excludeCurrent = .ok db') :
    db'.published = db.published := by
  unfold SessionService.revokeAll at h
  generalize SessionService.selected env db user sessionKey excludeCurrent = sessions at h
  induction sessions generalizing db with
  | nil =>
      cases h
      rfl
  | cons session sessions ih =>
      rw [List.foldlM_cons] at h
      obtain ⟨db₁, hrevoke, hrest⟩ := bind_eq_ok.mp h
      exact (ih hrest).trans (published_revoke hrevoke)

/-- The event a commit is recorded to publish is the one its callbacks publish. -/
theorem published_confirmDeletion
    (htoken : usable? env now db rawToken .accountDeletion = some token)
    (huser : db.users.get? token.user = some user)
    (hcommit : confirmDeletion env now db rawToken suffix sessionKey = .ok db') :
    db'.published = db.published ++ [⟨(accountDeleted user.pk).name, user.pk⟩] := by
  obtain ⟨_, hconsume, hget⟩ := confirm_of_some (bearer?_of_usable htoken huser)
  obtain ⟨⟨token', spent⟩, hconsume', h⟩ := bind_eq_ok.mp hcommit
  rw [hconsume, Except.ok.injEq, Prod.mk.injEq] at hconsume'
  obtain ⟨rfl, rfl⟩ := hconsume'
  obtain ⟨user', huser', h⟩ := bind_eq_ok.mp h
  rw [hget, Except.ok.injEq] at huser'
  subst huser'
  obtain ⟨saved, hsave, h⟩ := bind_eq_ok.mp h
  obtain ⟨revoked, hrevoke, h⟩ := bind_eq_ok.mp h
  cases h
  have hsaved : saved.published = db.published := by
    unfold save at hsave
    dsimp only at hsave
    split at hsave
    · cases hsave
    · cases hsave
      rfl
  show revoked.published ++ _ = _
  rw [published_revokeAll hrevoke]
  exact congrArg (· ++ [_]) hsaved

/-! ### Subscribers

Putting the two together: every handler is called once if the callback that publishes is
reached, and that is decided by the avatar's storage alone.
-/

/-- **A committed deletion reaches every subscriber once**, whichever of them raise, exactly
where no storage raises before, or nobody has subscribed. -/
theorem subscribers_called_once_iff [DecidableEq η]
    (htoken : usable? env now db rawToken .accountDeletion = some token)
    (huser : db.users.get? token.user = some user)
    (hcommit : confirmDeletion env now db rawToken suffix sessionKey = .ok db')
    (subscriptions : List (String × η)) (outside : Outside η) :
    ∃ callbacks,
      confirmDeletionCallbacks env now db rawToken suffix sessionKey = .ok (db', callbacks) ∧
      ((∀ handler, ("account.deleted", handler) ∈ subscriptions →
          (runCallbacks (subscribed subscriptions) outside callbacks {}).1.callsOf handler =
            [accountDeleted user.pk]) ↔
        user.avatar = "" ∨ outside.storageRaises user.avatar = false ∨
          ∀ handler, ("account.deleted", handler) ∉ subscriptions) := by
  refine ⟨deletionCallbacks user, ?_, ?_⟩
  · exact (confirmDeletionCallbacks_eq_ok htoken huser).mpr ⟨hcommit, rfl⟩
  rw [runCallbacks_deletion]
  by_cases hstop : user.avatar ≠ "" ∧ outside.storageRaises user.avatar = true
  · rw [if_pos hstop]
    constructor
    · intro hcalled
      refine Or.inr (Or.inr fun handler hmem => ?_)
      have hnone : [] = [accountDeleted user.pk] := hcalled handler hmem
      cases hnone
    · rintro (havatar | hsaved | hnobody)
      · exact absurd havatar hstop.1
      · rw [hstop.2] at hsaved
        cases hsaved
      · exact fun handler hmem => absurd hmem (hnobody handler)
  · rw [if_neg hstop]
    constructor
    · intro _
      by_cases havatar : user.avatar = ""
      · exact Or.inl havatar
      · refine Or.inr (Or.inl ?_)
        exact eq_false_of_ne_true fun hraises => hstop ⟨havatar, hraises⟩
    · intro _ handler hmem
      have hsubscribed :
          handler ∈ (subscribed subscriptions).handlers (accountDeleted user.pk).name :=
        mem_subscribed.mpr hmem
      rw [callsOf_publish, if_pos hsubscribed]
      rfl

end Deletions

/-- A user with an avatar who is leaving. -/
def leaving : Database where
  users := {{ ada with avatar := "avatars/ada.png" }}
  oneTimeTokens := {⟨"d", 1, .accountDeletion, [], 0, 10, none⟩}

/-- Two apps that ask to be told of deletions; the first fails at it. -/
def apps : List (String × String) :=
  [("account.deleted", "files"), ("account.deleted", "invoices"), ("account.deleted", "files")]

def failing (storageRaises : Bool) : Outside String where
  storageRaises _ := storageRaises
  handlerRaises handler _ := handler = "files"

theorem leaving_commits :
    ∃ db', confirmDeletion .plain 1 leaving "d" "x" none = .ok db' := by
  rcases confirmDeletion_cases .plain 1 leaving "d" "x" none with ⟨hnone, _⟩ | ⟨db', _, hok, _⟩
  · have hsome : deletion? .plain 1 leaving "d" ≠ none := by decide
    exact absurd hnone hsome
  · exact ⟨db', hok⟩

theorem subscribers_called_once_iff_leaving :
    ∃ db' callbacks,
      confirmDeletionCallbacks .plain 1 leaving "d" "x" none = .ok (db', callbacks) ∧
      ∀ handler, ("account.deleted", handler) ∈ apps →
        (runCallbacks (subscribed apps) (failing false) callbacks {}).1.callsOf handler =
          [accountDeleted 1] := by
  obtain ⟨db', hcommit⟩ := leaving_commits
  have htoken : usable? .plain 1 leaving "d" .accountDeletion =
      some ⟨"d", 1, .accountDeletion, [], 0, 10, none⟩ := by decide
  obtain ⟨callbacks, hok, hiff⟩ := subscribers_called_once_iff htoken rfl hcommit apps (failing false)
  exact ⟨db', callbacks, hok, hiff.mpr (Or.inr (Or.inl rfl))⟩

/-- A storage that is down keeps the deletion from everybody. -/
theorem deletion_not_published :
    ∃ db' callbacks,
      confirmDeletionCallbacks .plain 1 leaving "d" "x" none = .ok (db', callbacks) ∧
      ("account.deleted", "invoices") ∈ apps ∧
      (runCallbacks (subscribed apps) (failing true) callbacks {}).1.callsOf "invoices" = [] := by
  obtain ⟨db', hcommit⟩ := leaving_commits
  have htoken : usable? .plain 1 leaving "d" .accountDeletion =
      some ⟨"d", 1, .accountDeletion, [], 0, 10, none⟩ := by decide
  have huser : leaving.users.get? 1 = some { ada with avatar := "avatars/ada.png" } := rfl
  refine ⟨db', _, (confirmDeletionCallbacks_eq_ok htoken huser).mpr ⟨hcommit, rfl⟩, ?_, ?_⟩
  · decide
  · rw [runCallbacks_deletion]
    rfl

end Events

end DjangoFoundation
