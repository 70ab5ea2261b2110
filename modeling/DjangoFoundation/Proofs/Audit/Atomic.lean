/-
Changes and their records.

What a request does is read off its statements first: one lemma for each action says where it
ends, whatever fails on the way, as the row it leaves and the records it adds.  A request
accounts for what it does where a change of the row comes with one record of that change, and
no change with none; comparing that with the lemmas gives, action by action, when it does.

Only the update of a user runs in a transaction.  Elsewhere the first statement that changes
anything is committed before the second: the row before its record where rows are created or
updated, the record before the row where they are deleted.

The statement that fails is part of the event, so that every way a request can be cut short is
covered: a validation that raises, a save the database refuses, a record that cannot be
written, a deletion that a foreign key forbids.
-/
import DjangoFoundation.Lib.Run
import DjangoFoundation.Api.Audited

namespace DjangoFoundation.Audited

/-! ### Attempts

An attempt is a computation with a store that may fail at any statement, and unless it is in a
transaction it keeps what it did before.  The lemmas push that through a sequence of
statements.
-/

namespace Attempt

variable {α β : Type} {x : Attempt α} {store store' : Store}

theorem bind_ok {a : α} (f : α → Attempt β) (h : x.run store = (.ok a, store')) :
    (x >>= f).run store = (f a).run store' := by
  simp only [bind, h]

theorem bind_error {e : Exception} (f : α → Attempt β) (h : x.run store = (.error e, store')) :
    (x >>= f).run store = (.error e, store') := by
  simp only [bind, h]

theorem rows_bind (f : Table Row → Attempt β) : (rows >>= f).run store = (f store.rows).run store :=
  rfl

theorem atomic_ok {a : α} (h : x.run store = (.ok a, store')) :
    (x.atomic.run store).2 = store' := by
  simp only [atomic, h]

theorem atomic_error {e : Exception} (h : x.run store = (.error e, store')) :
    (x.atomic.run store).2 = store := by
  simp only [atomic, h]

end Attempt

namespace Request

variable (unicode : Unicode) (now : Int) (request : Request)

/-- The statement does not fail. -/
def Passes (statement : Statement) : Prop := request.faults statement = none

instance (statement : Statement) : Decidable (request.Passes statement) :=
  inferInstanceAs (Decidable (_ = none))

variable {request}

theorem attempt_pass {α : Type} {statement : Statement} (h : request.Passes statement)
    (x : Attempt α) : request.attempt statement x = x := by
  unfold attempt
  rw [h]

theorem attempt_fail {α : Type} {statement : Statement} (h : ¬request.Passes statement)
    (x : Attempt α) : ∃ e, request.attempt statement x = .raise e := by
  obtain ⟨e, he⟩ := Option.ne_none_iff_exists'.mp h
  refine ⟨e, ?_⟩
  unfold attempt
  rw [he]

/-- What follows a statement that fails does not happen. -/
theorem attempt_bind_fail {α β : Type} {statement : Statement} (h : ¬request.Passes statement)
    (x : Attempt α) (f : α → Attempt β) (store : Store) :
    ∃ e, (request.attempt statement x >>= f).run store = (.error e, store) := by
  obtain ⟨e, he⟩ := attempt_fail h x
  exact ⟨e, by rw [he]; exact Attempt.bind_error f rfl⟩

/-! ### Where an action ends

Creating and updating save the row first and record it after.  So there are three ends: before
the save, between the two, and after both.
-/

variable (request)

/-- A row that is saved gets its record. -/
def Recorded : Prop := (request.view = .setting → request.Passes .check) ∧ request.Passes .record

instance : Decidable request.Recorded := inferInstanceAs (Decidable ((_ → _) ∧ _))

/-- The record of a change, made where `rows` are stored. -/
def log (rows : Table Row) (change : String) (row : Row) (before after : List (String × Item)) :
    Log :=
  Log.of rows (request.view.auditName ++ "." ++ change) row request.actor request.client before after

variable {request}

theorem insert_ok {row : Row} {store : Store} {rows : Table Row} (hsave : request.Passes .save)
    (hinsert : store.rows.insert? row = some rows) :
    (request.insert row).run store = (.ok row, { store with rows := rows }) := by
  unfold insert
  rw [attempt_pass hsave]
  simp only [hinsert]

theorem insert_error {row : Row} {store : Store} (hsave : request.Passes .save)
    (hinsert : store.rows.insert? row = none) :
    (request.insert row).run store = (.error .integrity, store) := by
  unfold insert
  rw [attempt_pass hsave]
  simp only [hinsert]

theorem insert_bind (row : Row) (f : Row → Attempt Unit) (store : Store) :
    ((request.insert row >>= f).run store).2 =
      match store.rows.insert? row with
      | some rows =>
          if request.Passes .save then ((f row).run { store with rows := rows }).2 else store
      | none => store := by
  by_cases hsave : request.Passes .save
  · cases hinsert : store.rows.insert? row with
    | none => rw [Attempt.bind_error f (insert_error hsave hinsert)]
    | some rows =>
        rw [Attempt.bind_ok f (insert_ok hsave hinsert)]
        exact (if_pos hsave).symm
  · unfold insert
    obtain ⟨e, he⟩ := attempt_bind_fail hsave _ f store
    rw [he]
    split
    · exact (if_neg hsave).symm
    · rfl

theorem save_run (hsave : request.Passes .save) (attrs : Attrs request.view.fields) (row : Row)
    (store : Store) :
    (request.save unicode now attrs row).run store =
      (.ok ((attrs.onto row).saved unicode now),
        { store with rows := store.rows.put ((attrs.onto row).saved unicode now) }) := by
  unfold save
  rw [attempt_pass hsave]

theorem save_bind (attrs : Attrs request.view.fields) (row : Row) (f : Row → Attempt Unit)
    (store : Store) :
    ((request.save unicode now attrs row >>= f).run store).2 =
      if request.Passes .save then
        ((f ((attrs.onto row).saved unicode now)).run
          { store with rows := store.rows.put ((attrs.onto row).saved unicode now) }).2
      else store := by
  by_cases hsave : request.Passes .save
  · rw [if_pos hsave, Attempt.bind_ok f (save_run unicode now hsave attrs row store)]
  · unfold save
    obtain ⟨e, he⟩ := attempt_bind_fail hsave _ f store
    rw [he, if_neg hsave]

theorem record_run (hrecord : request.Passes .record) (change : String) (row : Row)
    (before after : List (String × Item)) (store : Store) :
    (request.record change row before after).run store = (.ok (), { store with
      auditLogs := store.auditLogs ++ [request.log store.rows change row before after] }) := by
  unfold record
  rw [attempt_pass hrecord]
  rfl

theorem record_fail (hrecord : ¬request.Passes .record) (change : String) (row : Row)
    (before after : List (String × Item)) (store : Store) :
    ∃ e, (request.record change row before after).run store = (.error e, store) := by
  unfold record
  obtain ⟨e, he⟩ := attempt_fail hrecord _
  exact ⟨e, by rw [he]; rfl⟩

/-- The record of a row that is saved, outside the settings. -/
theorem record_snd (hview : request.view ≠ .setting) (change : String) (row : Row)
    (before after : List (String × Item)) (store : Store) :
    ((request.record change row before after).run store).2 =
      if request.Recorded then
        { store with
          auditLogs := store.auditLogs ++ [request.log store.rows change row before after] }
      else store := by
  by_cases hrecord : request.Passes .record
  · rw [record_run hrecord, if_pos ⟨fun h => absurd h hview, hrecord⟩]
  · obtain ⟨e, he⟩ := record_fail hrecord change row before after store
    rw [he, if_neg fun h => hrecord h.2]

/-- A setting is checked again first. -/
theorem check_record_snd (change : String) (row : Row) (before after : List (String × Item))
    (store : Store) :
    ((request.attempt .check (pure ()) >>= fun _ =>
        request.record change row before after).run store).2 =
      if request.Passes .check ∧ request.Passes .record then
        { store with
          auditLogs := store.auditLogs ++ [request.log store.rows change row before after] }
      else store := by
  by_cases hcheck : request.Passes .check
  · rw [attempt_pass hcheck, Attempt.bind_ok _ rfl]
    by_cases hrecord : request.Passes .record
    · rw [record_run hrecord, if_pos ⟨hcheck, hrecord⟩]
    · obtain ⟨e, he⟩ := record_fail hrecord change row before after store
      rw [he, if_neg fun h => hrecord h.2]
  · obtain ⟨e, he⟩ := attempt_bind_fail hcheck _ _ store
    rw [he, if_neg fun h => hcheck h.1]

theorem recorded_setting (hview : request.view = .setting) :
    request.Recorded ↔ request.Passes .check ∧ request.Passes .record :=
  and_congr_left fun _ => forall_prop_of_true hview

/-- A row created elsewhere than by the user view is stored, and recorded if nothing fails. -/
theorem performCreate_snd (hview : request.view ≠ .userAdmin) (attrs : Attrs request.view.fields)
    (store : Store) :
    ((request.performCreate unicode now attrs).run store).2 =
      match store.rows.insert? (request.created unicode now attrs) with
      | some rows =>
          if request.Passes .save then
            if request.Recorded then
              { store with
                rows := rows
                auditLogs := store.auditLogs ++ [request.log rows "created"
                  (request.created unicode now attrs) [] (attrs.after store.rows)] }
            else { store with rows := rows }
          else store
      | none => store := by
  unfold performCreate
  split
  · rename_i huser
    exact absurd huser hview
  · rename_i hsetting
    unfold SettingViewSet.performCreate
    rw [Attempt.rows_bind, insert_bind]
    simp only [check_record_snd, recorded_setting hsetting]
  · rename_i hflag
    have hsetting : request.view ≠ .setting := by rw [hflag]; decide
    unfold FeatureFlagViewSet.performCreate
    rw [Attempt.rows_bind, insert_bind]
    simp only [record_snd hsetting]
  · rename_i hsetting _
    unfold AuthorizationViewSet.performCreate
    rw [Attempt.rows_bind, insert_bind]
    simp only [record_snd hsetting]

/-- The same of a row that is updated. -/
theorem performUpdate_snd (hview : request.view ≠ .userAdmin) (row : Row)
    (attrs : Attrs request.view.fields) (store : Store) :
    ((request.performUpdate unicode now row attrs).run store).2 =
      if request.Passes .save then
        let saved := (attrs.onto row).saved unicode now
        let rows := store.rows.put saved
        if request.Recorded then
          { store with
            rows := rows
            auditLogs := store.auditLogs ++ [request.log rows "updated" saved
              (attrs.before store.rows row) (attrs.after store.rows)] }
        else { store with rows := rows }
      else store := by
  unfold performUpdate
  split
  · rename_i huser
    exact absurd huser hview
  · rename_i hsetting
    unfold SettingViewSet.performUpdate
    rw [Attempt.rows_bind, save_bind]
    simp only [check_record_snd, recorded_setting hsetting]
  · rename_i hflag
    have hsetting : request.view ≠ .setting := by rw [hflag]; decide
    unfold FeatureFlagViewSet.performUpdate
    rw [Attempt.rows_bind, save_bind]
    simp only [record_snd hsetting]
  · rename_i hsetting _
    unfold AuthorizationViewSet.performUpdate
    rw [Attempt.rows_bind, save_bind]
    simp only [record_snd hsetting]

/-! ### The update of a user

This one is atomic, and it may revoke sessions, which adds records of its own in the middle.
Either all of it is done or nothing.
-/

variable (request)

/-- Nothing fails inside the transaction. -/
def Commits (attrs : Attrs request.view.fields) : Prop :=
  request.Passes .save ∧ (attrs.endsSessions = true → request.Passes .revoke) ∧
    request.Passes .record

instance (attrs : Attrs request.view.fields) : Decidable (request.Commits attrs) :=
  inferInstanceAs (Decidable (_ ∧ (_ → _) ∧ _))

/-- What revoking the sessions of a user does to the store, where the update calls for it. -/
def ended (attrs : Attrs request.view.fields) (user : UUID) (store : Store) : Store :=
  if attrs.endsSessions then
    { store with
      sessions := store.sessions.filter fun session => !decide (session.user = user)
      auditLogs := store.auditLogs ++
        (store.sessions.filter fun session => session.user = user).map
          (Log.revoked now request.actor request.client) }
  else store

variable {request}

theorem ended_rows (attrs : Attrs request.view.fields) (user : UUID) (store : Store) :
    (request.ended now attrs user store).rows = store.rows := by
  unfold ended
  split <;> rfl

/-- The records that adds are of sessions. -/
theorem ended_auditLogs (attrs : Attrs request.view.fields) (user : UUID) (store : Store) :
    ∃ added, (request.ended now attrs user store).auditLogs = store.auditLogs ++ added ∧
      ∀ log ∈ added, log.action = "session.revoked" := by
  unfold ended
  split
  · refine ⟨_, rfl, fun log hlog => ?_⟩
    obtain ⟨session, -, rfl⟩ := List.mem_map.mp hlog
    rfl
  · exact ⟨[], (List.append_nil _).symm, fun log hlog => absurd hlog List.not_mem_nil⟩

theorem revokeAll_run (hrevoke : request.Passes .revoke) {attrs : Attrs request.view.fields}
    (hends : attrs.endsSessions = true) (user : UUID) (store : Store) :
    (request.revokeAll now user).run store = (.ok (), request.ended now attrs user store) := by
  unfold revokeAll ended
  rw [attempt_pass hrevoke, if_pos hends]
  simp only [List.partition_eq_filter_filter]
  rfl

/-- What the update of a user does once the row is saved. -/
def afterUser (attrs : Attrs request.view.fields) (user : UUID) (record : Attempt Unit) :
    Attempt Unit :=
  if attrs.endsSessions = true then do
    request.revokeAll now user
    record
  else record

/-- It goes through, or raises. -/
theorem afterUser_run (attrs : Attrs request.view.fields) (user : UUID) (row : Row)
    (before after : List (String × Item)) (store : Store) :
    let store' := request.ended now attrs user store
    ((attrs.endsSessions = true → request.Passes .revoke) ∧ request.Passes .record →
      (afterUser now attrs user (request.record "updated" row before after)).run store =
        (.ok (), { store' with
          auditLogs := store'.auditLogs ++
            [request.log store'.rows "updated" row before after] })) ∧
    (¬((attrs.endsSessions = true → request.Passes .revoke) ∧ request.Passes .record) →
      ∃ e store'', (afterUser now attrs user (request.record "updated" row before after)).run store =
        (.error e, store'')) := by
  unfold afterUser
  by_cases hends : attrs.endsSessions = true
  · rw [if_pos hends]
    by_cases hrevoke : request.Passes .revoke
    · rw [Attempt.bind_ok _ (revokeAll_run now hrevoke hends user store)]
      refine ⟨fun h => record_run h.2 _ _ _ _ _, fun h => ?_⟩
      obtain ⟨e, he⟩ := record_fail (fun hrecord => h ⟨fun _ => hrevoke, hrecord⟩) "updated" row
        before after (request.ended now attrs user store)
      exact ⟨e, _, he⟩
    · refine ⟨fun h => absurd (h.1 hends) hrevoke, fun _ => ?_⟩
      obtain ⟨e, he⟩ := attempt_bind_fail hrevoke _ _ store
      exact ⟨e, store, he⟩
  · have hsame : request.ended now attrs user store = store := if_neg hends
    rw [if_neg hends, hsame]
    refine ⟨fun h => record_run h.2 _ _ _ _ _, fun h => ?_⟩
    obtain ⟨e, he⟩ := record_fail (fun hrecord => h ⟨fun h => absurd h hends, hrecord⟩) "updated"
      row before after store
    exact ⟨e, _, he⟩

/-- The update of a user that fails leaves nothing behind. -/
theorem userUpdate_snd (row : Row) (attrs : Attrs request.view.fields) (store : Store) :
    ((UserAdminViewSet.performUpdate unicode now request row attrs).run store).2 =
      if request.Commits attrs then
        let saved := (attrs.onto row).saved unicode now
        let store' := request.ended now attrs saved.pk { store with rows := store.rows.put saved }
        { store' with
          auditLogs := store'.auditLogs ++ [request.log store'.rows "updated" saved
            (attrs.before store.rows row) (attrs.after store.rows)] }
      else store := by
  unfold UserAdminViewSet.performUpdate
  by_cases hsave : request.Passes .save
  · have hrun := save_run unicode now hsave attrs row store
    obtain ⟨hgo, hraise⟩ := afterUser_run now attrs ((attrs.onto row).saved unicode now).pk
      ((attrs.onto row).saved unicode now) (attrs.before store.rows row) (attrs.after store.rows)
      { store with rows := store.rows.put ((attrs.onto row).saved unicode now) }
    by_cases hcommits : request.Commits attrs
    · rw [if_pos hcommits]
      apply Attempt.atomic_ok
      rw [Attempt.rows_bind, Attempt.bind_ok _ hrun]
      exact hgo hcommits.2
    · rw [if_neg hcommits]
      obtain ⟨e, store'', he⟩ := hraise fun h => hcommits ⟨hsave, h⟩
      apply Attempt.atomic_error
      rw [Attempt.rows_bind, Attempt.bind_ok _ hrun]
      exact he
  · obtain ⟨e, he⟩ := attempt_bind_fail hsave _ _ store
    rw [if_neg fun h => hsave h.1]
    apply Attempt.atomic_error
    rw [Attempt.rows_bind]
    exact he

/-! ### Deletion

A deletion is recorded before it is tried.  Whether it goes through is up to the rows that
refer to the row and to the statement itself.
-/

variable (request)

/-- The deletion of a row goes through. -/
def Deletes (row : Row) (rows : Table Row) : Prop :=
  request.Passes .delete ∧ rows.rows.any (protects row) = false

instance (row : Row) (rows : Table Row) : Decidable (request.Deletes row rows) :=
  inferInstanceAs (Decidable (_ ∧ _))

variable {request}

theorem delete_snd (row : Row) (store : Store) :
    ((request.delete row).run store).2 =
      if request.Deletes row store.rows then { store with rows := without row store.rows }
      else store := by
  unfold delete
  by_cases hdelete : request.Passes .delete
  · rw [attempt_pass hdelete]
    cases hprotected : store.rows.rows.any (protects row) with
    | false =>
        rw [if_pos ⟨hdelete, hprotected⟩]
        simp only [hprotected]
        rfl
    | true =>
        rw [if_neg fun h => Bool.false_ne_true (h.2.symm.trans hprotected)]
        simp only [hprotected]
        rfl
  · obtain ⟨e, he⟩ := attempt_fail hdelete _
    rw [he, if_neg fun h => hdelete h.1]
    rfl

/-- A record is made of every row that may be deleted, and then the row is deleted, or not. -/
theorem performDestroy_snd (row : Row) (store : Store) :
    ((AuthorizationViewSet.performDestroy request row).run store).2 =
      if row.isSystem = false ∧ request.Passes .record then
        { store with
          rows := if request.Deletes row store.rows then without row store.rows else store.rows
          auditLogs := store.auditLogs ++ [request.log store.rows "deleted" row [] []] }
      else store := by
  unfold AuthorizationViewSet.performDestroy
  by_cases hsystem : row.isSystem = true
  · rw [if_pos hsystem, if_neg fun h => Bool.false_ne_true (h.1.symm.trans hsystem)]
    exact congrArg Prod.snd (Attempt.bind_error _ rfl)
  · rw [if_neg hsystem]
    by_cases hrecord : request.Passes .record
    · rw [if_pos ⟨Bool.not_eq_true _ ▸ hsystem, hrecord⟩]
      show ((request.record "deleted" row [] [] >>= fun _ => request.delete row).run store).2 = _
      rw [Attempt.bind_ok _ (record_run hrecord _ _ _ _ _), delete_snd]
      split <;> rfl
    · obtain ⟨e, he⟩ := record_fail hrecord "deleted" row [] [] store
      rw [if_neg fun h => hrecord h.2]
      exact congrArg Prod.snd (Attempt.bind_error _ he)

end Request

/-! ### Accounting for a change

The property is stated on what a request leaves, without reference to how it got there: compare
the row before and after, and look at the records that were added.
-/

inductive Change
  | created
  | updated
  | deleted
  deriving DecidableEq, Repr

def Change.name : Change → String
  | .created => "created"
  | .updated => "updated"
  | .deleted => "deleted"

/-- What happened to a row. -/
def change? : Option Row → Option Row → Option Change
  | none, some _ => some .created
  | some old, some new => if old = new then none else some .updated
  | some _, none => some .deleted
  | none, none => none

theorem change?_self (row : Option Row) : change? row row = none := by
  cases row with
  | none => rfl
  | some row => exact if_pos rfl

namespace Request

variable (unicode : Unicode) (now : Int) (request : Request)

/-- What the row of the request is stored under. -/
def key : Model × UUID := (request.view.model, request.pk)

/-- The record is of that change of the row. -/
def describes (change : Change) (log : Log) : Bool :=
  log.action = request.view.auditName ++ "." ++ change.name ∧
    log.targetType = request.view.model.label ∧ log.targetId = UUID.str request.pk

/-- The records go with what happened to the row. -/
def Told (old new : Option Row) (added : List Log) : Prop :=
  match change? old new with
  | some change => (added.filter (request.describes change)).length = 1
  | none => added = []

/-- A change of the row comes with one record of it, and no change with none; the other rows of
the model stay as they are. -/
structure Accounts (store store' : Store) : Prop where
  others : ∀ pk, pk ≠ request.pk →
    store'.rows.get? (request.view.model, pk) = store.rows.get? (request.view.model, pk)
  records : ∃ added, store'.auditLogs = store.auditLogs ++ added ∧
    request.Told (store.rows.get? request.key) (store'.rows.get? request.key) added

/-- When a request does: nothing that changes the row goes through without its record, or the
other way round. -/
def Whole (store : Store) : Prop :=
  match request.action with
  | .create _ =>
      request.view = .userAdmin ∨ (request.Passes .validate → request.Passes .save →
        store.rows.get? request.key = none → request.Recorded)
  | .update attrs =>
      ∀ row ∈ store.rows.get? request.key, request.Passes .select → request.Passes .validate →
        let attrs := request.validated unicode attrs
        let saved := (attrs.onto row).saved unicode now
        if request.view = .userAdmin then request.Commits attrs → saved ≠ row
        else request.Passes .save → (saved ≠ row ↔ request.Recorded)
  | .destroy =>
      request.view = .userAdmin ∨ ∀ row ∈ store.rows.get? request.key, request.Passes .select →
        if request.view = .setting ∨ request.view = .featureFlag then
          ¬request.Deletes row store.rows
        else row.isSystem = false → request.Passes .record → request.Deletes row store.rows

variable {request}

/-! ### Records and rows

A record names its action and the row it is about.  That suffices to tell the records of this
change from those of other things, such as the sessions an update of a user revokes.
-/

theorem accounts_iff (store store' : Store) (added : List Log)
    (hothers : ∀ pk, pk ≠ request.pk →
      store'.rows.get? (request.view.model, pk) = store.rows.get? (request.view.model, pk))
    (hadded : store'.auditLogs = store.auditLogs ++ added) :
    request.Accounts store store' ↔
      request.Told (store.rows.get? request.key) (store'.rows.get? request.key) added := by
  constructor
  · rintro ⟨-, added', hadded', htold⟩
    rwa [List.append_cancel_left (hadded.symm.trans hadded')]
  · intro htold
    exact ⟨hothers, added, hadded, htold⟩

/-- A request that does nothing accounts for it. -/
theorem accounts_refl (store : Store) : request.Accounts store store := by
  refine (accounts_iff store store [] (fun _ _ => rfl) (List.append_nil _).symm).mpr ?_
  unfold Told
  rw [change?_self]

theorem describes_log {rows : Table Row} {change : Change} {row : Row}
    {before after : List (String × Item)} (hkey : Keyed.pk row = request.key) :
    request.describes change (request.log rows change.name row before after) = true := by
  obtain ⟨hmodel, hpk⟩ := Prod.mk.inj hkey
  exact decide_eq_true ⟨rfl, congrArg Model.label hmodel, congrArg UUID.str hpk⟩

/-- The record of the change is told among records of other things. -/
theorem told_last {old new : Option Row} (change : Change) {others : List Log} {log : Log}
    (hchange : change? old new = some change) (hlog : request.describes change log = true)
    (hothers : ∀ log ∈ others, request.describes change log = false) :
    request.Told old new (others ++ [log]) := by
  unfold Told
  rw [hchange]
  show (List.filter _ (others ++ [log])).length = 1
  rw [List.filter_append, List.filter_cons_of_pos hlog, List.filter_eq_nil_iff.mpr]
  · rfl
  · intro other hother
    rw [hothers other hother]
    exact Bool.false_ne_true

theorem told_one {old new : Option Row} (change : Change) {log : Log}
    (hchange : change? old new = some change) (hlog : request.describes change log = true) :
    request.Told old new [log] :=
  told_last change hchange hlog fun _ h => absurd h List.not_mem_nil

/-- Where a row changed, nothing told is a lie. -/
theorem not_told_nil {old new : Option Row} (h : change? old new ≠ none) :
    ¬request.Told old new [] := by
  obtain ⟨change, hchange⟩ := Option.ne_none_iff_exists'.mp h
  unfold Told
  rw [hchange]
  exact Nat.zero_ne_one

/-- So is anything told where none did. -/
theorem not_told {old new : Option Row} {added : List Log} (h : change? old new = none)
    (hadded : added ≠ []) : ¬request.Told old new added := by
  unfold Told
  rw [h]
  exact hadded

/-- A row that is stored accounts for itself where it is recorded exactly if it changed. -/
theorem saved_accounts {store : Store} {rows : Table Row} {log : Log}
    (hothers : ∀ pk, pk ≠ request.pk →
      rows.get? (request.view.model, pk) = store.rows.get? (request.view.model, pk))
    (hlog : ∀ change, change? (store.rows.get? request.key) (rows.get? request.key) = some change →
      request.describes change log = true) :
    request.Accounts store
        (if request.Recorded then
          { store with rows := rows, auditLogs := store.auditLogs ++ [log] }
        else { store with rows := rows }) ↔
      (change? (store.rows.get? request.key) (rows.get? request.key) ≠ none ↔
        request.Recorded) := by
  by_cases hrecorded : request.Recorded
  · rw [if_pos hrecorded, accounts_iff store _ [log] hothers rfl, iff_true_right hrecorded]
    constructor
    · intro htold hnone
      exact not_told hnone (List.cons_ne_nil _ _) htold
    · intro hsome
      obtain ⟨change, hchange⟩ := Option.ne_none_iff_exists'.mp hsome
      exact told_one change hchange (hlog change hchange)
  · rw [if_neg hrecorded,
      accounts_iff store { store with rows := rows } [] hothers (List.append_nil _).symm,
      iff_false_right hrecorded]
    constructor
    · intro htold hsome
      exact not_told_nil hsome htold
    · intro hnone
      unfold Told
      rw [not_not.mp hnone]

/-! ### One request

Action by action, the end of the request is compared with what accounting for it would be.  The
cases where the two differ are those in which a statement fails between the row and its record.
-/

theorem attempt_unit_snd (statement : Statement) (f : Unit → Attempt Unit) (store : Store) :
    ((request.attempt statement (pure ()) >>= f).run store).2 =
      if request.Passes statement then ((f ()).run store).2 else store := by
  by_cases hpass : request.Passes statement
  · rw [if_pos hpass, attempt_pass hpass, Attempt.bind_ok f rfl]
  · obtain ⟨e, he⟩ := attempt_bind_fail hpass _ f store
    rw [if_neg hpass, he]

theorem getObject_bind (f : Row → Attempt Unit) (store : Store) :
    ((request.getObject >>= f).run store).2 =
      match store.rows.get? request.key with
      | some row => if request.Passes .select then ((f row).run store).2 else store
      | none => store := by
  unfold getObject
  by_cases hselect : request.Passes .select
  · rw [attempt_pass hselect]
    simp only [bind, hselect, if_true, key]
    cases store.rows.get? (request.view.model, request.pk) <;> rfl
  · obtain ⟨e, he⟩ := attempt_bind_fail hselect _ f store
    rw [he]
    split
    · exact (if_neg hselect).symm
    · rfl

theorem key_created (attrs : Attrs request.view.fields) :
    Keyed.pk (request.created unicode now attrs) = request.key := by
  unfold created
  split <;> rfl

theorem ne_key {pk : UUID} (h : pk ≠ request.pk) : request.key ≠ (request.view.model, pk) :=
  fun hkey => h (Prod.mk.inj hkey).2.symm

theorem performCreate_user (huser : request.view = .userAdmin) (attrs : Attrs request.view.fields) :
    request.performCreate unicode now attrs = UserAdminViewSet.performCreate := by
  unfold performCreate
  rw [huser]

theorem create_accounts {attrs : Attrs request.view.fields} (haction : request.action = .create attrs)
    (store : Store) :
    request.Accounts store ((request.dispatch unicode now).run store).2 ↔
      request.Whole unicode now store := by
  unfold dispatch Whole
  rw [haction]
  show request.Accounts store ((request.attempt .validate (pure ()) >>= _).run store).2 ↔
    (request.view = .userAdmin ∨ _)
  rw [attempt_unit_snd]
  by_cases hvalid : request.Passes .validate
  · rw [if_pos hvalid]
    by_cases huser : request.view = .userAdmin
    · rw [performCreate_user unicode now huser]
      exact iff_of_true (accounts_refl store) (Or.inl huser)
    · rw [performCreate_snd unicode now huser]
      generalize hattrs : request.validated unicode attrs = attrs'
      have hkey := key_created unicode now attrs'
      cases hinsert : store.rows.insert? (request.created unicode now attrs') with
      | none =>
          obtain ⟨row, hrow⟩ := Table.exists_of_insert?_eq_none hinsert
          rw [hkey] at hrow
          refine iff_of_true (accounts_refl store) (Or.inr fun _ _ hfree => ?_)
          rw [hrow] at hfree
          cases hfree
      | some rows =>
          have hfree : store.rows.get? request.key = none := by
            rw [← hkey]
            exact Table.get?_eq_none.mpr (Table.insert?_eq_some hinsert).1
          have hchange : change? (store.rows.get? request.key) (rows.get? request.key) =
              some .created := by
            rw [hfree, ← hkey, Table.get?_insert?_self hinsert]
            rfl
          show request.Accounts store (if request.Passes .save then _ else store) ↔ _
          by_cases hsave : request.Passes .save
          · rw [if_pos hsave, saved_accounts]
            · rw [hchange, iff_true_left (Option.some_ne_none _)]
              exact ⟨fun h => Or.inr fun _ _ _ => h, fun h => h.resolve_left huser hvalid hsave hfree⟩
            · intro pk hpk
              rw [Table.get?_insert? hinsert, hkey, if_neg (ne_key hpk)]
            · intro change hsome
              rw [← Option.some.inj (hchange.symm.trans hsome)]
              exact describes_log hkey
          · rw [if_neg hsave]
            exact iff_of_true (accounts_refl store) (Or.inr fun _ h => absurd h hsave)
  · rw [if_neg hvalid]
    exact iff_of_true (accounts_refl store) (Or.inr fun h => absurd h hvalid)

theorem key_saved (attrs : Attrs request.view.fields) {row : Row} (h : Keyed.pk row = request.key) :
    Keyed.pk ((attrs.onto row).saved unicode now) = request.key := h

/-- Validation leaves on the instance what saving sets on it anyway. -/
theorem onto_validatedInstance (attrs : Attrs request.view.fields) (row : Row) :
    attrs.onto (request.validatedInstance attrs row) = attrs.onto row := by
  unfold validatedInstance
  split
  · exact attrs.onto_onto row
  · rfl

theorem performUpdate_user (huser : request.view = .userAdmin) (row : Row)
    (attrs : Attrs request.view.fields) :
    request.performUpdate unicode now row attrs =
      UserAdminViewSet.performUpdate unicode now request row attrs := by
  unfold performUpdate
  rw [huser]

/-- The revocations an update of a user records are no records of the update. -/
theorem not_describes_revoked (huser : request.view = .userAdmin) {log : Log} (change : Change)
    (hlog : log.action = "session.revoked") : request.describes change log = false := by
  refine decide_eq_false fun h => ?_
  have haction := h.1
  rw [hlog, huser] at haction
  revert haction
  cases change <;> decide

/-- An update of a user that goes through stores the row, and is recorded after the sessions it
ends. -/
theorem userUpdate_commits (huser : request.view = .userAdmin) {attrs : Attrs request.view.fields}
    (hcommits : request.Commits attrs) (row : Row) (store : Store) :
    let saved := (attrs.onto row).saved unicode now
    let rows := store.rows.put saved
    let store' := ((request.performUpdate unicode now row attrs).run store).2
    store'.rows = rows ∧ ∃ revoked, store'.auditLogs = store.auditLogs ++ (revoked ++
        [request.log rows "updated" saved (attrs.before store.rows row) (attrs.after store.rows)]) ∧
      ∀ change, ∀ log ∈ revoked, request.describes change log = false := by
  rw [performUpdate_user unicode now huser, userUpdate_snd, if_pos hcommits]
  dsimp only
  generalize (attrs.onto row).saved unicode now = saved
  obtain ⟨revoked, hrevoked, hsession⟩ := ended_auditLogs now attrs saved.pk
    { store with rows := store.rows.put saved }
  have hends := ended_rows now attrs saved.pk { store with rows := store.rows.put saved }
  refine ⟨hends, revoked, ?_, fun change log hlog =>
    not_describes_revoked huser change (hsession log hlog)⟩
  rw [hrevoked, hends, List.append_assoc]

variable (request) in
/-- What an update leaves of the rows. -/
structure Replaced (store : Store) (rows : Table Row) (old new : Row) : Prop where
  before : store.rows.get? request.key = some old
  after : rows.get? request.key = some new
  others : ∀ pk, pk ≠ request.pk →
    rows.get? (request.view.model, pk) = store.rows.get? (request.view.model, pk)

theorem replaced_put {store : Store} {old new : Row} (hold : store.rows.get? request.key = some old)
    (hkey : Keyed.pk new = request.key) :
    request.Replaced store (store.rows.put new) old new where
  before := hold
  after := by rw [Table.get?_put, if_pos hkey]
  others pk hpk := by rw [Table.get?_put, hkey, if_neg (ne_key hpk)]

theorem change?_updated {old new : Row} (h : new ≠ old) :
    change? (some old) (some new) = some .updated :=
  if_neg (Ne.symm h)

theorem change?_some {old new : Row} : change? (some old) (some new) ≠ none ↔ new ≠ old := by
  by_cases h : new = old
  · rw [h, change?_self]
    exact iff_of_false (not_not_intro rfl) (not_not_intro rfl)
  · rw [change?_updated h]
    exact iff_of_true (Option.some_ne_none _) h

/-- A user that is updated accounts for it where the row changes. -/
theorem userUpdate_accounts (huser : request.view = .userAdmin) {store : Store} {row instance' : Row}
    {attrs : Attrs request.view.fields} (hrow : store.rows.get? request.key = some row)
    (hinstance : attrs.onto instance' = attrs.onto row) :
    request.Accounts store
        ((request.performUpdate unicode now instance' attrs).run store).2 ↔
      (request.Commits attrs → (attrs.onto row).saved unicode now ≠ row) := by
  by_cases hcommits : request.Commits attrs
  · rw [forall_prop_of_true hcommits]
    obtain ⟨hrows, revoked, hlogs, hrevoked⟩ :=
      userUpdate_commits unicode now huser hcommits instance' store
    rw [hinstance] at hrows hlogs
    have hkey := key_saved unicode now attrs (Table.pk_of_get? hrow)
    have hput := replaced_put hrow hkey
    rw [accounts_iff store _ _ ?_ hlogs, hrows, hput.before, hput.after]
    · by_cases hsame : (attrs.onto row).saved unicode now = row
      · refine iff_of_false (not_told ?_ ?_) (not_not_intro hsame)
        · rw [hsame, change?_self]
        · exact List.append_ne_nil_of_right_ne_nil _ (List.cons_ne_nil _ _)
      · refine iff_of_true ?_ hsame
        exact told_last .updated (change?_updated hsame) (describes_log hkey) (hrevoked .updated)
    · intro pk hpk
      rw [hrows]
      exact hput.others pk hpk
  · rw [performUpdate_user unicode now huser, userUpdate_snd, if_neg hcommits]
    exact iff_of_true (accounts_refl store) fun h => absurd h hcommits

/-- A row that is updated elsewhere does where it changes and is recorded, or neither. -/
theorem saveUpdate_accounts (huser : request.view ≠ .userAdmin) {store : Store} {row instance' : Row}
    {attrs : Attrs request.view.fields} (hrow : store.rows.get? request.key = some row)
    (hinstance : attrs.onto instance' = attrs.onto row) :
    request.Accounts store
        ((request.performUpdate unicode now instance' attrs).run store).2 ↔
      (request.Passes .save → ((attrs.onto row).saved unicode now ≠ row ↔ request.Recorded)) := by
  rw [performUpdate_snd unicode now huser, hinstance]
  by_cases hsave : request.Passes .save
  · rw [if_pos hsave, forall_prop_of_true hsave]
    have hkey := key_saved unicode now attrs (Table.pk_of_get? hrow)
    have hput := replaced_put hrow hkey
    simp only
    rw [saved_accounts hput.others]
    · rw [hput.before, hput.after, change?_some]
    · intro change hchange
      rw [hput.before, hput.after] at hchange
      have hnew := change?_some.mp (Option.ne_none_iff_exists'.mpr ⟨_, hchange⟩)
      rw [← Option.some.inj ((change?_updated hnew).symm.trans hchange)]
      exact describes_log hkey
  · rw [if_neg hsave]
    exact iff_of_true (accounts_refl store) fun h => absurd h hsave

/-- Where an update gets to. -/
theorem dispatch_update {attrs : Attrs request.view.fields} (haction : request.action = .update attrs)
    {store : Store} {row : Row} (hrow : store.rows.get? request.key = some row) :
    ((request.dispatch unicode now).run store).2 =
      if request.Passes .select ∧ request.Passes .validate then
        ((request.performUpdate unicode now
          (request.validatedInstance (request.validated unicode attrs) row)
          (request.validated unicode attrs)).run store).2
      else store := by
  unfold dispatch
  rw [haction]
  show ((request.getObject >>= _).run store).2 = _
  rw [getObject_bind, hrow]
  show (if request.Passes .select then _ else store) = _
  by_cases hselect : request.Passes .select
  · rw [if_pos hselect, attempt_unit_snd]
    by_cases hvalid : request.Passes .validate
    · rw [if_pos hvalid, if_pos ⟨hselect, hvalid⟩]
    · rw [if_neg hvalid, if_neg fun h => hvalid h.2]
  · rw [if_neg hselect, if_neg fun h => hselect h.1]

theorem dispatch_update_none {attrs : Attrs request.view.fields}
    (haction : request.action = .update attrs) {store : Store}
    (hrow : store.rows.get? request.key = none) :
    ((request.dispatch unicode now).run store).2 = store := by
  unfold dispatch
  rw [haction]
  show ((request.getObject >>= _).run store).2 = _
  rw [getObject_bind, hrow]

theorem update_accounts {attrs : Attrs request.view.fields} (haction : request.action = .update attrs)
    (store : Store) :
    request.Accounts store ((request.dispatch unicode now).run store).2 ↔
      request.Whole unicode now store := by
  unfold Whole
  rw [haction]
  show _ ↔ ∀ row ∈ store.rows.get? request.key, _
  cases hrow : store.rows.get? request.key with
  | none =>
      rw [dispatch_update_none unicode now haction hrow]
      exact iff_of_true (accounts_refl store) fun row h => absurd h (Option.not_mem_none row)
  | some row =>
      rw [dispatch_update unicode now haction hrow]
      simp only [Option.mem_some_iff, forall_eq']
      by_cases hgo : request.Passes .select ∧ request.Passes .validate
      · rw [if_pos hgo, forall_prop_of_true hgo.1, forall_prop_of_true hgo.2]
        have hinstance := onto_validatedInstance (request.validated unicode attrs) row
        by_cases huser : request.view = .userAdmin
        · rw [if_pos huser]
          exact userUpdate_accounts unicode now huser hrow hinstance
        · rw [if_neg huser]
          exact saveUpdate_accounts unicode now huser hrow hinstance
      · rw [if_neg hgo]
        exact iff_of_true (accounts_refl store) fun h h' => absurd ⟨h, h'⟩ hgo

theorem get?_without_self {rows : Table Row} {row : Row} (hrow : rows.get? request.key = some row) :
    (without row rows).get? request.key = none := by
  unfold without
  rw [Table.get?_delete, hrow, Option.filter_some_neg]
  simp

/-- The rows that go with a row are of other models. -/
theorem get?_without_other {rows : Table Row} {row : Row}
    (hrow : rows.get? request.key = some row) {pk : UUID} (hpk : pk ≠ request.pk) :
    (without row rows).get? (request.view.model, pk) = rows.get? (request.view.model, pk) := by
  unfold without
  rw [Table.get?_delete]
  cases hother : rows.get? (request.view.model, pk) with
  | none => rfl
  | some other =>
      obtain ⟨hmodel, hkey⟩ := Row.of_get? hrow
      obtain ⟨hmodel', hkey'⟩ := Row.of_get? hother
      have hne : (other.model, other.pk) ≠ (row.model, row.pk) := by
        rintro h
        exact hpk (hkey'.symm.trans ((Prod.mk.inj h).2.trans hkey))
      have hrefers : other.refersTo row.model row.pk = false := by
        rw [hmodel, ← hmodel', Row.refersTo_own]
      rw [Option.filter_some_pos]
      rw [decide_eq_false hne, hrefers]
      rfl

/-- A deletion without a record accounts for itself where it does not go through. -/
theorem delete_accounts {store : Store} {row : Row} (hrow : store.rows.get? request.key = some row) :
    request.Accounts store ((request.delete row).run store).2 ↔
      ¬request.Deletes row store.rows := by
  rw [delete_snd]
  by_cases hdeletes : request.Deletes row store.rows
  · rw [if_pos hdeletes, accounts_iff store { store with rows := without row store.rows } []
      (fun pk hpk => get?_without_other hrow hpk) (List.append_nil _).symm]
    refine iff_of_false (not_told_nil ?_) (not_not_intro hdeletes)
    rw [hrow, get?_without_self hrow]
    exact Option.some_ne_none _
  · rw [if_neg hdeletes]
    exact iff_of_true (accounts_refl store) hdeletes

/-- A deletion that is recorded first does where it goes through after that. -/
theorem performDestroy_accounts {store : Store} {row : Row}
    (hrow : store.rows.get? request.key = some row) :
    request.Accounts store ((AuthorizationViewSet.performDestroy request row).run store).2 ↔
      (row.isSystem = false → request.Passes .record → request.Deletes row store.rows) := by
  rw [performDestroy_snd]
  by_cases hgo : row.isSystem = false ∧ request.Passes .record
  · rw [if_pos hgo, forall_prop_of_true hgo.1, forall_prop_of_true hgo.2]
    by_cases hdeletes : request.Deletes row store.rows
    · rw [if_pos hdeletes, accounts_iff store _ _ (fun pk hpk => get?_without_other hrow hpk) rfl]
      refine iff_of_true (told_one .deleted ?_ ?_) hdeletes
      · rw [hrow, get?_without_self hrow]
        rfl
      · exact describes_log (Table.pk_of_get? hrow)
    · rw [if_neg hdeletes, accounts_iff store _ [request.log store.rows "deleted" row [] []]]
      · refine iff_of_false (not_told ?_ (List.cons_ne_nil _ _)) hdeletes
        exact change?_self _
      · exact fun _ _ => rfl
      · rfl
  · rw [if_neg hgo]
    exact iff_of_true (accounts_refl store) fun h h' => absurd ⟨h, h'⟩ hgo

theorem destroy_accounts (haction : request.action = .destroy) (store : Store) :
    request.Accounts store ((request.dispatch unicode now).run store).2 ↔
      request.Whole unicode now store := by
  unfold dispatch Whole
  rw [haction]
  show request.Accounts store
      ((if request.view = .userAdmin then _ else _ : Attempt Unit).run store).2 ↔
    (request.view = .userAdmin ∨ ∀ row ∈ _, _)
  by_cases huser : request.view = .userAdmin
  · rw [if_pos huser]
    exact iff_of_true (accounts_refl store) (Or.inl huser)
  · rw [if_neg huser, getObject_bind, or_iff_right huser]
    cases hrow : store.rows.get? request.key with
    | none =>
        exact iff_of_true (accounts_refl store) fun row h => absurd h (Option.not_mem_none row)
    | some row =>
        show request.Accounts store (if request.Passes .select then _ else store) ↔ _
        simp only [Option.mem_some_iff, forall_eq']
        by_cases hselect : request.Passes .select
        · rw [if_pos hselect, forall_prop_of_true hselect]
          unfold performDestroy
          by_cases hflag : request.view = .setting ∨ request.view = .featureFlag
          · rw [if_pos hflag, if_pos hflag]
            exact delete_accounts hrow
          · rw [if_neg hflag, if_neg hflag]
            exact performDestroy_accounts hrow
        · rw [if_neg hselect]
          exact iff_of_true (accounts_refl store) fun h => absurd h hselect

/-- **A request accounts for what it does exactly where it goes through whole.** -/
theorem accounts_iff_whole (store : Store) :
    request.Accounts store ((request.dispatch unicode now).run store).2 ↔
      request.Whole unicode now store := by
  cases haction : request.action with
  | create attrs => exact create_accounts unicode now haction store
  | update attrs => exact update_accounts unicode now haction store
  | destroy => exact destroy_accounts unicode now haction store

end Request

/-! ### Runs

Requests are one after the other here, and each is judged by the store it finds, so the
equivalence for one request carries over to runs as it stands.
-/

/-- **In a run of requests every change comes with its record, and every record with its change,
exactly where every request goes through whole.** -/
theorem changes_recorded (unicode : Unicode) (store : Store) (es : List (Int × Request)) :
    Run.Steps (step unicode) (fun store e store' => e.2.Accounts store store') store es ↔
      Run.Steps (step unicode) (fun store e _ => e.2.Whole unicode e.1 store) store es := by
  have hiff : ∀ store e store', True → step unicode store e = some store' →
      (e.2.Accounts store store' ↔ e.2.Whole unicode e.1 store) := by
    intro store e store' _ hstep
    rw [← Option.some.inj hstep]
    exact Request.accounts_iff_whole unicode e.1 store
  exact Run.steps_iff_of_inv hiff (fun _ _ _ _ _ _ => trivial) trivial es

/-- A role, and its assignment to a user. -/
def assignedRole : Store where
  rows := ⟨[Row.new .role 1 0,
    (Row.new .userRole 2 0).rewrite fun name column =>
      if name = "role" then .foreignKey .role (some 1) else column], by decide⟩

def destroyRole : Request where
  view := .role
  pk := 1
  action := .destroy
  actor := 3

/-- The role cannot be deleted, and is recorded as deleted. -/
theorem kept_role_recorded_deleted :
    let store := ((destroyRole.dispatch Environment.plain.unicode 0).run assignedRole).2
    store.rows.get? (.role, 1) = assignedRole.rows.get? (.role, 1) ∧
      store.auditLogs.map Log.action = ["role.deleted"] ∧
      ¬Run.Steps (step Environment.plain.unicode) (fun store e store' => e.2.Accounts store store')
        assignedRole [(0, destroyRole)] := by
  refine ⟨by decide +kernel, by decide +kernel, fun h => ?_⟩
  have hwhole := (Request.accounts_iff_whole _ _ _).mp (h _ rfl).1
  have hdeletes := hwhole.resolve_left (by decide) (Row.new .role 1 0) (by decide +kernel) rfl
  rw [if_neg (by decide)] at hdeletes
  revert hdeletes
  decide +kernel

end DjangoFoundation.Audited
