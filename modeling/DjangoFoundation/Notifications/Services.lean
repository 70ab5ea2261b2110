/-
Notifications: `apps/notifications/services.py` and `tasks.py`, and `NotificationViewSet` of
`apps/api/views/notifications.py`.

`mark_read` and `destroy` first get the notification and then write, with no transaction
around the two, so they are two events each: the first is `get_object()`, and `finish` is what the
request does with the copy it has got.  Anything may come in between.  Every other request or
task that changes rows does so in one statement.
-/
import Mathlib.Data.List.Sort
import DjangoFoundation.Lib.Run
import DjangoFoundation.Lib.Table
import DjangoFoundation.Common.Base
import DjangoFoundation.Common.Json

namespace DjangoFoundation.Notifications

/-! ### Models -/

structure Notification where
  pk : UUID
  user : UUID
  type : String
  title : String
  message : String
  data : Json
  readAt : Option Int := none
  createdAt : Int
  expiresAt : Option Int
  deriving DecidableEq, Repr

/-- The column of `UserPreferences` that notifications read. -/
structure UserPreferences where
  user : UUID
  emailNotifications : Bool := true
  deriving DecidableEq, Repr

structure NotificationMessage where
  type : String
  title : String
  message : String
  data : Json
  expiresAt : Option Int := none
  deriving DecidableEq, Repr

structure Settings where
  enableNotifications : Bool
  notificationRetentionDays : Int
  deriving DecidableEq, Repr

inductive Action
  | markRead
  | destroy
  deriving DecidableEq, Repr

/-- A request between its `get_object()` and its write, with the copy it has got. -/
structure InFlight where
  user : UUID
  request : Nat
  action : Action
  copy : Notification
  deriving DecidableEq, Repr

instance : Keyed Notification UUID := ⟨Notification.pk⟩
instance : Keyed UserPreferences UUID := ⟨UserPreferences.user⟩
instance : Keyed InFlight (UUID × Nat) := ⟨fun r => (r.user, r.request)⟩

structure State where
  notifications : Table Notification
  preferences : Table UserPreferences
  requests : Table InFlight

def State.init : State := ⟨∅, ∅, ∅⟩

/-! ### What users are answered -/

/-- `NotificationSerializer(notification).data`. -/
structure Serialized where
  id : UUID
  type : String
  title : String
  message : String
  data : Json
  isRead : Bool
  readAt : Option Int
  createdAt : Int
  expiresAt : Option Int
  deriving DecidableEq, Repr

def serialize (n : Notification) : Serialized where
  id := n.pk
  type := n.type
  title := n.title
  message := n.message
  data := n.data
  isRead := n.readAt.isSome
  readAt := n.readAt
  createdAt := n.createdAt
  expiresAt := n.expiresAt

inductive Answer
  | page (items : List Serialized)
  | item (item : Serialized)
  /-- `Http404`. -/
  | notFound
  | updatedCount (count : Nat)
  | deleted
  /-- `DatabaseError`, of a save that affects no row. -/
  | databaseError
  /-- A notification as it reaches its user: in the application, and by mail. -/
  | notified (created : Option Serialized) (mail : Option NotificationMessage)
  deriving DecidableEq, Repr

/-! ### The service and the views -/

/-- `get_queryset()`, for one row. -/
def visible (now : Int) (user : UUID) (n : Notification) : Bool :=
  n.user = user && n.expiresAt.all fun t => t > now

/-- `get_object()`. -/
def getObject (now : Int) (s : State) (user pk : UUID) : Option Notification :=
  (s.notifications.get? pk).filter (visible now user)

/-- `GET /notifications`, all pages of it: newest first, and of one type where a filter says so. -/
def list (now : Int) (s : State) (user : UUID) (type : Option String) : List Serialized :=
  ((s.notifications.rows.filter fun n => visible now user n && type.all fun t => n.type = t).mergeSort
    fun a b => b.createdAt ≤ a.createdAt).map serialize

/-- The in-app row of `NotificationService.notify`, where there is to be one. -/
def newRow (settings : Settings) (now : Int) (user : UUID) (message : NotificationMessage)
    (channels : List String) (pk : UUID) : Option Notification :=
  if settings.enableNotifications ∧ "in_app" ∈ channels then
    some { pk, user, type := message.type, title := message.title, message := message.message,
           data := message.data, createdAt := now, expiresAt := message.expiresAt }
  else none

/-- `Notification.objects.create(...)`, where there is a row to create. -/
def create (t : Table Notification) : Option Notification → Option (Table Notification)
  | none => some t
  | some row => t.insert? row

/-- `preferences.email_notifications` of `get_or_create(user=user)`. -/
def wantsMail (preferences : Table UserPreferences) (user : UUID) : Bool :=
  (preferences.get? user).all UserPreferences.emailNotifications

/-- `NotificationService.notify`. -/
def notify (settings : Settings) (now : Int) (s : State) (user : UUID)
    (message : NotificationMessage) (channels : List String) (pk : UUID) :
    Option (State × Answer) := do
  let row := newRow settings now user message channels pk
  let notifications ← create s.notifications row
  let mail := if "email" ∈ channels ∧ wantsMail s.preferences user then some message else none
  some ({ s with notifications, preferences := s.preferences.ensure { user } },
    .notified (row.map serialize) mail)

theorem pk_setRead (readAt : Int) (n : Notification) :
    Keyed.pk { n with readAt := some readAt } = Keyed.pk n := rfl

/-- The rows `mark_all_read` updates. -/
def unread (now : Int) (user : UUID) (n : Notification) : Bool :=
  visible now user n && n.readAt.isNone

def markAllRead (now : Int) (s : State) (user : UUID) : State × Answer :=
  ({ s with
     notifications := s.notifications.update (unread now user)
       (fun n => { n with readAt := some now }) (pk_setRead now) },
    .updatedCount (s.notifications.rows.countP (unread now user)))

/-- The rest of `mark_read`: `notification.save(update_fields=["read_at"])`, if it was unread. -/
def finishMarkRead (now : Int) (s : State) (copy : Notification) : State × Answer :=
  if copy.readAt.isSome then (s, .item (serialize copy))
  else if (s.notifications.get? copy.pk).isNone then (s, .databaseError)
  else
    ({ s with
       notifications := s.notifications.modify copy.pk (fun n => { n with readAt := some now })
         (pk_setRead now) },
      .item (serialize { copy with readAt := some now }))

/-- The rest of `destroy`: `notification.delete()`, which a row that is gone does not fail. -/
def finishDestroy (s : State) (copy : Notification) : State × Answer :=
  ({ s with notifications := s.notifications.erase copy.pk }, .deleted)

def finish (now : Int) (s : State) (r : InFlight) : State × Answer :=
  match r.action with
  | .markRead => finishMarkRead now s r.copy
  | .destroy => finishDestroy s r.copy

/-- What `cleanup_notifications` deletes. -/
def outdated (settings : Settings) (now : Int) (n : Notification) : Bool :=
  n.expiresAt.any (fun t => t < now) ||
    n.createdAt < now - seconds (86400 * settings.notificationRetentionDays) && n.readAt.isSome

/-! ### The system -/

inductive Event
  | notify (user : UUID) (message : NotificationMessage) (channels : List String) (pk : UUID)
  /-- The user saves their preferences. -/
  | setPreferences (user : UUID) (emailNotifications : Bool)
  | list (user : UUID) (type : Option String)
  | retrieve (user pk : UUID)
  | getObject (user : UUID) (request : Nat) (action : Action) (pk : UUID)
  | finish (user : UUID) (request : Nat)
  | markAllRead (user : UUID)
  | cleanup
  deriving DecidableEq, Repr

/-- Whom an event is about; a clean-up is about everyone. -/
def Event.user? : Event → Option UUID
  | .notify user _ _ _ | .setPreferences user _ | .list user _ | .retrieve user _
  | .getObject user _ _ _ | .finish user _ | .markAllRead user => some user
  | .cleanup => none

/-- The key of the row it may create. -/
def Event.key? : Event → Option UUID
  | .notify _ _ _ pk => some pk
  | _ => none

/-- The copy a request gets, or a 404. -/
def start (s : State) (user : UUID) (request : Nat) (action : Action) :
    Option Notification → Option (State × Option Answer)
  | none => some (s, some .notFound)
  | some copy =>
      (s.requests.insert? { user, request, action, copy }).map fun requests =>
        ({ s with requests }, none)

/-- What an event does at a time of the server's clock, and what the user is answered. -/
def apply (settings : Settings) (now : Int) (s : State) : Event → Option (State × Option Answer)
  | .notify user message channels pk =>
      (notify settings now s user message channels pk).map fun result => (result.1, some result.2)
  | .setPreferences user emailNotifications =>
      some ({ s with preferences := s.preferences.put { user, emailNotifications } }, none)
  | .list user type => some (s, some (.page (list now s user type)))
  | .retrieve user pk =>
      some (s, some (((getObject now s user pk).map fun n => .item (serialize n)).getD .notFound))
  | .getObject user request action pk => start s user request action (getObject now s user pk)
  | .finish user request =>
      (s.requests.get? (user, request)).map fun r =>
        let result := finish now { s with requests := s.requests.erase (user, request) } r
        (result.1, some result.2)
  | .markAllRead user => some ((markAllRead now s user).1, some (markAllRead now s user).2)
  | .cleanup =>
      some ({ s with notifications := s.notifications.delete (outdated settings now) }, none)

def step (settings : Settings) (s : State) (e : Int × Event) : Option State :=
  (apply settings e.1 s e.2).map Prod.fst

/-- What the user of an event is answered. -/
def answer (settings : Settings) (s : State) (e : Int × Event) : Option Answer :=
  (apply settings e.1 s e.2).bind Prod.snd

end DjangoFoundation.Notifications
