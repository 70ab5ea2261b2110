/-
`EmailService` (`common/services/email.py`), the task it leaves mails to where Celery is on
(`apps/core/tasks.py`), and the mails the application sends.

A task's arguments travel as JSON.  `_task_context` makes JSON of a context, and the worker
renders the same templates with what it finds in the message.
-/
import DjangoFoundation.Common.Templates
import DjangoFoundation.Common.Text
import DjangoFoundation.Accounts.Models

namespace DjangoFoundation.Emails

/-! ### `EmailService` -/

/-- The scalar if JSON has it, else its `isoformat()` or `str`. -/
def scalarJson : Scalar → Json
  | .none => .null
  | .bool value => .bool value
  | .int value => .int value
  | .float repr => .float repr
  | .str value => .str value
  | .date iso => .str iso
  | .datetime day time => .str (day ++ "T" ++ time)
  | .uuid text | .decimal text | .object text => .str text

namespace EmailService

mutual

/-- `_task_context(value)`.  What `asdict` makes of a dataclass, it makes of the fields. -/
def taskContext : ContextValue → Json
  | .scalar value => scalarJson value
  | .dict items => .dict (assigned (taskContextItems items))
  | .list items | .tuple items => .list (taskContextList items)
  | .dataclass fields => .dict (taskContextFields fields)
  | .account pk email displayName _ => .dict [
      ("id", .str pk.text), ("email", .str email),
      ("display_name", .str (displayName.getD email))]
  | .session identifier browser operatingSystem device ipAddress createdAt _ => .dict [
      ("identifier", .str identifier), ("browser", .str browser),
      ("operating_system", .str operatingSystem), ("device", .str device),
      ("ip_address", ipAddress.elim .null .str),
      ("created_at", .str (createdAt.1 ++ "T" ++ createdAt.2))]
  | .object vars => .dict ((taskContextFields vars).filter fun e => !e.1.startsWith "_")

def taskContextList : List ContextValue → List Json
  | [] => []
  | item :: items => taskContext item :: taskContextList items

def taskContextItems : List (Scalar × ContextValue) → List (String × Json)
  | [] => []
  | (key, item) :: items => (key.text, taskContext item) :: taskContextItems items

def taskContextFields : List (String × ContextValue) → List (String × Json)
  | [] => []
  | (key, item) :: items => (key, taskContext item) :: taskContextFields items

end

end EmailService

mutual

/-- What the worker finds in the message. -/
def loaded : Json → ContextValue
  | .null => .scalar .none
  | .bool value => .scalar (.bool value)
  | .int value => .scalar (.int value)
  | .float repr => .scalar (.float repr)
  | .str value => .scalar (.str value)
  | .list items => .list (loadedList items)
  | .dict items => .dict (loadedItems items)

def loadedList : List Json → List ContextValue
  | [] => []
  | item :: items => loaded item :: loadedList items

def loadedItems : List (String × Json) → List (Scalar × ContextValue)
  | [] => []
  | (key, item) :: items => (.str key, loaded item) :: loadedItems items

end

structure EmailSettings where
  siteName : String
  siteUrl : String
  supportEmail : String
  defaultFromEmail : String
  celeryEnabled : Bool
  celeryTaskAlwaysEager : Bool
  deriving DecidableEq, Repr

/-- A message as it is handed to the mail backend. -/
structure EmailMultiAlternatives where
  subject : String
  body : String
  fromEmail : String
  recipients : List String
  html : String
  deriving DecidableEq, Repr

/-- The arguments of `send` and `enqueue`. -/
structure Mail where
  template : EmailTemplate
  recipient : String
  subject : String
  context : List (Scalar × ContextValue)

/-- The arguments of `send_templated_email`. -/
structure EmailTask where
  template : EmailTemplate
  recipient : String
  subject : String
  context : List (String × Json)
  deriving DecidableEq, Repr

/-- What a call of `enqueue` comes to. -/
inductive Enqueued
  | sent (message : EmailMultiAlternatives)
  | delayed (task : EmailTask)
  deriving DecidableEq, Repr

variable (settings : EmailSettings) (display : Display)

namespace EmailService

/-- The context of every mail: the site's, and over it the mail's own. -/
def emailContext (context : List (Scalar × ContextValue)) : List (Scalar × ContextValue) :=
  assigned ([(.str "site_name", .str settings.siteName), (.str "site_url", .str settings.siteUrl),
    (.str "support_email", .str settings.supportEmail)] ++ context)

def send (mail : Mail) : EmailMultiAlternatives :=
  let context := ContextValue.dict (emailContext settings mail.context)
  { subject := mail.subject
    body := render display context mail.template.txt
    fromEmail := settings.defaultFromEmail
    recipients := [mail.recipient]
    html := render display context mail.template.html }

def enqueue (mail : Mail) : Enqueued :=
  if settings.celeryEnabled ∧ ¬settings.celeryTaskAlwaysEager then
    .delayed {
      template := mail.template
      recipient := mail.recipient
      subject := mail.subject
      context := assigned (taskContextItems mail.context) }
  else .sent (send settings display mail)

end EmailService

/-- `send_templated_email`. -/
def EmailTask.run (task : EmailTask) : EmailMultiAlternatives :=
  EmailService.send settings display {
    template := task.template
    recipient := task.recipient
    subject := task.subject
    context := loadedItems task.context }

/-- The message that is sent in the end. -/
def Enqueued.message : Enqueued → EmailMultiAlternatives
  | .sent message => message
  | .delayed task => task.run settings display

/-! ### The mails -/

/-- A user, and what else the object has. -/
structure Account where
  user : User
  others : List (String × ContextValue) := []

/-- What mails say of a `UserSession`. -/
structure SessionInfo where
  identifier : String
  browser : String
  operatingSystem : String
  device : String
  ipAddress : Option String
  createdAt : String × String
  others : List (String × ContextValue) := []

/-- A `NotificationMessage`; `expires_at` by the two parts of its `isoformat()`. -/
structure MessageInfo where
  type : String
  title : String
  message : String
  data : List (Scalar × ContextValue)
  expiresAt : Option (String × String)

/-- Where `EmailService.enqueue` is called. -/
inductive Occasion
  | twoFactorEnabled (user : Account)
  | twoFactorDisabled (user : Account)
  | newDevice (user : Account) (session : SessionInfo)
  /-- `register_user` and `resend_verification`. -/
  | verification (user : Account) (rawToken : String)
  | emailVerified (user : Account)
  | passwordReset (user : Account) (rawToken : String)
  /-- `reset_password` and `change_password`. -/
  | passwordChanged (user : Account)
  | emailChange (user : Account) (normalized rawToken : String)
  | emailChanged (user : Account) (oldEmail newEmail : String)
  | deletion (user : Account) (rawToken : String)
  | accountLocked (user : Account) (retryAfter : Int)
  | notification (user : Account) (message : MessageInfo)

variable (unicode : Unicode)

/-- `display_name`. -/
def displayName (user : User) : String :=
  let fullName := unicode.stripped (user.firstName ++ " " ++ user.lastName)
  if fullName ≠ "" then fullName else user.username

def Account.value (account : Account) : ContextValue :=
  .account (.uuid (UUID.str account.user.pk)) account.user.email
    (some (displayName unicode account.user)) account.others

def SessionInfo.value (session : SessionInfo) : ContextValue :=
  .session session.identifier session.browser session.operatingSystem session.device
    session.ipAddress session.createdAt session.others

def MessageInfo.value (message : MessageInfo) : ContextValue :=
  .dataclass [("type", .str message.type), ("title", .str message.title),
    ("message", .str message.message), ("data", .dict message.data),
    ("expires_at", .scalar (message.expiresAt.elim .none fun at_ => .datetime at_.1 at_.2))]

/-- The mail of an occasion. -/
def Occasion.mail : Occasion → Mail
  | .twoFactorEnabled user => {
      template := .twoFactorEnabled
      recipient := user.user.email
      subject := "Two-factor authentication enabled on " ++ settings.siteName
      context := [(.str "user", user.value unicode)] }
  | .twoFactorDisabled user => {
      template := .twoFactorDisabled
      recipient := user.user.email
      subject := "Two-factor authentication disabled on " ++ settings.siteName
      context := [(.str "user", user.value unicode)] }
  | .newDevice user session => {
      template := .newDeviceLogin
      recipient := user.user.email
      subject := "New sign-in to " ++ settings.siteName
      context := [(.str "user", user.value unicode), (.str "session", session.value)] }
  | .verification user rawToken => {
      template := .emailVerification
      recipient := user.user.email
      subject := "Verify your " ++ settings.siteName ++ " email"
      context := [(.str "user", user.value unicode),
        (.str "verification_url", .str (settings.siteUrl ++ "/verify-email?token=" ++ rawToken))] }
  | .emailVerified user => {
      template := .welcome
      recipient := user.user.email
      subject := "Welcome to " ++ settings.siteName
      context := [(.str "user", user.value unicode)] }
  | .passwordReset user rawToken => {
      template := .passwordReset
      recipient := user.user.email
      subject := "Reset your " ++ settings.siteName ++ " password"
      context := [(.str "user", user.value unicode),
        (.str "reset_url", .str (settings.siteUrl ++ "/reset-password?token=" ++ rawToken))] }
  | .passwordChanged user => {
      template := .passwordChanged
      recipient := user.user.email
      subject := "Your " ++ settings.siteName ++ " password was changed"
      context := [(.str "user", user.value unicode)] }
  | .emailChange user normalized rawToken => {
      template := .emailVerification
      recipient := normalized
      subject := "Confirm your new " ++ settings.siteName ++ " email"
      context := [(.str "user", user.value unicode), (.str "verification_url",
        .str (settings.siteUrl ++ "/confirm-email-change?token=" ++ rawToken))] }
  | .emailChanged user oldEmail newEmail => {
      template := .emailChanged
      recipient := oldEmail
      subject := "Your " ++ settings.siteName ++ " email was changed"
      context := [(.str "user", user.value unicode), (.str "new_email", .str newEmail)] }
  | .deletion user rawToken => {
      template := .accountSecurityWarning
      recipient := user.user.email
      subject := "Confirm deletion of your " ++ settings.siteName ++ " account"
      context := [(.str "user", user.value unicode),
        (.str "action_url", .str (settings.siteUrl ++ "/delete-account?token=" ++ rawToken))] }
  | .accountLocked user retryAfter => {
      template := .accountLocked
      recipient := user.user.email
      subject := "Your account was temporarily locked"
      context := [(.str "user", user.value unicode),
        (.str "retry_after", .scalar (.int retryAfter))] }
  | .notification user message => {
      template := .notification
      recipient := user.user.email
      subject := message.title
      context := [(.str "user", user.value unicode), (.str "notification", message.value)] }

end DjangoFoundation.Emails
