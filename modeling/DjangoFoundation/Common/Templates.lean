/-
Django templates as far as mails use them, and the mails' own (`templates/emails`).

A template is rendered with a context, a dictionary of values.  A variable is a dotted path
into it, each part of it looked up as a key, an attribute or an index, whichever is there
first; a path that leads nowhere renders as nothing.  Autoescape is on, for text as for HTML.
-/
import DjangoFoundation.Common.Values

namespace DjangoFoundation.Emails

/-! ### Contexts -/

/-- A value of a context. -/
inductive ContextValue
  | scalar (value : Scalar)
  | list (items : List ContextValue)
  | tuple (items : List ContextValue)
  | dict (items : List (Scalar × ContextValue))
  /-- An instance of a dataclass, by its fields. -/
  | dataclass (fields : List (String × ContextValue))
  /-- An object with an `email`, and with the other attributes it has. -/
  | account (pk : Scalar) (email : String) (displayName : Option String)
      (others : List (String × ContextValue))
  /-- An object with an `identifier`; `created_at` by the two parts of its `isoformat()`. -/
  | session (identifier browser operatingSystem device : String) (ipAddress : Option String)
      (createdAt : String × String) (others : List (String × ContextValue))
  /-- Any other object that has a `__dict__`. -/
  | object (vars : List (String × ContextValue))

namespace ContextValue

def str (value : String) : ContextValue := .scalar (.str value)

def optional : Option String → ContextValue
  | none => .scalar .none
  | some value => .str value

/-- One part of a path.  Methods of built-in types are not looked for. -/
def get? (part : String) : ContextValue → Option ContextValue
  | .scalar _ => none
  | .list items | .tuple items => part.toNat?.bind fun n => items[n]?
  | .dict items => (items.lookup (.str part)).or (part.toNat?.bind fun n => items.lookup (.int n))
  | .dataclass fields => fields.lookup part
  | .account pk email displayName others =>
      if part = "pk" then some (.scalar pk)
      else if part = "email" then some (.str email)
      else if part = "display_name" then displayName.map .str
      else others.lookup part
  | .session identifier browser operatingSystem device ipAddress createdAt others =>
      if part = "identifier" then some (.str identifier)
      else if part = "browser" then some (.str browser)
      else if part = "operating_system" then some (.str operatingSystem)
      else if part = "device" then some (.str device)
      else if part = "ip_address" then some (optional ipAddress)
      else if part = "created_at" then some (.scalar (.datetime createdAt.1 createdAt.2))
      else others.lookup part
  | .object vars => vars.lookup part

/-- `Variable.resolve`, of a dotted path. -/
def resolve (path : List String) (value : ContextValue) : Option ContextValue :=
  path.foldlM (fun value part => value.get? part) value

end ContextValue

/-- `items[key] = value`. -/
def assign {κ β : Type*} [DecidableEq κ] (items : List (κ × β)) (e : κ × β) : List (κ × β) :=
  if items.any fun item => item.1 = e.1 then
    items.map fun item => if item.1 = e.1 then e else item
  else items ++ [e]

/-- The dictionary that these entries leave, assigned in turn. -/
def assigned {κ β : Type*} [DecidableEq κ] (entries : List (κ × β)) : List (κ × β) :=
  entries.foldl assign []

/-! ### Templates -/

inductive Part
  | text (value : String)
  | path (names : List String)
  deriving DecidableEq, Repr

/-- A part of a template others extend. -/
inductive Node
  | part (part : Part)
  | block (name : String) (parts : List Part)
  deriving DecidableEq, Repr

/-- `{% extends %}`, with the blocks the child has. -/
def extended (base : List Node) (blocks : List (String × List Part)) : List Part :=
  base.flatMap fun
    | .part part => [part]
    | .block name parts => (blocks.lookup name).getD parts

/-- `html.escape(value)`. -/
def escape (value : String) : String :=
  String.ofList (value.toList.flatMap fun c =>
    if c = '&' then "&amp;".toList
    else if c = '<' then "&lt;".toList
    else if c = '>' then "&gt;".toList
    else if c = '"' then "&quot;".toList
    else if c = '\'' then "&#x27;".toList
    else [c])

/-- `render_value_in_context`, before it escapes: `str` of the value as the locale has it. -/
abbrev Display := ContextValue → String

def Part.render (display : Display) (context : ContextValue) : Part → String
  | .text value => value
  | .path names =>
      match context.resolve names with
      | none => ""
      | some value => escape (display value)

/-- `render_to_string`. -/
def render (display : Display) (context : ContextValue) (parts : List Part) : String :=
  String.join (parts.map (Part.render display context))

/-! ### The mails' templates -/

inductive EmailTemplate
  | accountLocked
  | accountSecurityWarning
  | emailChanged
  | emailVerification
  | newDeviceLogin
  | notification
  | passwordChanged
  | passwordReset
  | twoFactorDisabled
  | twoFactorEnabled
  | welcome
  deriving DecidableEq, Repr

namespace EmailTemplate

/-- `emails/*.txt`. -/
def txt : EmailTemplate → List Part
  | .accountLocked => [
      .text "Hello ", .path ["user", "display_name"],
      .text (",\n\nSign-in attempts caused a temporary security lock. Try again later or reset " ++
        "your password.\n")]
  | .accountSecurityWarning => [
      .text "Hello ", .path ["user", "display_name"],
      .text ",\n\nA sensitive account action was requested: ", .path ["action_url"],
      .text "\n\nIf this was not you, do not use this link.\n"]
  | .emailChanged => [
      .text "The email address on your account was changed to ", .path ["new_email"],
      .text ".\n\nIf this was not you, contact ", .path ["support_email"],
      .text " immediately.\n"]
  | .emailVerification => [
      .text "Hello ", .path ["user", "display_name"], .text ",\n\nVerify your email: ",
      .path ["verification_url"],
      .text "\n\nIf you did not request this, ignore this message.\n"]
  | .newDeviceLogin => [
      .text "Hello ", .path ["user", "display_name"],
      .text ",\n\nA new device signed in:\nBrowser: ", .path ["session", "browser"],
      .text "\nOperating system: ", .path ["session", "operating_system"], .text "\nDevice: ",
      .path ["session", "device"], .text "\nIP: ", .path ["session", "ip_address"],
      .text "\n\nReview unknown sessions immediately.\n"]
  | .notification => [
      .text "Hello ", .path ["user", "display_name"], .text ",\n\n",
      .path ["notification", "title"], .text "\n\n", .path ["notification", "message"],
      .text "\n"]
  | .passwordChanged => [
      .text "Hello ", .path ["user", "display_name"],
      .text ",\n\nYour password was changed. If this was not you, contact ",
      .path ["support_email"], .text " immediately.\n"]
  | .passwordReset => [
      .text "Hello ", .path ["user", "display_name"], .text ",\n\nReset your password: ",
      .path ["reset_url"], .text "\n\nIf this was not you, do not use the link.\n"]
  | .twoFactorDisabled => [
      .text "Hello ", .path ["user", "display_name"],
      .text ",\n\nTwo-factor authentication was disabled. If this was not you, contact ",
      .path ["support_email"], .text " immediately.\n"]
  | .twoFactorEnabled => [
      .text "Hello ", .path ["user", "display_name"],
      .text ",\n\nTwo-factor authentication was enabled on your account.\n"]
  | .welcome => [
      .text "Hello ", .path ["user", "display_name"],
      .text ",\n\nYour account is ready. Welcome to ", .path ["site_name"],
      .text ".\n\nNeed help? ", .path ["support_email"], .text "\n"]

end EmailTemplate

/-- `emails/base.html`. -/
def base : List Node := [
  .part (.text "<!doctype html>\n"),
  .part (.text "<html lang=\"en\">\n"),
  .part (.text "  <head>\n"),
  .part (.text "    <meta charset=\"utf-8\">\n"),
  .part (.text "    <meta name=\"viewport\" content=\"width=device-width, initial-scale=1\">\n"),
  .part (.text "    <title>"),
  .block "title" [.path ["site_name"]],
  .part (.text "</title>\n"),
  .part (.text "  </head>\n"),
  .part (.text ("  <body " ++
    "style=\"margin:0;background:#f4f5f7;color:#172b4d;font-family:Arial,sans-serif\">\n")),
  .part (.text ("    <table role=\"presentation\" width=\"100%\" cellspacing=\"0\" " ++
    "cellpadding=\"0\" style=\"padding:32px 16px\">\n")),
  .part (.text "      <tr><td align=\"center\">\n"),
  .part (.text ("        <table role=\"presentation\" width=\"600\" cellspacing=\"0\" " ++
    "cellpadding=\"0\" " ++
    "style=\"max-width:600px;background:#fff;border-radius:8px;padding:32px\">\n")),
  .part (.text "          <tr><td><h1 style=\"font-size:22px;margin-top:0\">"),
  .part (.path ["site_name"]),
  .part (.text "</h1></td></tr>\n"),
  .part (.text "          <tr><td>"),
  .block "content" [],
  .part (.text "</td></tr>\n"),
  .part (.text ("          <tr><td style=\"padding-top:24px;color:#6b778c;font-size:13px\">Need " ++
    "help? Contact <a href=\"mailto:")),
  .part (.path ["support_email"]),
  .part (.text "\">"),
  .part (.path ["support_email"]),
  .part (.text "</a>.</td></tr>\n"),
  .part (.text "        </table>\n"),
  .part (.text "      </td></tr>\n"),
  .part (.text "    </table>\n"),
  .part (.text "  </body>\n"),
  .part (.text "</html>\n")]

namespace EmailTemplate

/-- The blocks of `emails/*.html`. -/
def blocks : EmailTemplate → List (String × List Part)
  | .accountLocked => [
      ("title", [.text "Account temporarily locked"]),
      ("content", [
        .text "<p>Hello ", .path ["user", "display_name"],
        .text (",</p><p>Sign-in attempts caused a temporary security lock. Try again later or " ++
          "reset your password.</p>")])]
  | .accountSecurityWarning => [
      ("title", [.text "Account security action"]),
      ("content", [
        .text "<p>Hello ", .path ["user", "display_name"],
        .text ",</p><p>A sensitive account action was requested.</p><p><a href=\"",
        .path ["action_url"],
        .text "\">Confirm action</a></p><p>If this was not you, do not use this link.</p>"])]
  | .emailChanged => [
      ("title", [.text "Email changed"]),
      ("content", [
        .text "<p>The email address on your account was changed to ", .path ["new_email"],
        .text ". If this was not you, contact support immediately.</p>"])]
  | .emailVerification => [
      ("title", [.text "Verify your email"]),
      ("content", [
        .text "<p>Hello ", .path ["user", "display_name"],
        .text (",</p><p>Confirm this email address to finish securing your account.</p><p><a " ++
          "href=\""), .path ["verification_url"],
        .text ("\">Verify email</a></p><p>If you did not request this, you can ignore this " ++
          "message.</p>")])]
  | .newDeviceLogin => [
      ("title", [.text "New device sign-in"]),
      ("content", [
        .text "<p>Hello ", .path ["user", "display_name"],
        .text ",</p><p>A new device signed in to your account.</p><ul><li>Browser: ",
        .path ["session", "browser"], .text "</li><li>Operating system: ",
        .path ["session", "operating_system"], .text "</li><li>Device: ",
        .path ["session", "device"], .text "</li><li>IP: ", .path ["session", "ip_address"],
        .text "</li></ul><p>Review and revoke unknown sessions from your security settings.</p>"])]
  | .notification => [
      ("title", [.path ["notification", "title"]]),
      ("content", [
        .text "<p>Hello ", .path ["user", "display_name"], .text ",</p><h2>",
        .path ["notification", "title"], .text "</h2><p>",
        .path ["notification", "message"], .text "</p>"])]
  | .passwordChanged => [
      ("title", [.text "Password changed"]),
      ("content", [
        .text "<p>Hello ", .path ["user", "display_name"],
        .text (",</p><p>Your password was changed. If this was not you, contact support " ++
          "immediately.</p>")])]
  | .passwordReset => [
      ("title", [.text "Reset your password"]),
      ("content", [
        .text "<p>Hello ", .path ["user", "display_name"],
        .text ",</p><p>A password reset was requested for your account.</p><p><a href=\"",
        .path ["reset_url"],
        .text "\">Reset password</a></p><p>If this was not you, do not use the link.</p>"])]
  | .twoFactorDisabled => [
      ("title", [.text "Two-factor authentication disabled"]),
      ("content", [
        .text "<p>Hello ", .path ["user", "display_name"],
        .text (",</p><p>Two-factor authentication was disabled. If this was not you, contact " ++
          "support immediately.</p>")])]
  | .twoFactorEnabled => [
      ("title", [.text "Two-factor authentication enabled"]),
      ("content", [
        .text "<p>Hello ", .path ["user", "display_name"],
        .text ",</p><p>Two-factor authentication was enabled on your account.</p>"])]
  | .welcome => [
      ("title", [.text "Welcome to ", .path ["site_name"]]),
      ("content", [
        .text "<p>Hello ", .path ["user", "display_name"],
        .text ",</p><p>Your account is ready. Welcome to ", .path ["site_name"],
        .text ".</p>"])]

/-- `emails/*.html`, which extend the base. -/
def html (template : EmailTemplate) : List Part := extended base template.blocks

end EmailTemplate

end DjangoFoundation.Emails
