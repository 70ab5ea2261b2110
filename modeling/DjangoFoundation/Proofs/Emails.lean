/-
A mail is the same whether it is sent at once or by a worker.

The worker renders with what is left of the context after `_task_context` and JSON: plain
data, an account down to three attributes and a session to six.  A template reads one path
at a time, so it is enough that each path it reads is carried: the parts of it are still
there, and what it leads to is plain already.

The templates are listed with the paths they read, and each path is checked against what is
carried for the mail it belongs to.
-/
import DjangoFoundation.Common.Email

namespace DjangoFoundation.Emails

open EmailService

variable {display : Display} {settings : EmailSettings}

/-! ### Dictionaries -/

section Assigned

variable {κ β γ : Type*} [DecidableEq κ]

theorem lookup_map (f : β → γ) (items : List (κ × β)) (k : κ) :
    (items.map fun e => (e.1, f e.2)).lookup k = (items.lookup k).map f := by
  induction items with
  | nil => rfl
  | cons e items ih =>
      rw [List.map_cons, List.lookup_cons, List.lookup_cons, ih]
      split <;> rfl

theorem assign_of_absent {items : List (κ × β)} {e : κ × β} (h : e.1 ∉ items.map Prod.fst) :
    assign items e = items ++ [e] := by
  unfold assign
  rw [if_neg]
  intro hany
  obtain ⟨item, hmem, hsame⟩ := List.any_eq_true.mp hany
  exact h (of_decide_eq_true hsame ▸ List.mem_map_of_mem hmem)

/-- Entries under keys of their own are the dictionary. -/
theorem assigned_of_nodup {entries : List (κ × β)} (h : (entries.map Prod.fst).Nodup) :
    assigned entries = entries := by
  have hfold : ∀ items : List (κ × β), ((items ++ entries).map Prod.fst).Nodup →
      entries.foldl assign items = items ++ entries := by
    clear h
    induction entries with
    | nil => intro items _; rw [List.foldl_nil, List.append_nil]
    | cons e entries ih =>
        intro items hnodup
        rw [List.map_append, List.map_cons, List.nodup_append] at hnodup
        have habsent : e.1 ∉ items.map Prod.fst := fun hmem =>
          hnodup.2.2 _ hmem _ List.mem_cons_self rfl
        rw [List.foldl_cons, assign_of_absent habsent, ih, List.append_assoc, List.singleton_append]
        rw [List.map_append, List.map_append, List.append_assoc, List.nodup_append]
        exact hnodup
  exact hfold [] h

end Assigned

/-! ### What is carried

`_task_context` is lossy: an account and a session keep a few attributes, keys become text, and
tuples become lists.  `carried` is what the worker has in the end.
-/

/-- A value as the worker has it. -/
def carried (value : ContextValue) : ContextValue := loaded (taskContext value)

/-- A dictionary as Python can have it, of text keys. -/
structure Regular (items : List (Scalar × ContextValue)) : Prop where
  nodup : (items.map Prod.fst).Nodup
  text : ∀ e ∈ items, ∃ key, e.1 = .str key

theorem taskContextItems_eq (items : List (Scalar × ContextValue)) :
    taskContextItems items = items.map fun e => (e.1.text, taskContext e.2) := by
  induction items with
  | nil => rfl
  | cons e items ih => rw [taskContextItems, ih, List.map_cons]

theorem loadedItems_eq (items : List (String × Json)) :
    loadedItems items = items.map fun e => (.str e.1, loaded e.2) := by
  induction items with
  | nil => rfl
  | cons e items ih => rw [loadedItems, ih, List.map_cons]

/-- The keys stay, and each value is carried. -/
theorem Regular.carried_items {items : List (Scalar × ContextValue)} (h : Regular items) :
    loadedItems (assigned (taskContextItems items)) = items.map fun e => (e.1, carried e.2) := by
  have hkey : ∀ e ∈ items, Scalar.str e.1.text = e.1 := by
    intro e he
    obtain ⟨key, hkey⟩ := h.text e he
    rw [hkey]
    rfl
  have hnodup : ((taskContextItems items).map Prod.fst).Nodup := by
    rw [taskContextItems_eq, List.map_map]
    refine List.Nodup.of_map Scalar.str ?_
    rw [List.map_map]
    refine (List.map_congr_left fun e he => ?_) ▸ h.nodup
    exact (hkey e he).symm
  rw [assigned_of_nodup hnodup, taskContextItems_eq, loadedItems_eq, List.map_map]
  refine List.map_congr_left fun e he => ?_
  show (Scalar.str e.1.text, loaded (taskContext e.2)) = _
  rw [hkey e he]
  rfl

theorem Regular.get?_dict {items : List (Scalar × ContextValue)} (h : Regular items)
    (part : String) : (ContextValue.dict items).get? part = items.lookup (.str part) := by
  have hint : ∀ n, items.lookup (.int n) = none := by
    intro n
    rw [List.lookup_eq_none_iff]
    intro e he
    obtain ⟨key, hkey⟩ := h.text e he
    rw [hkey]
    rfl
  unfold ContextValue.get?
  simp only [hint]
  cases items.lookup (.str part) with
  | none => cases part.toNat? <;> rfl
  | some value => rfl

theorem Regular.map {items : List (Scalar × ContextValue)} (h : Regular items)
    (f : ContextValue → ContextValue) : Regular (items.map fun e => (e.1, f e.2)) := by
  refine ⟨?_, fun e he => ?_⟩
  · rw [List.map_map]
    exact h.nodup
  · obtain ⟨e', he', rfl⟩ := List.mem_map.mp he
    exact h.text e' he'

/-! ### Paths

A template never looks at a value as a whole.  It follows a dotted path and prints what it
finds, so two contexts render alike if they agree along each path, and the text of what a path
ends at is the same for a value and for what is carried of it.
-/

/-- Each part of the path is there for the worker as it is for the sender, and so is what it
leads to. -/
def Carries : List String → ContextValue → Prop
  | [], value => carried value = value
  | part :: path, value => (carried value).get? part = (value.get? part).map carried ∧
      ∀ inner, value.get? part = some inner → Carries path inner

theorem resolve_carried {path : List String} {value : ContextValue} (h : Carries path value) :
    (carried value).resolve path = value.resolve path := by
  induction path generalizing value with
  | nil => exact congrArg some h
  | cons part path ih =>
      obtain ⟨hpart, hinner⟩ := h
      unfold ContextValue.resolve at ih ⊢
      rw [List.foldlM_cons, List.foldlM_cons, hpart]
      cases hget : value.get? part with
      | none => rfl
      | some inner => exact ih (hinner inner hget)

theorem carries_str (value : String) : Carries [] (.str value) := rfl

theorem carries_account {account : Account} {unicode : Unicode} :
    Carries ["display_name"] (account.value unicode) := by
  refine ⟨rfl, fun inner hinner => ?_⟩
  cases hinner
  exact carries_str _

theorem carries_session {session : SessionInfo} {part : String}
    (h : part ∈ ["browser", "operating_system", "device", "ip_address"]) :
    Carries [part] session.value := by
  simp only [List.mem_cons, List.not_mem_nil, or_false] at h
  rcases h with rfl | rfl | rfl | rfl
  · refine ⟨rfl, fun inner hinner => ?_⟩
    cases hinner
    exact carries_str _
  · refine ⟨rfl, fun inner hinner => ?_⟩
    cases hinner
    exact carries_str _
  · refine ⟨rfl, fun inner hinner => ?_⟩
    cases hinner
    exact carries_str _
  · obtain ⟨_, _, _, _, ipAddress, _, _⟩ := session
    cases ipAddress with
    | none =>
        refine ⟨rfl, fun inner hinner => ?_⟩
        cases hinner
        rfl
    | some ipAddress =>
        refine ⟨rfl, fun inner hinner => ?_⟩
        cases hinner
        exact carries_str _

theorem carries_message {message : MessageInfo} {part : String} (h : part ∈ ["title", "message"]) :
    Carries [part] message.value := by
  simp only [List.mem_cons, List.not_mem_nil, or_false] at h
  rcases h with rfl | rfl
  · refine ⟨rfl, fun inner hinner => ?_⟩
    cases hinner
    exact carries_str _
  · refine ⟨rfl, fun inner hinner => ?_⟩
    cases hinner
    exact carries_str _

theorem carried_dict {items : List (Scalar × ContextValue)} (h : Regular items) :
    carried (.dict items) = .dict (items.map fun e => (e.1, carried e.2)) := by
  unfold carried
  rw [taskContext, loaded, h.carried_items]
  rfl

theorem carries_dict {items : List (Scalar × ContextValue)} (h : Regular items) {key : String}
    {path : List String} {value : ContextValue} (hlookup : items.lookup (.str key) = some value)
    (hvalue : Carries path value) : Carries (key :: path) (.dict items) := by
  refine ⟨?_, fun inner hinner => ?_⟩
  · rw [carried_dict h, (h.map carried).get?_dict, h.get?_dict, lookup_map]
  · rw [h.get?_dict, hlookup, Option.some.injEq] at hinner
    exact hinner ▸ hvalue

/-- The variables of a template. -/
def Part.path? : Part → Option (List String)
  | .text _ => none
  | .path names => some names

theorem render_carried {context : ContextValue} {parts : List Part}
    (h : ∀ path ∈ parts.filterMap Part.path?, Carries path context) :
    render display (carried context) parts = render display context parts := by
  unfold render
  refine congrArg String.join (List.map_congr_left fun part hpart => ?_)
  cases part with
  | text value => rfl
  | path names =>
      have hnames : names ∈ parts.filterMap Part.path? := List.mem_filterMap.mpr ⟨_, hpart, rfl⟩
      simp only [Part.render, resolve_carried (h names hnames)]

/-! ### The mails

What is left is a finite check: for each template the paths it reads, and for each occasion
that its context carries them.  The site's own entries are added on either side after the
context was sent.
-/

/-- The paths a template's text and HTML read. -/
def EmailTemplate.paths (template : EmailTemplate) : List (List String) :=
  (template.txt ++ template.html).filterMap Part.path?

/-- Those of them that begin with neither the site nor the user. -/
def EmailTemplate.ownPaths : EmailTemplate → List (List String)
  | .accountSecurityWarning => [["action_url"]]
  | .emailChanged => [["new_email"]]
  | .emailVerification => [["verification_url"]]
  | .newDeviceLogin => ["browser", "operating_system", "device", "ip_address"].map
      fun name => ["session", name]
  | .notification => ["title", "message"].map fun name => ["notification", name]
  | .passwordReset => [["reset_url"]]
  | _ => []

theorem mem_paths {template : EmailTemplate} {path : List String} (h : path ∈ template.paths) :
    path = ["site_name"] ∨ path = ["support_email"] ∨ path = ["user", "display_name"] ∨
      path ∈ template.ownPaths := by
  have hall : template.paths.all fun path => path = ["site_name"] ∨ path = ["support_email"] ∨
      path = ["user", "display_name"] ∨ path ∈ template.ownPaths := by
    cases template <;> decide
  exact of_decide_eq_true (List.all_eq_true.mp hall path h)

variable {unicode : Unicode}

/-- The site's entries. -/
def siteContext (settings : EmailSettings) : List (Scalar × ContextValue) :=
  [(.str "site_name", .str settings.siteName), (.str "site_url", .str settings.siteUrl),
    (.str "support_email", .str settings.supportEmail)]

/-- No mail has an entry of the site's, or one twice. -/
theorem regular_context (settings : EmailSettings) (unicode : Unicode) (occasion : Occasion) :
    Regular (siteContext settings ++ (occasion.mail settings unicode).context) := by
  constructor
  · cases occasion <;> simp [siteContext, Occasion.mail]
  · cases occasion <;> simp [siteContext, Occasion.mail]

theorem regular_own (occasion : Occasion) :
    Regular (occasion.mail settings unicode).context := by
  obtain ⟨hnodup, htext⟩ := regular_context settings unicode occasion
  refine ⟨?_, fun e he => htext e (List.mem_append_right _ he)⟩
  rw [List.map_append, List.nodup_append] at hnodup
  exact hnodup.2.1

theorem emailContext_mail (occasion : Occasion) :
    emailContext settings (occasion.mail settings unicode).context =
      siteContext settings ++ (occasion.mail settings unicode).context :=
  assigned_of_nodup (regular_context settings unicode occasion).nodup

/-- The worker's context is the sender's, carried. -/
theorem emailContext_carried (occasion : Occasion) :
    ContextValue.dict (emailContext settings (loadedItems (assigned (taskContextItems
        (occasion.mail settings unicode).context)))) =
      carried (.dict (emailContext settings (occasion.mail settings unicode).context)) := by
  have hregular := regular_context settings unicode occasion
  rw [(regular_own occasion).carried_items, emailContext_mail, carried_dict hregular,
    List.map_append]
  have hsite : (siteContext settings).map (fun e => (e.1, carried e.2)) = siteContext settings :=
    rfl
  have hnodup : ((siteContext settings ++ (occasion.mail settings unicode).context.map
      fun e => (e.1, carried e.2)).map Prod.fst).Nodup := by
    have hmapped := (hregular.map carried).nodup
    rw [List.map_append, hsite] at hmapped
    exact hmapped
  rw [hsite]
  exact congrArg ContextValue.dict (assigned_of_nodup hnodup)

/-- Whatever a template reads is carried. -/
theorem carries_paths (occasion : Occasion) {path : List String}
    (h : path ∈ (occasion.mail settings unicode).template.paths) :
    Carries path (.dict (emailContext settings (occasion.mail settings unicode).context)) := by
  have hregular := regular_context settings unicode occasion
  rw [emailContext_mail]
  rcases mem_paths h with rfl | rfl | rfl | hown
  · exact carries_dict hregular rfl (carries_str settings.siteName)
  · exact carries_dict hregular rfl (carries_str settings.supportEmail)
  · have huser : ∃ account : Account, (siteContext settings ++
        (occasion.mail settings unicode).context).lookup (.str "user") =
          some (account.value unicode) := by
      cases occasion <;> exact ⟨_, rfl⟩
    obtain ⟨account, huser⟩ := huser
    exact carries_dict hregular huser carries_account
  · cases occasion with
    | newDevice user session =>
        obtain ⟨part, hpart, rfl⟩ := List.mem_map.mp hown
        exact carries_dict hregular rfl (carries_session hpart)
    | notification user message =>
        obtain ⟨part, hpart, rfl⟩ := List.mem_map.mp hown
        exact carries_dict hregular rfl (carries_message hpart)
    | verification user rawToken =>
        obtain rfl := List.mem_singleton.mp hown
        exact carries_dict hregular rfl (carries_str _)
    | passwordReset user rawToken =>
        obtain rfl := List.mem_singleton.mp hown
        exact carries_dict hregular rfl (carries_str _)
    | emailChange user normalized rawToken =>
        obtain rfl := List.mem_singleton.mp hown
        exact carries_dict hregular rfl (carries_str _)
    | emailChanged user oldEmail newEmail =>
        obtain rfl := List.mem_singleton.mp hown
        exact carries_dict hregular rfl (carries_str _)
    | deletion user rawToken =>
        obtain rfl := List.mem_singleton.mp hown
        exact carries_dict hregular rfl (carries_str _)
    | twoFactorEnabled user => cases hown
    | twoFactorDisabled user => cases hown
    | emailVerified user => cases hown
    | passwordChanged user => cases hown
    | accountLocked user retryAfter => cases hown

/-- **A worker sends what would have been sent at once**: with Celery or without, each mail of
the application comes to one message, its text and HTML the same to the letter, whatever the
user, the session or the notification it speaks of. -/
theorem enqueued_message (settings : EmailSettings) (display : Display) (unicode : Unicode)
    (occasion : Occasion) :
    (EmailService.enqueue settings display (occasion.mail settings unicode)).message settings
        display =
      EmailService.send settings display (occasion.mail settings unicode) := by
  unfold EmailService.enqueue
  split
  · have hrender : ∀ parts : List Part, (∀ path ∈ parts.filterMap Part.path?,
        path ∈ (occasion.mail settings unicode).template.paths) →
        render display (.dict (emailContext settings (loadedItems (assigned (taskContextItems
          (occasion.mail settings unicode).context))))) parts =
        render display (.dict (emailContext settings (occasion.mail settings unicode).context))
          parts := by
      intro parts hparts
      rw [emailContext_carried]
      exact render_carried fun path hpath => carries_paths occasion (hparts path hpath)
    have htxt := hrender (occasion.mail settings unicode).template.txt fun path hpath => by
      rw [EmailTemplate.paths, List.filterMap_append]
      exact List.mem_append_left _ hpath
    have hhtml := hrender (occasion.mail settings unicode).template.html fun path hpath => by
      rw [EmailTemplate.paths, List.filterMap_append]
      exact List.mem_append_right _ hpath
    simp only [Enqueued.message, EmailTask.run, EmailService.send, htxt, hhtml]
  · rfl

end DjangoFoundation.Emails
