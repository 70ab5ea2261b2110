/-
What the signature of a webhook binds.

The signed message is the timestamp, a point and the body.  A timestamp is of digits, so the
point ends it; the body is JSON with sorted keys, which tells values apart, and so do the texts
of ids and instants in it.  Where the hash tells messages apart, a signature that has been sent
is then of no use for any other timestamp or event.
-/
import Mathlib.Data.List.Dedup
import DjangoFoundation.Proofs.JsonText
import DjangoFoundation.Webhooks.Wire

namespace DjangoFoundation

open Codes

/-! ### Ids and instants

Both are texts of digits at fixed places, so they are read back one field after the other.
-/

theorem UUID.ne_dash_of_mem_hex (pk : UUID) : ∀ c ∈ (UUID.hex pk).toList, c ≠ '-' := by
  have hdigit : ∀ n < 16, n.digitChar ≠ '-' := by decide
  intro c hc
  rw [UUID.hex, String.toList_ofList, List.mem_map] at hc
  obtain ⟨i, _, rfl⟩ := hc
  exact hdigit _ (Nat.mod_lt _ (by decide))

/-- A group of the digits and a dash, before what is left. -/
theorem filter_group {digits rest : List Char} (hne : ∀ c ∈ digits, c ≠ '-') (n m : Nat)
    (hrest : rest.filter (fun c => c ≠ '-') = digits.drop (n + m)) :
    ((digits.drop n).take m ++ '-' :: rest).filter (fun c => c ≠ '-') = digits.drop n := by
  have hgroup : ((digits.drop n).take m).filter (fun c => c ≠ '-') = (digits.drop n).take m := by
    rw [List.filter_eq_self]
    intro c hc
    rw [decide_eq_true_eq]
    exact hne c (List.mem_of_mem_drop (List.mem_of_mem_take hc))
  rw [List.filter_append, hgroup, List.filter_cons_of_neg (by decide), hrest, ← List.drop_drop,
    List.take_append_drop]

/-- Without its dashes, the text of an id is its digits. -/
theorem UUID.filter_str (pk : UUID) :
    (UUID.str pk).toList.filter (fun c => c ≠ '-') = (UUID.hex pk).toList := by
  have hne := UUID.ne_dash_of_mem_hex pk
  have hlast : ((UUID.hex pk).toList.drop 20).filter (fun c => c ≠ '-') =
      (UUID.hex pk).toList.drop 20 := by
    rw [List.filter_eq_self]
    intro c hc
    rw [decide_eq_true_eq]
    exact hne c (List.mem_of_mem_drop hc)
  have hfirst := filter_group hne 0 8 (filter_group hne 8 4 (filter_group hne 12 4
    (filter_group hne 16 4 hlast)))
  rw [List.drop_zero] at hfirst
  simpa [UUID.str] using hfirst

theorem UUID.str_injective {pk pk' : UUID} (hpk : pk < 2 ^ 128) (hpk' : pk' < 2 ^ 128)
    (h : UUID.str pk = UUID.str pk') : pk = pk' := by
  refine UUID.hex_injective hpk hpk' (String.toList_injective ?_)
  rw [← UUID.filter_str, ← UUID.filter_str, h]

namespace DateTime

theorem fraction_injective {m m' : Nat} (hm : m < 1000000) (hm' : m' < 1000000)
    (h : fraction m = fraction m') : m = m' := by
  unfold fraction at h
  split at h
  · split at h
    · omega
    · exact absurd (List.head_eq_of_cons_eq h) (by decide)
  · split at h
    · exact absurd (List.head_eq_of_cons_eq h) (by decide)
    · rw [List.cons.injEq] at h
      exact (reads_padded hm m' _ _ hm' trivial trivial h.2).1

/-- One field of the text, and the character behind it. -/
theorem read_field {w m m' : Nat} {c : Char} {r r' : List Char} (hm : m < 10 ^ w)
    (hm' : m' < 10 ^ w) (h : padded w m ++ c :: r = padded w m' ++ c :: r') : m = m' ∧ r = r' := by
  obtain ⟨heq, hrest⟩ := reads_padded hm m' _ _ hm' trivial trivial h
  exact ⟨heq, (List.cons.inj hrest).2⟩

theorem day_lt (t : DateTime) : t.day < 10 ^ 2 := by
  have hday := t.day_range.2
  unfold daysInMonth at hday
  split_ifs at hday <;> omega

theorem isoformat_injective : Function.Injective isoformat := by
  intro t t' h
  have hmonth := t.month_range
  have hmonth' := t'.month_range
  have htime := t.time_range
  have htime' := t'.time_range
  have htext := String.ofList_injective h
  obtain ⟨hyear, htext⟩ := read_field (by have := t.year_range; omega)
    (by have := t'.year_range; omega) htext
  obtain ⟨hmonth, htext⟩ := read_field (by omega) (by omega) htext
  obtain ⟨hday, htext⟩ := read_field t.day_lt t'.day_lt htext
  obtain ⟨hhour, htext⟩ := read_field (by omega) (by omega) htext
  obtain ⟨hminute, htext⟩ := read_field (by omega) (by omega) htext
  obtain ⟨hsecond, htext⟩ := reads_padded (w := 2) (by omega) _ _ _ (by omega) trivial trivial htext
  have hmicrosecond := fraction_injective htime.2.2.2 htime'.2.2.2 htext
  cases t
  cases t'
  simp_all

end DateTime

namespace Webhooks

/-! ### The body

The body is the dump of a dictionary with fixed keys; dumps with sorted keys are told apart by
their values.
-/

/-- What the body of an event says of it. -/
structure SameEvent (e e' : WireEvent) : Prop where
  pk : e.pk = e'.pk
  eventType : e.eventType = e'.eventType
  createdAt : e.createdAt = e'.createdAt
  payload : e.payload.sorted = e'.payload.sorted

def bodyItems (e : WireEvent) : List (String × Json) :=
  [("id", .str (UUID.str e.pk)), ("type", .str e.eventType),
    ("created_at", .str e.createdAt.isoformat), ("data", e.payload)]

theorem isProper_body (e : WireEvent) : Json.isProper (.dict (bodyItems e)) = true := by
  rw [Json.isProper, bodyItems]
  simp only [Json.isProperItems, Json.isProper, e.payload_proper, Bool.and_self]

theorem sorted_items (e : WireEvent) : Json.sortedItems (bodyItems e) =
    [("id", .str (UUID.str e.pk)), ("type", .str e.eventType),
      ("created_at", .str e.createdAt.isoformat), ("data", e.payload.sorted)] := by
  simp only [bodyItems, Json.sortedItems, Json.sorted]

theorem serializeEvent_inj {e e' : WireEvent} (h : serializeEvent e = serializeEvent e') :
    SameEvent e e' := by
  have hsorted := Json.dumps_injective (isProper_body e) (isProper_body e') h
  rw [Json.sorted, Json.sorted, Json.dict.injEq] at hsorted
  have hperm : (Json.sortedItems (bodyItems e)).Perm (Json.sortedItems (bodyItems e')) :=
    (List.mergeSort_perm _ _).symm.trans ((List.Perm.of_eq hsorted).trans (List.mergeSort_perm _ _))
  rw [sorted_items, sorted_items] at hperm
  have hid := hperm.subset (List.mem_cons_self)
  have htype := hperm.subset (List.mem_cons_of_mem _ List.mem_cons_self)
  have hcreated := hperm.subset
    (List.mem_cons_of_mem _ (List.mem_cons_of_mem _ List.mem_cons_self))
  have hdata := hperm.subset
    (List.mem_cons_of_mem _ (List.mem_cons_of_mem _ (List.mem_cons_of_mem _ List.mem_cons_self)))
  simp at hid htype hcreated hdata
  exact ⟨UUID.str_injective e.pk_lt e'.pk_lt hid, htype, DateTime.isoformat_injective hcreated,
    hdata⟩

theorem SameEvent.serializeEvent {e e' : WireEvent} (h : SameEvent e e') :
    Webhooks.serializeEvent e = Webhooks.serializeEvent e' := by
  have hitems : Json.sortedItems (bodyItems e) = Json.sortedItems (bodyItems e') := by
    rw [sorted_items, sorted_items, h.pk, h.eventType, h.createdAt, h.payload]
  show Json.dumps (.dict (bodyItems e)) = Json.dumps (.dict (bodyItems e'))
  rw [Json.dumps, Json.dumps, Json.sorted, Json.sorted, hitems]

/-! ### The signature

The receiver computes the hash of the timestamp, a point and the body it got.  Everything in a
request that is hashed is read back from the message.
-/

section Request

variable {env : Environment} {x : Exchange} {endpoint : WebhookEndpoint} {event : UUID}
  {secret body : String} {r : Request}

theorem request_header_timestamp : (request env x endpoint event secret).header
    "X-Webhook-Timestamp" = some (toString x.timestamp) := rfl

theorem request_header_signature : (request env x endpoint event secret).header
    "X-Webhook-Signature" = some ("v1=" ++ env.hmac secret
      (toString x.timestamp ++ "." ++ (request env x endpoint event secret).content)) := rfl

theorem isDigit_timestamp (n : Nat) : (toString n).toList.all Char.isDigit = true := by
  rw [List.all_eq_true]
  intro c hc
  rw [Nat.toString_eq_repr, Nat.toList_repr] at hc
  exact Nat.isDigit_of_mem_toDigits (by decide) (by decide) hc

theorem verifies_request : verifies env secret (request env x endpoint event secret) :=
  ⟨toString x.timestamp, request_header_timestamp, isDigit_timestamp x.timestamp,
    request_header_signature⟩

/-- Digits, up to a point. -/
theorem message_inj {timestamp timestamp' body body' : String}
    (hdigits : timestamp.toList.all Char.isDigit = true)
    (hdigits' : timestamp'.toList.all Char.isDigit = true)
    (h : timestamp ++ "." ++ body = timestamp' ++ "." ++ body') :
    timestamp = timestamp' ∧ body = body' := by
  have hreads : Reads String.toList (fun t => t.toList.all Char.isDigit = true)
      (Ends Char.isDigit) timestamp :=
    reads_of_span (fun t ht => List.all_eq_true.mp ht) (fun _ _ heq => String.toList_injective heq)
      hdigits
  have htext : timestamp.toList ++ '.' :: body.toList = timestamp'.toList ++ '.' :: body'.toList :=
    by simpa [String.toList_append] using congrArg String.toList h
  obtain ⟨heq, hrest⟩ := hreads timestamp' _ _ hdigits' (ends_cons (by decide) _)
    (ends_cons (by decide) _) htext
  exact ⟨heq, String.toList_injective (List.cons.inj hrest).2⟩

theorem eq_of_signature (hhmac : ∀ key, Function.Injective (env.hmac key)) {q : Request}
    (hr : verifies env secret r) (hq : verifies env secret q)
    (h : q.header "X-Webhook-Signature" = r.header "X-Webhook-Signature") :
    q.header "X-Webhook-Timestamp" = r.header "X-Webhook-Timestamp" ∧ q.content = r.content := by
  obtain ⟨timestamp, htimestamp, hdigits, hsignature⟩ := hr
  obtain ⟨timestamp', htimestamp', hdigits', hsignature'⟩ := hq
  rw [hsignature, hsignature', Option.some.injEq, String.append_right_inj] at h
  obtain ⟨heq, hbody⟩ := message_inj hdigits' hdigits (hhmac secret h)
  exact ⟨by rw [htimestamp, htimestamp', heq], hbody⟩

theorem posted_eq_some : posted env x endpoint event = some r ↔
    validateUrl env x endpoint.url = .ok () ∧
      ∃ secret ∈ env.keyring.decryptValue "webhook-secret" endpoint.encryptedSecret,
        r = request env x endpoint event secret := by
  unfold posted
  cases hvalid : validateUrl env x endpoint.url with
  | error exception => simp
  | ok _ => simp [eq_comm]

theorem attempt_of_posted (h : posted env x endpoint event = some r) :
    attempt env x endpoint event = x.post r := by
  obtain ⟨hvalid, secret, hsecret, rfl⟩ := posted_eq_some.mp h
  rw [Option.mem_def] at hsecret
  rw [attempt, hvalid, hsecret]

end Request

section Endpoint

variable {env : Environment} {x x' : Exchange} {pk : UUID} {nonce : Nat} {token secret url : String}
  {eventTypes : List String} {endpoint stored : WebhookEndpoint} {r : Request} {e : WireEvent}

theorem createEndpoint_eq_ok
    (h : createEndpoint env x pk nonce token url eventTypes = .ok (endpoint, secret)) :
    secret = token ∧
      endpoint.encryptedSecret = env.keyring.encryptValue "webhook-secret" nonce token ∧
      ∀ eventType, eventType ∈ endpoint.eventTypes ↔ eventType ∈ eventTypes := by
  unfold createEndpoint at h
  cases hvalid : validateUrl env x url with
  | error exception =>
      rw [hvalid] at h
      cases h
  | ok _ =>
      rw [hvalid] at h
      cases h
      exact ⟨rfl, rfl, fun _ => mem_sortedSet⟩

/-- **The signature binds the event.**  What a delivery posts to an endpoint verifies under the
secret that `create_endpoint` gave out, whatever has become of the row's other columns.  And
nothing else verifies with its signature: no other timestamp, and no body but that of the same
id, type, instant and payload, the order of keys apart. -/
theorem signature_binds_event (hhmac : ∀ key, Function.Injective (env.hmac key))
    (hcreate : createEndpoint env x' pk nonce token url eventTypes = .ok (endpoint, secret))
    (hstored : stored.encryptedSecret = endpoint.encryptedSecret) (he : env.Serializes e)
    (hposted : posted env x stored e.pk = some r) :
    attempt env x stored e.pk = x.post r ∧ verifies env secret r ∧
    ∀ q, verifies env secret q →
      q.header "X-Webhook-Signature" = r.header "X-Webhook-Signature" →
      q.header "X-Webhook-Timestamp" = r.header "X-Webhook-Timestamp" ∧
        ∀ e', q.content = serializeEvent e' ↔ SameEvent e e' := by
  obtain ⟨rfl, hencrypted, -⟩ := createEndpoint_eq_ok hcreate
  obtain ⟨-, secret', hsecret', rfl⟩ := posted_eq_some.mp hposted
  rw [hstored, hencrypted, env.keyring.decrypt_encrypt, Option.mem_some] at hsecret'
  subst hsecret'
  refine ⟨attempt_of_posted hposted, verifies_request, fun q hq hsame => ?_⟩
  obtain ⟨htimestamp, hcontent⟩ := eq_of_signature hhmac verifies_request hq hsame
  have hbody : (request env x stored e.pk secret).content = serializeEvent e := he
  refine ⟨htimestamp, fun e' => ?_⟩
  rw [hcontent, hbody]
  exact ⟨serializeEvent_inj, SameEvent.serializeEvent⟩

end Endpoint

/-! ### An event that is sent

The hypotheses on the hash are met by a hash that keeps its whole message.
-/

def created : WireEvent where
  pk := 7
  eventType := "example.created"
  payload := .dict [("name", .str "Zoë"), ("count", .int 3)]
  createdAt := ⟨2026, 2, 3, 4, 5, 6, 70, by decide, by decide, by decide, by decide⟩
  pk_lt := by decide
  payload_proper := by decide

/-- A host that is found; hashes that are the message. -/
def receiver : Environment where
  production := true
  appName := "App"
  unicode := ⟨fun _ => false, fun c => [c], fun c => [c]⟩
  urls := ⟨id, fun _ => false⟩
  keyring := Keyring.plain
  serializeEvent _ := serializeEvent created
  hmac _ message := message

def sending : Exchange where
  waited := 0
  took := 0
  timestamp := 1700000000
  getaddrinfo _ _ := .addresses [true]
  post _ := .response 200 "ok"

def receiverUrl : String := "https://example.test/hook"

def receiverEndpoint : WebhookEndpoint :=
  { pk := 1, url := receiverUrl, eventTypes := ["example.created"], encryptedSecret := "token" }

theorem validateUrl_receiver : validateUrl receiver sending receiverUrl = .ok () := by
  decide +kernel

theorem signature_binds_created :
    verifies receiver "token" (request receiver sending receiverEndpoint 7 "token") := by
  have hcreate : createEndpoint receiver sending 1 0 "token" receiverUrl ["example.created"] =
      .ok (receiverEndpoint, "token") := by
    have htypes : sortedSet ["example.created"] = ["example.created"] := by simp [sortedSet]
    rw [createEndpoint, validateUrl_receiver, htypes]
    rfl
  have hposted : posted receiver sending receiverEndpoint 7 =
      some (request receiver sending receiverEndpoint 7 "token") :=
    posted_eq_some.mpr ⟨validateUrl_receiver, "token", rfl, rfl⟩
  exact (signature_binds_event (e := created) (fun _ _ _ h => h) hcreate rfl rfl hposted).2.1

end Webhooks

end DjangoFoundation
