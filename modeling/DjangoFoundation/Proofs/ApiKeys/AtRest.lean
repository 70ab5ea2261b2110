/-
Where the raw value of an API key comes to rest.

Two runs are compared that differ in the secret drawn for one key, and in that the holder of
the key presents the value that was returned.  `APIKeyService.create` keeps the hash of it and
nothing else, so the two end alike but for that hash, unless the request came under an
`Idempotency-Key`: then the response, raw key and all, is what its record stores.

A value is at rest where it could be read out of the tables later.  That the two runs end in
one database says more than that no column has the value: no column has anything that depends
on it.
-/
import Mathlib.Data.Bool.AllAny
import DjangoFoundation.Proofs.ApiKeys.Rehash

namespace DjangoFoundation

namespace APIKeys

open APIKeyService

variable {env : Environment} {jwt : Jwt} {settings : Settings}
  {parse : List UInt8 → Except Exception KeyFields} {now : Int} {db : Database}

/-! ### What a request keeps

A request either leaves the table of keys with the hashes it has, or adds one key; and records
are added and never changed.  So it is enough to look at the one request that makes the key.
-/

theorem insert?_eq_some {key : APIKey} {db' : Database}
    (h : APIKeyService.insert? db key = some db') :
    ∃ apiKeys, db.apiKeys.insert? key = some apiKeys ∧ db' = { db with apiKeys := apiKeys } := by
  unfold APIKeyService.insert? at h
  split at h
  · cases h
  · obtain ⟨apiKeys, hins, rfl⟩ := Option.map_eq_some_iff.mp h
    exact ⟨apiKeys, hins, rfl⟩

/-- A key that is made, and where. -/
theorem create_eq_ok {c : Create} {user : UUID} {db' : Database}
    {response : Idempotency.Response Body}
    (h : create env settings parse now c user db = .ok (response, db')) :
    ∃ fields, db.apiKeys.insert? (row env now user fields c.pk c.keyPrefix c.secret) =
        some db'.apiKeys ∧
      ∃ body, response.data = some body ∧ body.data.key = c.raw := by
  unfold create at h
  split at h
  · cases h
  · obtain ⟨parsed, -, h⟩ := bind_eq_ok.mp h
    obtain ⟨fields, -, h⟩ := bind_eq_ok.mp h
    obtain ⟨⟨apiKey, raw, made⟩, hcreate, h⟩ := bind_eq_ok.mp h
    unfold APIKeyService.create at hcreate
    dsimp only at hcreate
    split at hcreate
    · cases hcreate
    · rename_i db₁ hins
      cases hcreate
      cases h
      obtain ⟨apiKeys, hrow, rfl⟩ := insert?_eq_some hins
      exact ⟨fields, hrow, _, rfl, rfl⟩

/-- What a request to create a key comes to: nothing, or a key, with a record of the response
if it came under an `Idempotency-Key`. -/
inductive Created (env : Environment) (jwt : Jwt) (settings : Settings)
    (parse : List UInt8 → Except Exception KeyFields) (now : Int) (s : State) (c : Create) :
    State → Prop
  | nothing {db' : Database} (hpass : Passed s.db db') :
      Created env jwt settings parse now s c { s with db := db' }
  | bare {user r response db'} (hkey : c.idempotencyKey = "")
      (huser : principal env jwt settings now s.db c.request = (some user, r))
      (hcreate : create env settings parse now c user.pk r.db = .ok (response, db')) :
      Created env jwt settings parse now s c { s with db := db' }
  | recorded {user r response opened db'}
      (hopening : Idempotency.opening (J := Body) (W := Database) (c.guarded user.pk) =
        .ok .lookup)
      (huser : principal env jwt settings now s.db c.request = (some user, r))
      (hcreate : create env settings parse now c user.pk r.db = .ok (response, db'))
      (hrecord : Idempotency.record? s.records user.pk
        ((c.guarded user.pk).keyHash env.keyring) = none)
      (hinsert : s.records.insert? ((c.guarded user.pk).record env.keyring ttl now user.pk
        c.record) = some opened) :
      Created env jwt settings parse now s c { s with
        db := db'
        records := opened.modify c.record (Idempotency.IdempotencyRecord.answered response)
          (Idempotency.answered_pk response) }

theorem create_run (env : Environment) (jwt : Jwt) (settings : Settings)
    (parse : List UInt8 → Except Exception KeyFields) (now : Int) (s : State) (c : Create) :
    Created env jwt settings parse now s c (c.run env jwt settings parse now s) := by
  have hpass := Sessions.passed_principal env jwt settings now s.db c.request
  unfold Create.run
  cases hprincipal : principal env jwt settings now s.db c.request with
  | mk found r =>
      rw [hprincipal] at hpass
      cases found with
      | none => exact .nothing hpass
      | some user =>
          dsimp only
          split
          · exact .nothing hpass
          · rename_i outcome records db hended
            cases Idempotency.idempotent_ok hended with
            | unguarded hkey hmethod => exact .bare hkey hprincipal hmethod
            | replayed hopening huser hrecord hanswer => exact .nothing hpass
            | executed hopening huser hrecord hinsert hmethod hdata =>
                cases huser
                exact .recorded hopening hprincipal hmethod hrecord hinsert

/-- The key that is made has the hash of its raw value. -/
theorem create_keyHash? {c : Create} {user : UUID} {db' : Database}
    {response : Idempotency.Response Body}
    (h : create env settings parse now c user db = .ok (response, db')) :
    db'.keyHash? c.keyPrefix.value = some (hash env c.raw) := by
  obtain ⟨fields, hins, -⟩ := create_eq_ok h
  exact congrArg (Option.map APIKey.keyHash) (Table.get?_insert?_self hins)

theorem create_keeps_keyHash? {c : Create} {user : UUID} {db' : Database}
    {response : Idempotency.Response Body}
    (h : create env settings parse now c user db = .ok (response, db')) {keyPrefix held : String}
    (hkey : db.keyHash? keyPrefix = some held) : db'.keyHash? keyPrefix = some held := by
  obtain ⟨fields, hins, -⟩ := create_eq_ok h
  obtain ⟨holder, hholder, hhash⟩ := keyHash?_eq_some.mp hkey
  exact keyHash?_eq_some.mpr ⟨holder, Table.get?_insert?_old hins hholder, hhash⟩

theorem revoke_keyHash? (pk actor : UUID) (client : Client) (keyPrefix : String) :
    (db.committed (APIKeyService.revoke now db pk actor client)).keyHash? keyPrefix =
      db.keyHash? keyPrefix := by
  unfold APIKeyService.revoke
  split
  · rfl
  · rename_i locked _
    split
    · rfl
    · exact keyHash?_modify locked.keyPrefix keyPrefix (fun key => revoked_key_pk key now)
        fun _ => rfl

/-- No request changes the hash of a key. -/
theorem run_keyHash? (call : Call) {s : State} {keyPrefix held : String}
    (hkey : s.db.keyHash? keyPrefix = some held) :
    (call.run env jwt settings parse now s).db.keyHash? keyPrefix = some held := by
  cases call with
  | visit request =>
      have hpass := Sessions.passed_principal env jwt settings now s.db request
      exact (hpass.keyHashes keyPrefix).trans hkey
  | create c =>
      have hpass := Sessions.passed_principal env jwt settings now s.db c.request
      have hkey' := (hpass.keyHashes keyPrefix).trans hkey
      have hcreated := create_run env jwt settings parse now s c
      show (c.run env jwt settings parse now s).db.keyHash? keyPrefix = _
      generalize c.run env jwt settings parse now s = s' at hcreated
      cases hcreated with
      | nothing hpass => exact (hpass.keyHashes keyPrefix).trans hkey
      | bare _ huser hcreate =>
          rw [huser] at hkey'
          exact create_keeps_keyHash? hcreate hkey'
      | recorded _ huser hcreate _ _ =>
          rw [huser] at hkey'
          exact create_keeps_keyHash? hcreate hkey'
  | revoke request pk =>
      have hpass := Sessions.passed_principal env jwt settings now s.db request
      have hkey' := (hpass.keyHashes keyPrefix).trans hkey
      show (revoke env jwt settings now s.db request pk).keyHash? keyPrefix = _
      unfold revoke
      generalize principal env jwt settings now s.db request = received at hkey'
      obtain ⟨found, r⟩ := received
      cases found with
      | none => exact hkey'
      | some user =>
          dsimp only
          split
          · exact hkey'
          · split
            · exact hkey'
            · exact (revoke_keyHash? _ _ _ _).trans hkey'

/-- No request changes a record that is there. -/
theorem run_records (call : Call) {s : State} {pk : UUID}
    {record : Idempotency.IdempotencyRecord Body} (hrecord : s.records.get? pk = some record) :
    (call.run env jwt settings parse now s).records.get? pk = some record := by
  cases call with
  | visit request => exact hrecord
  | revoke request key => exact hrecord
  | create c =>
      have hcreated := create_run env jwt settings parse now s c
      show (c.run env jwt settings parse now s).records.get? pk = _
      generalize c.run env jwt settings parse now s = s' at hcreated
      cases hcreated with
      | nothing _ => exact hrecord
      | bare _ _ _ => exact hrecord
      | recorded _ _ _ _ hinsert =>
          have hne : pk ≠ c.record := by
            intro hsame
            exact (Table.insert?_eq_some hinsert).1 record (Table.mem_of_get? hrecord)
              ((Table.pk_of_get? hrecord).trans hsame)
          dsimp only
          rw [Table.get?_modify, if_neg hne]
          exact Table.get?_insert?_old hinsert hrecord

/-! ### Another secret

The key that is made differs in nothing but its hash.  Whether the raw value is in the record
as well depends on whether there is one.
-/

section Redraw

variable {c : Create} {user : User} {r : Received} {response : Idempotency.Response Body}
  {db' : Database} {s s' : State}

theorem insert?_redraw (owner : UUID) (fields : KeyFields) (pk : UUID) (keyPrefix : KeyPrefix)
    (secret secret' : String) :
    APIKeyService.insert? db (row env now owner fields pk keyPrefix secret') =
      (APIKeyService.insert? db (row env now owner fields pk keyPrefix secret)).map
        (rehash keyPrefix.value (hash env (rawKey keyPrefix secret'))) := by
  unfold APIKeyService.insert?
  show (if (find? db fun other => other.pk = pk).isSome = true then _ else _) = _
  split
  · rw [if_pos (by assumption)]
    rfl
  · rw [if_neg (by assumption), Option.map_map]
    have hinsert := Table.insert?_rewritten db.apiKeys
      (row env now owner fields pk keyPrefix secret)
      (rehashed_pk (hash env (rawKey keyPrefix secret')))
    refine (congrArg (Option.map _) hinsert).trans ?_
    rw [Option.map_map]
    rfl

theorem service_create_redraw (owner actor : UUID) (client : Client) (fields : KeyFields)
    (pk : UUID) (keyPrefix : KeyPrefix) (secret secret' : String) :
    APIKeyService.create env now db owner actor client fields pk keyPrefix secret' =
      (APIKeyService.create env now db owner actor client fields pk keyPrefix secret).map
        fun made => ({ made.1 with keyHash := hash env (rawKey keyPrefix secret') },
          rawKey keyPrefix secret',
          rehash keyPrefix.value (hash env (rawKey keyPrefix secret')) made.2.2) := by
  unfold APIKeyService.create
  dsimp only
  rw [insert?_redraw owner fields pk keyPrefix secret secret']
  cases APIKeyService.insert? db (row env now owner fields pk keyPrefix secret) with
  | none => rfl
  | some made => rfl

theorem create_redraw (env : Environment) (settings : Settings)
    (parse : List UInt8 → Except Exception KeyFields) (now : Int) (db : Database) (c : Create)
    (user : UUID) (secret' : String) :
    create env settings parse now (c.redraw secret') user db =
      (create env settings parse now c user db).map fun made =>
        (respond (fun _ => (c.redraw secret').raw) made.1,
          rehash c.keyPrefix.value (hash env (c.redraw secret').raw) made.2) :=
  create_map settings parse (fun key => { key with keyHash := hash env (c.redraw secret').raw })
    (fun _ => (c.redraw secret').raw)
    (rehash c.keyPrefix.value (hash env (c.redraw secret').raw)) rfl (fun _ => rfl) fun fields =>
      service_create_redraw user user c.request.client fields c.pk c.keyPrefix c.secret secret'

theorem run_bare (hkey : c.idempotencyKey = "")
    (huser : principal env jwt settings now s.db c.request = (some user, r))
    (hcreate : create env settings parse now c user.pk r.db = .ok (response, db')) :
    c.run env jwt settings parse now s = { s with db := db' } := by
  unfold Create.run
  rw [huser]
  dsimp only
  rw [Idempotency.idempotent_of_ends (.unguarded hkey hcreate)]

/-- A key that no record remembers: another secret is another hash. -/
theorem run_redraw_bare (hkey : c.idempotencyKey = "")
    (huser : principal env jwt settings now s.db c.request = (some user, r))
    (hcreate : create env settings parse now c user.pk r.db = .ok (response, db'))
    (secret' : String) :
    (c.redraw secret').run env jwt settings parse now s =
      (c.run env jwt settings parse now s).rehash c.keyPrefix.value
        (hash env (c.redraw secret').raw) := by
  have hredraw := create_redraw env settings parse now r.db c user.pk secret'
  rw [hcreate] at hredraw
  rw [run_bare hkey huser hcreate]
  exact run_bare (c := c.redraw secret') hkey huser hredraw

/-- A key that a record remembers: the raw value is in it. -/
theorem run_recorded {opened : Table (Idempotency.IdempotencyRecord Body)}
    (hopening : Idempotency.opening (J := Body) (W := Database) (c.guarded user.pk) = .ok .lookup)
    (huser : principal env jwt settings now s.db c.request = (some user, r))
    (hcreate : create env settings parse now c user.pk r.db = .ok (response, db'))
    (hrecord : Idempotency.record? s.records user.pk
      ((c.guarded user.pk).keyHash env.keyring) = none)
    (hinsert : s.records.insert? ((c.guarded user.pk).record env.keyring ttl now user.pk
      c.record) = some opened) :
    ∃ record body, (c.run env jwt settings parse now s).records.get? c.record = some record ∧
      record.responseBody = some body ∧ body.data.key = c.raw := by
  obtain ⟨_, _, body, hbody, hraw⟩ := create_eq_ok hcreate
  have hended := Idempotency.idempotent_of_ends
    (.executed hopening rfl hrecord hinsert hcreate (by rw [hbody]; rfl))
  refine ⟨((c.guarded user.pk).record env.keyring ttl now user.pk c.record).answered response, body,
    ?_, hbody, hraw⟩
  unfold Create.run
  rw [huser]
  dsimp only
  rw [hended]
  dsimp only
  rw [Table.get?_modify, if_pos rfl]
  exact congrArg (Option.map _) (Table.get?_insert?_self hinsert)

end Redraw

/-! ### Two runs

The runs are the same up to the request that makes the key, and from there on they are compared
with `rehash`.  Where a record remembers the key, they differ in it to the end.
-/

/-- The request makes the key of its prefix. -/
structure Makes (s : State) (c : Create) (s' : State) : Prop where
  absent : s.db.apiKeys.get? c.keyPrefix.value = none
  present : (s'.db.apiKeys.get? c.keyPrefix.value).isSome

theorem step_eq_some {s s' : State} {e : Int × Call}
    (h : step env jwt settings parse s e = some s') :
    s.clock ≤ e.1 ∧ s' = { e.2.run env jwt settings parse e.1 s with clock := e.1 } := by
  unfold step at h
  split at h
  · rename_i hclock
    cases h
    exact ⟨hclock, rfl⟩
  · cases h

theorem step_of_le {s : State} {e : Int × Call} (h : s.clock ≤ e.1) :
    step env jwt settings parse s e =
      some { e.2.run env jwt settings parse e.1 s with clock := e.1 } :=
  if_pos h

theorem withoutHash_rehash (keyPrefix : KeyPrefix) (keyHash : String) (s : State) :
    (s.rehash keyPrefix.value keyHash).withoutHash keyPrefix = s.withoutHash keyPrefix :=
  congrArg (fun apiKeys => { s with db := { s.db with apiKeys := apiKeys } })
    (Table.modify_modify s.db.apiKeys keyPrefix.value (rehashed_pk keyHash) (rehashed_pk "")
      fun _ => rfl)

theorem onePrefix_redraw (c : Create) (secret' : String) :
    OnePrefix c.keyPrefix.value c.raw (c.redraw secret').raw :=
  ⟨keyPrefix?_rawKey c.keyPrefix c.secret, keyPrefix?_rawKey c.keyPrefix secret'⟩

/-- What two draws come to where one makes a key: another hash, or another record. -/
theorem redraw_cases {u : State} {c : Create} {secret' : String}
    (hmakes : Makes u c { c.run env jwt settings parse now u with clock := now })
    (hsecret : secret' ≠ c.secret) :
    (c.idempotencyKey = "" ∧
      (c.run env jwt settings parse now u).db.keyHash? c.keyPrefix.value = some (hash env c.raw) ∧
      (c.redraw secret').run env jwt settings parse now u =
        (c.run env jwt settings parse now u).rehash c.keyPrefix.value
          (hash env (c.redraw secret').raw)) ∨
    (c.idempotencyKey ≠ "" ∧ ∃ record record',
      (c.run env jwt settings parse now u).records.get? c.record = some record ∧
      ((c.redraw secret').run env jwt settings parse now u).records.get? c.record = some record' ∧
      record ≠ record') := by
  have habsent : u.db.keyHash? c.keyPrefix.value = none := by
    rw [Database.keyHash?, hmakes.absent]
    rfl
  have hpresent : ((c.run env jwt settings parse now u).db.keyHash? c.keyPrefix.value).isSome := by
    rw [Database.keyHash?, Option.isSome_map]
    exact hmakes.present
  have hcreated := create_run env jwt settings parse now u c
  generalize hv : c.run env jwt settings parse now u = v at hcreated hpresent
  cases hcreated with
  | nothing hpass =>
      rw [hpass.keyHashes, habsent] at hpresent
      cases hpresent
  | bare hkey huser hcreate =>
      refine Or.inl ⟨hkey, create_keyHash? hcreate, ?_⟩
      rw [run_redraw_bare hkey huser hcreate, hv]
  | @recorded user r response opened db' hopening huser hcreate hrecord hinsert =>
      have hredraw := create_redraw env settings parse now r.db c user.pk secret'
      rw [hcreate] at hredraw
      obtain ⟨record, body, hget, hbody, hraw⟩ :=
        run_recorded hopening huser hcreate hrecord hinsert
      obtain ⟨record', body', hget', hbody', hraw'⟩ :=
        run_recorded (c := c.redraw secret') hopening huser hredraw hrecord hinsert
      rw [hv] at hget
      refine Or.inr ⟨(Idempotency.opening_lookup hopening).1, record, record', hget, hget', ?_⟩
      intro hsame
      rw [hsame, hbody', Option.some.injEq] at hbody
      rw [← hbody, hraw'] at hraw
      exact hsecret (rawKey_injective c.keyPrefix hraw)

/-- From a key that no record remembers on, the two runs differ in its hash. -/
theorem exec_rehash {keyPrefix raw raw' : String} (h : OnePrefix keyPrefix raw raw')
    {v t : State} {post : List (Int × Call)}
    (hkey : v.db.keyHash? keyPrefix = some (hash env raw))
    (hpost : Run.exec (step env jwt settings parse) v post = some t) :
    Run.exec (step env jwt settings parse) (v.rehash keyPrefix (hash env raw'))
      (post.map (swapped raw raw')) = some (t.rehash keyPrefix (hash env raw')) := by
  have hstep : ∀ (s s' : State) (e : Int × Call) (t : State),
      (s.db.keyHash? keyPrefix = some (hash env raw) ∧ s' = s.rehash keyPrefix (hash env raw')) →
      step env jwt settings parse s e = some t →
      ∃ t', step env jwt settings parse s' (swapped raw raw' e) = some t' ∧
        t.db.keyHash? keyPrefix = some (hash env raw) ∧
        t' = t.rehash keyPrefix (hash env raw') := by
    rintro s _ e t ⟨hheld, rfl⟩ ht
    obtain ⟨hclock, rfl⟩ := step_eq_some ht
    refine ⟨_, step_of_le (e := swapped raw raw' e) hclock, run_keyHash? e.2 hheld, ?_⟩
    exact congrArg (fun s : State => { s with clock := e.1 }) (run_rehash h hheld e.2)
  obtain ⟨t', ht', -, rfl⟩ := Run.exec_of_rel hstep ⟨hkey, rfl⟩ hpost
  exact ht'

/-- What the records of two runs hold under one id they hold to the end. -/
theorem exec_records (v v' : State) {t : State} {post : List (Int × Call)} {raw raw' : String}
    {pk : UUID}
    {record record' : Idempotency.IdempotencyRecord Body} (hclock : v'.clock = v.clock)
    (hrecord : v.records.get? pk = some record) (hrecord' : v'.records.get? pk = some record')
    (hpost : Run.exec (step env jwt settings parse) v post = some t) :
    ∃ t', Run.exec (step env jwt settings parse) v' (post.map (swapped raw raw')) = some t' ∧
      t.records.get? pk = some record ∧ t'.records.get? pk = some record' := by
  have hstep : ∀ (s s' : State) (e : Int × Call) (t : State),
      (s'.clock = s.clock ∧ s.records.get? pk = some record ∧
        s'.records.get? pk = some record') →
      step env jwt settings parse s e = some t →
      ∃ t', step env jwt settings parse s' (swapped raw raw' e) = some t' ∧ t'.clock = t.clock ∧
        t.records.get? pk = some record ∧ t'.records.get? pk = some record' := by
    rintro s s' e t ⟨hsame, hr, hr'⟩ ht
    obtain ⟨hle, rfl⟩ := step_eq_some ht
    have hle' : s'.clock ≤ (swapped raw raw' e).1 := by
      rw [hsame]
      exact hle
    exact ⟨_, step_of_le hle', rfl, run_records e.2 hr, run_records (swapped raw raw' e).2 hr'⟩
  obtain ⟨t', ht', -, hr, hr'⟩ := Run.exec_of_rel hstep ⟨hclock, hrecord, hrecord'⟩ hpost
  exact ⟨t', ht', hr, hr'⟩

/-- **A raw key is nowhere at rest exactly when its request had no `Idempotency-Key`.**  Two
runs that differ in the secret drawn for a key, and in which of the two its holder presents
afterwards, end alike but for the hash of that key, or else in the record of the request. -/
theorem raw_key_at_rest_iff {s u v t : State} {pre post : List (Int × Call)} {c : Create}
    {secret' : String} (hpre : Run.exec (step env jwt settings parse) s pre = some u)
    (hcreate : step env jwt settings parse u (now, .create c) = some v) (hmakes : Makes u c v)
    (hpost : Run.exec (step env jwt settings parse) v post = some t)
    (hsecret : secret' ≠ c.secret) :
    ∃ t', Run.exec (step env jwt settings parse) s
        (pre ++ (now, .create (c.redraw secret')) ::
          post.map (swapped c.raw (c.redraw secret').raw)) = some t' ∧
      (t'.withoutHash c.keyPrefix = t.withoutHash c.keyPrefix ↔ c.idempotencyKey = "") := by
  obtain ⟨hclock, rfl⟩ := step_eq_some hcreate
  have hrun : ∀ t', Run.exec (step env jwt settings parse)
        { (c.redraw secret').run env jwt settings parse now u with clock := now }
        (post.map (swapped c.raw (c.redraw secret').raw)) = some t' →
      Run.exec (step env jwt settings parse) s (pre ++ (now, .create (c.redraw secret')) ::
        post.map (swapped c.raw (c.redraw secret').raw)) = some t' := by
    intro t' ht'
    rw [Run.exec_append, hpre, Option.bind_some, Run.exec_cons,
      step_of_le (e := (now, Call.create (c.redraw secret'))) hclock]
    exact ht'
  rcases redraw_cases hmakes hsecret with ⟨hbare, hkey, hredraw⟩ |
    ⟨hguarded, record, record', hrecord, hrecord', hne⟩
  · have hend := exec_rehash (v := { c.run env jwt settings parse now u with clock := now })
      (onePrefix_redraw c secret') hkey hpost
    refine ⟨t.rehash c.keyPrefix.value (hash env (c.redraw secret').raw), hrun _ ?_,
      iff_of_true (withoutHash_rehash c.keyPrefix _ t) hbare⟩
    rw [hredraw]
    exact hend
  · obtain ⟨t', ht', hlast, hlast'⟩ := exec_records
      { c.run env jwt settings parse now u with clock := now }
      { (c.redraw secret').run env jwt settings parse now u with clock := now }
      rfl hrecord hrecord' hpost
    refine ⟨t', hrun t' ht', iff_of_false (fun hsame => hne ?_) hguarded⟩
    have hrecords : t'.records = t.records := by
      show (t'.withoutHash c.keyPrefix).records = (t.withoutHash c.keyPrefix).records
      rw [hsame]
    rw [hrecords, hlast, Option.some.injEq] at hlast'
    exact hlast'

theorem stablePrefix_length : "0123456789ab".toList.length = 12 := rfl

theorem stablePrefix_hex : ∀ c ∈ "0123456789ab".toList, c ∈ "0123456789abcdef".toList :=
  List.all_iff_forall_prop.mp (by decide)

def stablePrefix : KeyPrefix := ⟨"0123456789ab", stablePrefix_length, stablePrefix_hex⟩

/-- An access token of one user. -/
def accessJwt : Jwt := ⟨fun _ raw => if raw = "access" then some 1 else none, fun _ _ => none⟩

/-- `/api/v1/api-keys/`. -/
def apiKeysPath : List UInt8 :=
  [0x2f, 0x61, 0x70, 0x69, 0x2f, 0x76, 0x31, 0x2f, 0x61, 0x70, 0x69, 0x2d, 0x6b, 0x65, 0x79, 0x73,
    0x2f]

/-- `{"name":"CLI","scopes":[]}`. -/
def cliBody : List UInt8 :=
  [0x7b, 0x22, 0x6e, 0x61, 0x6d, 0x65, 0x22, 0x3a, 0x22, 0x43, 0x4c, 0x49, 0x22, 0x2c, 0x22, 0x73,
    0x63, 0x6f, 0x70, 0x65, 0x73, 0x22, 0x3a, 0x5b, 0x5d, 0x7d]

def parseCli (body : List UInt8) : Except Exception KeyFields :=
  if body = cliBody then .ok { name := "CLI", scopes := [] } else .error .validation

def oneOwner : State where
  clock := 0
  db := { users := {ada} }

/-- The user asks for a key without scopes. -/
def stableCreate (idempotencyKey : String) : Create where
  request := { bearer := some "access" }
  idempotencyKey := idempotencyKey
  path := apiKeysPath
  body := cliBody
  record := 1
  pk := 2
  keyPrefix := stablePrefix
  secret := "one"

/-- The key is made, used once and revoked. -/
theorem raw_key_at_rest_iff_used :
    ∃ t t', Run.exec (step .plain accessJwt {} parseCli) oneOwner
        [(1, .create (stableCreate "")), (2, .visit { apiKey := some "dk_0123456789ab.one" }),
          (3, .revoke { bearer := some "access" } 2)] = some t ∧
      Run.exec (step .plain accessJwt {} parseCli) oneOwner
        [(1, .create ((stableCreate "").redraw "two")),
          (2, .visit { apiKey := some "dk_0123456789ab.two" }),
          (3, .revoke { bearer := some "access" } 2)] = some t' ∧
      t'.withoutHash stablePrefix = t.withoutHash stablePrefix := by
  have hcreate := @step_of_le .plain accessJwt {} parseCli oneOwner
    (1, .create (stableCreate "")) (by decide)
  obtain ⟨t', ht', hiff⟩ := @raw_key_at_rest_iff .plain accessJwt {} parseCli 1 oneOwner oneOwner _
    _ [] [(2, .visit { apiKey := some "dk_0123456789ab.one" }),
      (3, .revoke { bearer := some "access" } 2)] (stableCreate "") "two" rfl hcreate
    ⟨by decide, by decide⟩ rfl (by decide)
  exact ⟨_, t', rfl, ht', hiff.mpr rfl⟩

/-- Under an `Idempotency-Key` the raw key stands in the stored response. -/
theorem raw_key_in_stored_response :
    ∃ t t', Run.exec (step .plain accessJwt {} parseCli) oneOwner
        [(1, .create (stableCreate "stable-create-key"))] = some t ∧
      Run.exec (step .plain accessJwt {} parseCli) oneOwner
        [(1, .create ((stableCreate "stable-create-key").redraw "two"))] = some t' ∧
      t.records.rows.map (fun record => record.responseBody.map fun body => body.data.key) =
        [some "dk_0123456789ab.one"] ∧
      t'.withoutHash stablePrefix ≠ t.withoutHash stablePrefix := by
  refine ⟨_, _, rfl, rfl, by decide, ?_⟩
  intro hsame
  have hkeys := congrArg (fun s : State =>
    s.records.rows.map fun record => record.responseBody.map fun body => body.data.key) hsame
  exact absurd hkeys (by decide)

end APIKeys

end DjangoFoundation
