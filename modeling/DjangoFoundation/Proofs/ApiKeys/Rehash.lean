/-
What the hash of a key is read for.

`rehash` puts the hash of another raw key in a row of `APIKey`.  Every request does to the
database so changed, for a client who presents that other raw key, what it does to the
database as it is: of all that is read on the way only the comparison in
`APIKeyService.authenticate` looks at the hash, and it comes out the same.

It is an argument by relation: two databases that differ in one hash, two requests that differ
in what is presented.  Each part of the way a request takes, the middleware, the authentication
classes, the permissions and the view, is shown to keep the two in step, and the answer is the
same in both.
-/
import DjangoFoundation.Api.ApiKeys
import DjangoFoundation.Proofs.Idempotent
import DjangoFoundation.Proofs.Sessions

namespace DjangoFoundation

namespace APIKeys

open APIKeyService

variable {env : Environment} {jwt : Jwt} {settings : Settings} {now : Int} {db : Database}

/-! ### Raw keys

Keys of one prefix are cut at the same place, so both lead to the same row.  The hash of that
row is the one thing they do not have in common.
-/

theorem keyPrefix?_rawKey (keyPrefix : KeyPrefix) (secret : String) :
    keyPrefix? (rawKey keyPrefix secret) = some keyPrefix.value := by
  have hdot : ∀ c ∈ keyPrefix.value.toList, c ≠ '.' := by
    intro c hc hdot
    have hhex := keyPrefix.hex c hc
    rw [hdot] at hhex
    exact absurd hhex (by decide)
  have hlist : (rawKey keyPrefix secret).toList =
      'd' :: 'k' :: '_' :: (keyPrefix.value.toList ++ '.' :: secret.toList) := by
    simp [rawKey, String.toList_append]
  unfold keyPrefix?
  rw [hlist]
  simp only [List.mem_append, List.mem_cons, true_or, or_true, if_true]
  rw [List.takeWhile_append_of_pos (by simpa using hdot)]
  simp

theorem rawKey_injective (keyPrefix : KeyPrefix) {secret secret' : String}
    (h : rawKey keyPrefix secret = rawKey keyPrefix secret') : secret = secret' := by
  have hlist := congrArg String.toList h
  simp only [rawKey, String.toList_append] at hlist
  exact String.toList_injective (List.append_cancel_left hlist)

/-- Two raw keys for one prefix. -/
structure OnePrefix (keyPrefix raw raw' : String) : Prop where
  fst : keyPrefix? raw = some keyPrefix
  snd : keyPrefix? raw' = some keyPrefix

section Rehash

variable {keyPrefix raw raw' : String}

theorem OnePrefix.swap (h : OnePrefix keyPrefix raw raw') (other : String) :
    keyPrefix? (Equiv.swap raw raw' other) = keyPrefix? other := by
  by_cases hraw : other = raw
  · rw [hraw, Equiv.swap_apply_left, h.fst, h.snd]
  · by_cases hraw' : other = raw'
    · rw [hraw', Equiv.swap_apply_right, h.fst, h.snd]
    · rw [Equiv.swap_apply_of_ne_of_ne hraw hraw']

/-- Whoever presents one for the other presents what its hash says. -/
theorem hash_swap (env : Environment) (raw raw' other : String) :
    hash env raw' = hash env (Equiv.swap raw raw' other) ↔ hash env raw = hash env other := by
  have hinj : ∀ a b, hash env a = hash env b ↔ a = b := fun a b =>
    (env.keyring.keyedHash_injective "api-key").eq_iff
  rw [hinj, hinj, eq_comm, Equiv.swap_apply_eq_iff, Equiv.swap_apply_right, eq_comm]

theorem keyHash?_eq_some {other keyHash : String} :
    db.keyHash? other = some keyHash ↔
      ∃ key, db.apiKeys.get? other = some key ∧ key.keyHash = keyHash :=
  Option.map_eq_some_iff

/-! ### Authentication

Presented with its own raw key, either database lets the same owner in and notes the same use.
Presented with any other string, both refuse it.
-/

theorem get?_rehash (db : Database) (keyPrefix keyHash other : String) :
    (rehash keyPrefix keyHash db).apiKeys.get? other =
      if other = keyPrefix then
        (db.apiKeys.get? other).map fun key => { key with keyHash := keyHash }
      else db.apiKeys.get? other :=
  Table.get?_modify _ _ _ _ (rehashed_pk keyHash)

/-- Rows rewritten without regard to their hash. -/
theorem rehash_modify (keyHash other : String) {f : APIKey → APIKey}
    {hf : ∀ key, Keyed.pk (f key) = Keyed.pk key}
    (h : ∀ key, f { key with keyHash := keyHash } = { f key with keyHash := keyHash }) :
    { rehash keyPrefix keyHash db with
      apiKeys := (rehash keyPrefix keyHash db).apiKeys.modify other f hf } =
    rehash keyPrefix keyHash { db with apiKeys := db.apiKeys.modify other f hf } :=
  congrArg (fun apiKeys => { db with apiKeys := apiKeys })
    (Table.modify_comm db.apiKeys keyPrefix other fun key => (h key).symm)

/-- Two keys that authenticate alike: `raw` the one, `raw'` the other. -/
private structure Alike (env : Environment) (now : Int) (raw raw' : String) (key key' : APIKey) :
    Prop where
  owner : key'.owner = key.owner
  keyPrefix : key'.keyPrefix = key.keyPrefix
  isActive : key'.isActive now = key.isActive now
  keyHash : key'.keyHash = hash env raw' ↔ key.keyHash = hash env raw

private theorem alike_of_get? (now : Int) (h : OnePrefix keyPrefix raw raw')
    (hkey : db.keyHash? keyPrefix = some (hash env raw)) {other found : String} {key : APIKey}
    (hother : keyPrefix? other = some found) (hget : db.apiKeys.get? found = some key) :
    ∃ key', (rehash keyPrefix (hash env raw') db).apiKeys.get? found = some key' ∧
      Alike env now other (Equiv.swap raw raw' other) key key' := by
  rw [get?_rehash]
  by_cases hsame : found = keyPrefix
  · obtain ⟨held, hheld, hhash⟩ := keyHash?_eq_some.mp hkey
    rw [← hsame, hget, Option.some.injEq] at hheld
    subst hheld
    refine ⟨{ key with keyHash := hash env raw' }, by rw [if_pos hsame, hget]; rfl, rfl, rfl,
      rfl, ?_⟩
    rw [hhash]
    exact hash_swap env raw raw' other
  · have hraw : other ≠ raw := by
      intro heq
      rw [heq, h.fst, Option.some.injEq] at hother
      exact hsame hother.symm
    have hraw' : other ≠ raw' := by
      intro heq
      rw [heq, h.snd, Option.some.injEq] at hother
      exact hsame hother.symm
    refine ⟨key, by rw [if_neg hsame, hget], rfl, rfl, rfl, ?_⟩
    rw [Equiv.swap_apply_of_ne_of_ne hraw hraw']

theorem admitted?_rehash (now : Int) (h : OnePrefix keyPrefix raw raw')
    (hkey : db.keyHash? keyPrefix = some (hash env raw)) {other found : String}
    (hother : keyPrefix? other = some found) :
    (admitted? env now (rehash keyPrefix (hash env raw') db) (Equiv.swap raw raw' other)
        found).map (fun p => (p.1.keyPrefix, p.2)) =
      (admitted? env now db other found).map fun p => (p.1.keyPrefix, p.2) := by
  unfold admitted?
  cases hget : db.apiKeys.get? found with
  | none =>
      rw [get?_rehash, hget]
      simp
  | some key =>
      obtain ⟨key', hget', halike⟩ := alike_of_get? now h hkey hother hget
      have husers : (rehash keyPrefix (hash env raw') db).users = db.users := rfl
      have hbans : (rehash keyPrefix (hash env raw') db).bans = db.bans := rfl
      have hhash : decide (key'.keyHash ≠ hash env (Equiv.swap raw raw' other)) =
          decide (key.keyHash ≠ hash env other) := by
        simp only [ne_eq, halike.keyHash]
      rw [hget', husers, hbans]
      simp only [bind, Option.bind_some, halike.owner, halike.isActive, hhash]
      cases db.users.get? key.owner with
      | none => rfl
      | some owner =>
          simp only [Option.bind_some]
          split
          · rfl
          · rw [Option.map_some, Option.map_some, halike.keyPrefix]

/-- Whom authentication finds. -/
def outcomeOwner (outcome : Except Exception (Option (APIKey × User))) :
    Except Exception (Option User) :=
  outcome.map fun found => found.map Prod.snd

theorem service_rehash (now : Int) (h : OnePrefix keyPrefix raw raw')
    (hkey : db.keyHash? keyPrefix = some (hash env raw)) (other : String)
    (ipAddress : Option String) :
    Prod.map outcomeOwner id (APIKeyService.authenticate env now
        (rehash keyPrefix (hash env raw') db) (Equiv.swap raw raw' other) ipAddress) =
      Prod.map outcomeOwner (rehash keyPrefix (hash env raw'))
        (APIKeyService.authenticate env now db other ipAddress) := by
  unfold APIKeyService.authenticate
  rw [h.swap]
  cases hother : keyPrefix? other with
  | none => rfl
  | some found =>
      have hadmitted := admitted?_rehash now h hkey hother
      dsimp only
      generalize admitted? env now db other found = admitted at hadmitted ⊢
      generalize admitted? env now (rehash keyPrefix (hash env raw') db) (Equiv.swap raw raw' other)
        found = admitted' at hadmitted ⊢
      split
      · rfl
      · cases admitted with
        | none =>
            rw [Option.map_none, Option.map_eq_none_iff] at hadmitted
            rw [hadmitted]
            rfl
        | some p =>
            obtain ⟨p', hp', hsame⟩ := Option.map_eq_some_iff.mp hadmitted
            obtain ⟨hname, howner⟩ := Prod.mk.inj hsame
            rw [hp']
            unfold noteUse
            dsimp only
            rw [hname]
            exact Prod.ext (congrArg (fun owner => Except.ok (some owner)) howner)
              (rehash_modify (hash env raw') p.1.keyPrefix fun _ => rfl)

theorem presenting_noAPIKey (h : OnePrefix keyPrefix raw raw') {request : Request} :
    NoAPIKey settings (presenting raw raw' request) ↔ NoAPIKey settings request := by
  have hempty : keyPrefix? "" = none := rfl
  have hraw : "" ≠ raw := by
    rintro rfl
    cases hempty.symm.trans h.fst
  have hraw' : "" ≠ raw' := by
    rintro rfl
    cases hempty.symm.trans h.snd
  simp only [NoAPIKey, presenting, Option.map_eq_none_iff, Option.map_eq_some_iff,
    Equiv.swap_apply_eq_iff, Equiv.swap_apply_of_ne_of_ne hraw hraw', exists_eq_right]

theorem apiKeyAuthentication_of_some {request : Request} {raw : String}
    (hno : ¬NoAPIKey settings request) (hraw : request.apiKey = some raw) :
    apiKeyAuthentication env settings now db request =
      match APIKeyService.authenticate env now db raw request.client.ipAddress with
      | (.error _, _) => .error .dataError
      | (.ok none, _) => .error .authenticationFailed
      | (.ok (some (_, owner)), db) =>
          if !canAuthenticateNow db.bans now owner then .error .authenticationFailed
          else .ok (some owner, db) := by
  simp only [NoAPIKey, not_or, hraw, Option.some.injEq] at hno
  obtain ⟨hon, -, hne⟩ := hno
  unfold apiKeyAuthentication
  rw [if_neg (by simpa using hon), hraw]
  split
  · rename_i hnone
    cases hnone
  · rename_i hempty
    exact absurd (Option.some.inj hempty) hne
  · rename_i hsome
    cases hsome
    rfl

theorem apiKeyAuthentication_rehash (h : OnePrefix keyPrefix raw raw')
    (hkey : db.keyHash? keyPrefix = some (hash env raw)) (request : Request) :
    apiKeyAuthentication env settings now (rehash keyPrefix (hash env raw') db)
        (presenting raw raw' request) =
      (apiKeyAuthentication env settings now db request).map fun found =>
        (found.1, rehash keyPrefix (hash env raw') found.2) := by
  by_cases hno : NoAPIKey settings request
  · rw [apiKeyAuthentication_of_none hno,
      apiKeyAuthentication_of_none ((presenting_noAPIKey h).mpr hno)]
    rfl
  · cases hraw : request.apiKey with
    | none => exact absurd (Or.inr (Or.inl hraw)) hno
    | some other =>
        have hraw' : (presenting raw raw' request).apiKey = some (Equiv.swap raw raw' other) := by
          simp only [presenting, hraw, Option.map_some]
        rw [apiKeyAuthentication_of_some hno hraw,
          apiKeyAuthentication_of_some (fun hno' => hno ((presenting_noAPIKey h).mp hno')) hraw']
        have hclient : (presenting raw raw' request).client = request.client := rfl
        rw [hclient]
        have hservice := service_rehash now h hkey other request.client.ipAddress
        generalize APIKeyService.authenticate env now db other request.client.ipAddress = found
          at hservice ⊢
        generalize APIKeyService.authenticate env now (rehash keyPrefix (hash env raw') db)
          (Equiv.swap raw raw' other) request.client.ipAddress = found' at hservice ⊢
        obtain ⟨outcome, db₁⟩ := found
        obtain ⟨outcome', db₂⟩ := found'
        obtain ⟨howner, hdb⟩ := Prod.mk.inj hservice
        have hdb : db₂ = rehash keyPrefix (hash env raw') db₁ := hdb
        subst hdb
        rcases outcome with e | _ | ⟨key, owner⟩ <;>
          rcases outcome' with e' | _ | ⟨key', owner'⟩ <;> cases howner
        · rfl
        · rfl
        · show (if (!canAuthenticateNow db₁.bans now owner) = true then _ else _) =
            Except.map _ (if (!canAuthenticateNow db₁.bans now owner) = true then _ else _)
          split <;> rfl

/-! ### The way to the view

Middleware and permissions read sessions, accounts and bans.  That no hash is among what they
read is what the lemmas of this section say, one function after the other.
-/

/-- A request received, over the database with the other hash. -/
def rehashed (keyPrefix keyHash : String) (r : Received) : Received :=
  { r with db := rehash keyPrefix keyHash r.db }

theorem flush_rehash (keyHash : String) (session : RequestSession) :
    (rehash keyPrefix keyHash db).flush session = rehash keyPrefix keyHash (db.flush session) := by
  unfold Database.flush
  split
  · rfl
  · rfl

theorem getUser_rehash (keyHash : String) (session : RequestSession) :
    getUser env (rehash keyPrefix keyHash db) session =
      rehashed keyPrefix keyHash (getUser env db session) := by
  have husers : (rehash keyPrefix keyHash db).users = db.users := rfl
  unfold getUser
  rw [husers]
  cases session.data.userId.bind fun userId =>
      (db.users.get? userId).filter fun user => user.isActive with
  | none => rfl
  | some user =>
      dsimp only
      split
      · rfl
      · exact congrArg (fun db => (⟨none, {}, db⟩ : Received)) (flush_rehash keyHash session)

theorem userSessionMiddleware_rehash (keyHash : String) (r : Received) :
    userSessionMiddleware env now (rehashed keyPrefix keyHash r) =
      rehashed keyPrefix keyHash (userSessionMiddleware env now r) := by
  obtain ⟨user, session, db⟩ := r
  cases user with
  | none => rfl
  | some user =>
      have hflush : Received.flush (rehashed keyPrefix keyHash ⟨some user, session, db⟩) =
          rehashed keyPrefix keyHash (Received.flush ⟨some user, session, db⟩) :=
        congrArg (fun db => (⟨some user, {}, db⟩ : Received)) (flush_rehash keyHash session)
      have hcan : (rehashed keyPrefix keyHash ⟨some user, session, db⟩).db.bans = db.bans := rfl
      unfold userSessionMiddleware
      show (if session.sessionKey.isNone = true then _ else _) = _
      dsimp only
      split
      · rfl
      · rw [hcan]
        split
        · exact hflush
        · have hcurrent : SessionService.current env (rehash keyPrefix keyHash db)
              session.sessionKey = SessionService.current env db session.sessionKey := rfl
          dsimp only [rehashed]
          rw [hcurrent]
          cases SessionService.current env db session.sessionKey with
          | none => rfl
          | some userSession =>
              dsimp only
              split
              · exact hflush
              · split
                · rfl
                · rfl

theorem receive_rehash (keyHash : String) (request : Request) :
    receive env now (rehash keyPrefix keyHash db) (presenting raw raw' request) =
      rehashed keyPrefix keyHash (receive env now db request) := by
  unfold receive
  rw [← userSessionMiddleware_rehash, ← getUser_rehash]
  rfl

theorem authenticate_rehash (h : OnePrefix keyPrefix raw raw') {r : Received}
    (hkey : r.db.keyHash? keyPrefix = some (hash env raw)) (request : Request) :
    authenticate env jwt settings now (rehashed keyPrefix (hash env raw') r)
        (presenting raw raw' request) =
      (authenticate env jwt settings now r request).map fun found =>
        (found.1, rehash keyPrefix (hash env raw') found.2) := by
  unfold authenticate
  rw [show (rehashed keyPrefix (hash env raw') r).db = rehash keyPrefix (hash env raw') r.db from
    rfl, apiKeyAuthentication_rehash h hkey]
  cases apiKeyAuthentication env settings now r.db request with
  | error refusal => rfl
  | ok found =>
      obtain ⟨owner, db⟩ := found
      cases owner with
      | some user => rfl
      | none =>
          have hjwt : jwtAuthentication jwt now (rehash keyPrefix (hash env raw') db)
              (presenting raw raw' request) = jwtAuthentication jwt now db request := rfl
          have hsession : sessionAuthentication r.user (presenting raw raw' request) =
              sessionAuthentication r.user request := rfl
          simp only [Except.map, bind, Except.bind, hjwt]
          cases jwtAuthentication jwt now db request with
          | error refusal => rfl
          | ok user =>
              cases user with
              | some user => rfl
              | none =>
                  simp only [rehashed, hsession]
                  cases sessionAuthentication r.user request with
                  | error refusal => rfl
                  | ok user =>
                      cases user with
                      | some user => rfl
                      | none => rfl

theorem principal_rehash (jwt : Jwt) (settings : Settings) (now : Int)
    (h : OnePrefix keyPrefix raw raw')
    (hkey : db.keyHash? keyPrefix = some (hash env raw)) (request : Request) :
    principal env jwt settings now (rehash keyPrefix (hash env raw') db)
        (presenting raw raw' request) =
      ((principal env jwt settings now db request).1,
        rehashed keyPrefix (hash env raw') (principal env jwt settings now db request).2) := by
  have hkey' := ((passed_receive env now db request).keyHashes keyPrefix).trans hkey
  unfold principal
  rw [receive_rehash]
  dsimp only
  rw [authenticate_rehash h hkey']
  cases authenticate env jwt settings now (receive env now db request) request with
  | error refusal => rfl
  | ok found =>
      obtain ⟨found, db'⟩ := found
      cases found with
      | none => rfl
      | some found => rfl

/-! ### `APIKeyService` -/

theorem find?_rehash (keyHash : String) {p : APIKey → Bool}
    (hp : ∀ key, p { key with keyHash := keyHash } = p key) :
    find? (rehash keyPrefix keyHash db) p =
      (find? db p).map fun key =>
        if key.keyPrefix = keyPrefix then { key with keyHash := keyHash } else key :=
  Table.find?_modify db.apiKeys keyPrefix (rehashed_pk keyHash) hp

theorem insert?_rehash (keyHash : String) {held : String} (hkey : db.keyHash? keyPrefix = some held)
    (key : APIKey) :
    APIKeyService.insert? (rehash keyPrefix keyHash db) key =
      (APIKeyService.insert? db key).map (rehash keyPrefix keyHash) := by
  unfold APIKeyService.insert?
  rw [find?_rehash keyHash fun _ => rfl, Option.isSome_map]
  split
  · rfl
  · by_cases hsame : key.keyPrefix = keyPrefix
    · -- the prefix is taken, in both databases
      obtain ⟨holder, hholder, -⟩ := keyHash?_eq_some.mp hkey
      rw [← hsame] at hholder
      have hholder' := get?_rehash db keyPrefix keyHash key.keyPrefix
      rw [if_pos hsame, hholder, Option.map_some] at hholder'
      rw [Table.insert?_of_get? (a := key) hholder, Table.insert?_of_get? (a := key) hholder']
      rfl
    · have hinsert := Table.insert?_modify db.apiKeys (rehashed_pk keyHash) hsame
      refine (congrArg (Option.map _) hinsert).trans ?_
      rw [Option.map_map, Option.map_map]
      rfl

theorem service_create_rehash (now : Int) (keyHash : String) {held : String}
    (hkey : db.keyHash? keyPrefix = some held) (owner actor : UUID) (client : Client)
    (fields : KeyFields) (pk : UUID) (drawn : KeyPrefix) (secret : String) :
    APIKeyService.create env now (rehash keyPrefix keyHash db) owner actor client fields pk drawn
        secret =
      (APIKeyService.create env now db owner actor client fields pk drawn secret).map fun made =>
        (made.1, made.2.1, rehash keyPrefix keyHash made.2.2) := by
  unfold APIKeyService.create
  dsimp only
  rw [insert?_rehash keyHash hkey]
  cases APIKeyService.insert? db (row env now owner fields pk drawn secret) with
  | none => rfl
  | some db' => rfl

theorem service_revoke_rehash (keyHash : String) (pk actor : UUID) (client : Client) :
    APIKeyService.revoke now (rehash keyPrefix keyHash db) pk actor client =
      (APIKeyService.revoke now db pk actor client).map (rehash keyPrefix keyHash) := by
  unfold APIKeyService.revoke
  rw [find?_rehash keyHash fun _ => rfl]
  cases find? db fun key => key.pk = pk with
  | none => rfl
  | some locked =>
      have hlocked : ∃ keyHash', (if locked.keyPrefix = keyPrefix then
          { locked with keyHash := keyHash } else locked) =
            { locked with keyHash := keyHash' } := by
        split
        · exact ⟨keyHash, rfl⟩
        · exact ⟨locked.keyHash, rfl⟩
      obtain ⟨keyHash', hlocked⟩ := hlocked
      rw [Option.map_some, hlocked]
      dsimp only
      split
      · rfl
      · rw [rehash_modify keyHash locked.keyPrefix fun _ => rfl]
        rfl

/-! ### The requests

What is left are the requests that create and revoke keys.  Neither looks at the hash of a key
that is there, so each does the same to either database.  An answer may show a raw key, and
`respond` puts another in its place.
-/

/-- The state over the database with the other hash. -/
def State.rehash (keyPrefix keyHash : String) (s : State) : State :=
  { s with db := APIKeys.rehash keyPrefix keyHash s.db }

/-- The response with another raw key. -/
def respond (raw : String → String) (response : Idempotency.Response Body) :
    Idempotency.Response Body :=
  { response with data := response.data.map fun body =>
      { body with data := { body.data with key := raw body.data.key } } }

theorem respond_id (response : Idempotency.Response Body) : respond id response = response := by
  obtain ⟨statusCode, data⟩ := response
  cases data with
  | none => rfl
  | some body => rfl

/-- The view makes of a key what `APIKeyService.create` makes of it. -/
theorem create_map (settings : Settings) (parse : List UInt8 → Except Exception KeyFields)
    {c c' : Create} {user : UUID} {db db' : Database} (key : APIKey → APIKey)
    (raw : String → String) (f : Database → Database) (hbody : c'.body = c.body)
    (hkey : ∀ k, data now (key k) = data now k)
    (h : ∀ fields, APIKeyService.create env now db' user user c'.request.client fields c'.pk
        c'.keyPrefix c'.secret =
      (APIKeyService.create env now db user user c.request.client fields c.pk c.keyPrefix
        c.secret).map fun made => (key made.1, raw made.2.1, f made.2.2)) :
    create env settings parse now c' user db' =
      (create env settings parse now c user db).map fun made =>
        (respond raw made.1, f made.2) := by
  unfold create
  simp only [hbody, h]
  split
  · rfl
  · cases parse c.body with
    | error exception => rfl
    | ok fields =>
        simp only [bind, Except.bind]
        cases validated settings now fields with
        | error exception => rfl
        | ok fields =>
            dsimp only
            cases APIKeyService.create env now db user user c.request.client fields c.pk c.keyPrefix
                c.secret with
            | error exception => rfl
            | ok made =>
                show Except.ok _ = Except.ok _
                rw [hkey]
                rfl

variable {parse : List UInt8 → Except Exception KeyFields}

theorem create_rehash (env : Environment) (settings : Settings)
    (parse : List UInt8 → Except Exception KeyFields) (now : Int) (raw raw' keyHash : String)
    {held : String} (hkey : db.keyHash? keyPrefix = some held) (c : Create) (user : UUID) :
    create env settings parse now { c with request := presenting raw raw' c.request } user
        (rehash keyPrefix keyHash db) =
      (create env settings parse now c user db).map fun made =>
        (made.1, rehash keyPrefix keyHash made.2) := by
  have hmap : create env settings parse now { c with request := presenting raw raw' c.request } user
      (rehash keyPrefix keyHash db) = _ :=
    create_map settings parse id id (rehash keyPrefix keyHash) rfl (fun _ => rfl) fun fields =>
      service_create_rehash now keyHash hkey user user c.request.client fields c.pk c.keyPrefix
        c.secret
  rw [hmap]
  exact congrArg (Except.map · _) (funext fun made => by rw [respond_id])

theorem create_run_rehash (h : OnePrefix keyPrefix raw raw') {s : State}
    (hkey : s.db.keyHash? keyPrefix = some (hash env raw)) (c : Create) :
    Create.run env jwt settings parse now (s.rehash keyPrefix (hash env raw'))
        { c with request := presenting raw raw' c.request } =
      (c.run env jwt settings parse now s).rehash keyPrefix (hash env raw') := by
  have hpass := Sessions.passed_principal env jwt settings now s.db c.request
  have hkey' := (hpass.keyHashes keyPrefix).trans hkey
  have hprincipal := principal_rehash jwt settings now h hkey c.request
  unfold Create.run State.rehash
  dsimp only
  rw [hprincipal]
  generalize principal env jwt settings now s.db c.request = received at hkey'
  obtain ⟨found, r⟩ := received
  cases found with
  | none => rfl
  | some user =>
      dsimp only [rehashed]
      have hmethod := create_rehash env settings parse now raw raw' (hash env raw') hkey' c user.pk
      have hguarded : Create.guarded { c with request := presenting raw raw' c.request } user.pk =
          c.guarded user.pk := rfl
      rw [hguarded, Idempotency.idempotent_map hmethod]
      cases Idempotency.idempotent env.keyring ttl now (c.guarded user.pk) c.record
          (create env settings parse now c user.pk) s.records r.db with
      | error exception => rfl
      | ok ended => rfl

theorem revoke_rehash (h : OnePrefix keyPrefix raw raw')
    (hkey : db.keyHash? keyPrefix = some (hash env raw)) (request : Request) (pk : UUID) :
    APIKeys.revoke env jwt settings now (rehash keyPrefix (hash env raw') db)
        (presenting raw raw' request) pk =
      rehash keyPrefix (hash env raw') (APIKeys.revoke env jwt settings now db request pk) := by
  unfold APIKeys.revoke
  rw [principal_rehash jwt settings now h hkey]
  generalize principal env jwt settings now db request = received
  obtain ⟨found, r⟩ := received
  cases found with
  | none => rfl
  | some user =>
      dsimp only [rehashed, presenting]
      split
      · rfl
      · rw [find?_rehash (hash env raw') fun _ => rfl]
        cases find? r.db fun key => key.owner = user.pk ∧ key.pk = pk with
        | none => rfl
        | some apiKey =>
            have hpk : (if apiKey.keyPrefix = keyPrefix then
                { apiKey with keyHash := hash env raw' } else apiKey).pk = apiKey.pk := by
              split
              · rfl
              · rfl
            rw [Option.map_some]
            dsimp only
            rw [hpk, service_revoke_rehash]
            cases APIKeyService.revoke now r.db apiKey.pk user.pk request.client with
            | error exception => rfl
            | ok db' => rfl

/-- **What a request does it does to the database with the other hash**, presented with the
other key. -/
theorem run_rehash (h : OnePrefix keyPrefix raw raw') {s : State}
    (hkey : s.db.keyHash? keyPrefix = some (hash env raw)) (call : Call) :
    (call.presenting raw raw').run env jwt settings parse now (s.rehash keyPrefix (hash env raw')) =
      (call.run env jwt settings parse now s).rehash keyPrefix (hash env raw') := by
  cases call with
  | visit request =>
      have hprincipal := principal_rehash jwt settings now h hkey
        request
      exact congrArg (fun received => { s with db := received.2.db }) hprincipal
  | create c => exact create_run_rehash h hkey c
  | revoke request pk =>
      exact congrArg (fun db => { s with db := db }) (revoke_rehash h hkey request pk)

end Rehash

end APIKeys

end DjangoFoundation
