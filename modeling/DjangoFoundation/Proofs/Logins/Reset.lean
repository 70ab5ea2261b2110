/-
What a successful login takes off the protection.

It clears the three dimensions it was counted on, and the one of its address is everybody's
there: failures under any other name from that address are forgotten with it.  Everything
else stays, through whatever is counted later: to other names a success is as if the counter
of its address alone had been cleared, and to those at other addresses as if it had not
been.
-/
import Mathlib.Data.List.Basic
import DjangoFoundation.Proofs.Logins.Attempts
import DjangoFoundation.Proofs.Logins.Counters

namespace DjangoFoundation

open Run LoginProtectionService AuthenticationService

variable {env : Environment} {twoFactor : TwoFactor} {settings : LoginSettings} {now : Int}

namespace Resets

/-! ### Calls after it

What a later call answers depends on its dimensions only.  So if two protections are alike in
some dimensions, calls within these are answered alike, whatever calls outside of them come
between.
-/

/-- A protection, and the time of the last call. -/
structure State where
  clock : Int
  protection : Protection

def step (env : Environment) (settings : LoginSettings) (s : State) (e : Int × Backends.Call) :
    Option State :=
  if s.clock ≤ e.1 then
    some { clock := e.1, protection := e.2.run env settings e.1 s.protection }
  else none

def identifier : Backends.Call → String
  | .registerFailure identifier _ | .check identifier _ | .reset identifier _ => identifier

def ipAddress : Backends.Call → Option String
  | .registerFailure _ ip | .check _ ip | .reset _ ip => ip

/-- What a call answers. -/
def answer (env : Environment) (settings : LoginSettings) (s : State) (e : Int × Backends.Call) :
    Option LockoutState :=
  match e.2 with
  | .registerFailure identifier ip =>
      some (registerFailure env settings e.1 s.protection identifier ip).1
  | .check identifier ip => some (check env settings e.1 s.protection identifier ip)
  | .reset _ _ => none

/-- The answers to those of the calls. -/
def answers (env : Environment) (settings : LoginSettings) (those : Backends.Call → Bool)
    (p : Protection) (now : Int) (es : List (Int × Backends.Call)) : List LockoutState :=
  collect (step env settings) (fun s e => if those e.2 then answer env settings s e else none)
    ⟨now, p⟩ es

/-- Two protections that some dimensions are alike in. -/
structure Alike (env : Environment) (alike : String → Prop) (s s' : State) : Prop where
  clock : s.clock = s'.clock
  same : ∀ d, alike d → AlikeAt env s.clock d s.protection s'.protection

theorem step_eq_some {s s' : State} {e : Int × Backends.Call} :
    step env settings s e = some s' ↔
      s.clock ≤ e.1 ∧ s' = { clock := e.1, protection := e.2.run env settings e.1 s.protection } := by
  unfold step
  rw [Option.ite_none_right_eq_some, Option.some.injEq, eq_comm]

theorem Alike.step {alike : String → Prop} {s s' t t' : State} {e : Int × Backends.Call}
    (h : Alike env alike s s') (ht : step env settings s e = some t)
    (ht' : Resets.step env settings s' e = some t') : Alike env alike t t' := by
  obtain ⟨hle, rfl⟩ := step_eq_some.mp ht
  obtain ⟨-, rfl⟩ := step_eq_some.mp ht'
  obtain ⟨now, call⟩ := e
  refine ⟨rfl, fun d hd => ?_⟩
  have halike := (h.same d hd).later hle
  cases call with
  | registerFailure identifier ip => exact halike.registerFailure
  | check identifier ip => exact halike
  | reset identifier ip => exact halike.reset

theorem Alike.answer {alike : String → Prop} {s s' : State} {e : Int × Backends.Call}
    (h : Alike env alike s s') (hle : s.clock ≤ e.1)
    (hd : ∀ d ∈ dimensions env (identifier e.2) (ipAddress e.2), alike d) :
    answer env settings s e = Resets.answer env settings s' e := by
  obtain ⟨now, call⟩ := e
  have halike : ∀ d ∈ dimensions env (identifier call) (ipAddress call),
      AlikeAt env now d s.protection s'.protection :=
    fun d hmem => (h.same d (hd d hmem)).later hle
  cases call with
  | registerFailure identifier ip => exact congrArg some (registerFailure_congr halike)
  | check identifier ip => exact congrArg some (check_congr halike)
  | reset identifier ip => rfl

/-- Calls whose dimensions are alike are answered alike, whatever comes between. -/
theorem answers_congr {P : String → Prop} {those : Backends.Call → Bool}
    (hthose : ∀ call, those call = true →
      ∀ d ∈ dimensions env (identifier call) (ipAddress call), P d)
    {p q : Protection} (h : ∀ d, P d → AlikeAt env now d p q)
    (es : List (Int × Backends.Call)) :
    answers env settings those p now es = answers env settings those q now es := by
  have hfire : ∀ s s' e e', Alike env P s s' → e = e' →
      (step env settings s e).isSome = (step env settings s' e').isSome := by
    intro s s' e e' hs he
    subst he
    rw [step, step, hs.clock]
    by_cases hle : s'.clock ≤ e.1
    · rw [if_pos hle, if_pos hle, Option.isSome_some, Option.isSome_some]
    · rw [if_neg hle, if_neg hle]
  have hstep : ∀ s s' e e' t t', Alike env P s s' → e = e' →
      step env settings s e = some t → step env settings s' e' = some t' → True → True →
      (if those e.2 then answer env settings s e else none) =
          (if those e'.2 then answer env settings s' e' else none) ∧ Alike env P t t' := by
    intro s s' e e' t t' hs he ht ht' _ _
    subst he
    refine ⟨?_, hs.step ht ht'⟩
    cases hsees : those e.2 with
    | true =>
        rw [if_pos rfl, if_pos rfl]
        exact hs.answer (step_eq_some.mp ht).1 (hthose e.2 hsees)
    | false => rw [if_neg Bool.false_ne_true, if_neg Bool.false_ne_true]
  have hfree : ∀ s, Steps (step env settings) (fun _ _ _ => True) s es :=
    fun s => .of_forall (fun _ _ _ _ => trivial) s es
  exact collect_eq_of_rel hfire hstep ⟨rfl, h⟩ (List.forall₂_same.mpr fun _ _ => rfl) (hfree _)
    (hfree _)

/-! ### What is cleared

The state after a reset differs from the one before in three dimensions, in the one backend or
the other.
-/

/-- What is left of a dimension, in either backend. -/
theorem cleared_at (p : Protection) (dimensions : List String) (d : String) :
    stored env (cleared env settings p dimensions).rows d =
      (if settings.redisEnabled = false ∧ d ∈ dimensions then none else stored env p.rows d) ∧
    (cleared env settings p dimensions).cache.entry (attemptsKey d) =
      (if settings.redisEnabled = true ∧ d ∈ dimensions then none
        else p.cache.entry (attemptsKey d)) ∧
    (cleared env settings p dimensions).cache.entry (lockKey d) =
      if settings.redisEnabled = true ∧ d ∈ dimensions then none
        else p.cache.entry (lockKey d) := by
  cases hredis : settings.redisEnabled with
  | true =>
      have hrows : (cleared env settings p dimensions).rows = p.rows := by
        simp only [cleared, hredis, if_true]
      rw [hrows, (entry_cleared hredis p dimensions d).1, (entry_cleared hredis p dimensions d).2]
      simp
  | false =>
      have hcache : (cleared env settings p dimensions).cache = p.cache := by
        simp only [cleared, hredis, Bool.false_eq_true, if_false]
      rw [hcache, stored_cleared hredis]
      simp

/-- What is cleared of both, or of neither, is alike. -/
theorem alikeAt_cleared {p : Protection} {dimensions dimensions' : List String} {d : String}
    (h : d ∈ dimensions ↔ d ∈ dimensions') :
    AlikeAt env now d (cleared env settings p dimensions)
      (cleared env settings p dimensions') := by
  obtain ⟨hstored, hcounter, hlock⟩ := @cleared_at env settings p dimensions d
  obtain ⟨hstored', hcounter', hlock'⟩ := @cleared_at env settings p dimensions' d
  simp only [h] at hstored hcounter hlock
  refine ⟨?_, hcounter.trans hcounter'.symm, hlock.trans hlock'.symm⟩
  rw [hstored.trans hstored'.symm]
  exact fun _ _ => ⟨rfl, rfl⟩

/-- The rest stays. -/
theorem alikeAt_of_not_cleared {p : Protection} {dimensions : List String} {d : String}
    (h : d ∉ dimensions) : AlikeAt env now d (cleared env settings p dimensions) p := by
  obtain ⟨hstored, hcounter, hlock⟩ := @cleared_at env settings p dimensions d
  rw [if_neg fun hd => h hd.2] at hstored hcounter hlock
  refine ⟨?_, hcounter, hlock⟩
  rw [hstored]
  exact fun _ _ => ⟨rfl, rfl⟩

/-! ### Whose it is

Two identifiers with different digests can share the dimension of an address, and no other: the
combined one has both digests in it, and a separator that neither contains.
-/

/-- The digest of an address. -/
def addressDigest (env : Environment) (ipAddress : Option String) : String :=
  digest env ((ipAddress.filter fun ip => ip ≠ "").getD "unknown")

theorem combo_inj (hhex : ∀ data, ':' ∉ (env.keyring.sha256 data).toList) {a b i j : String}
    (h : "combo:" ++ digest env a ++ ":" ++ digest env i =
      "combo:" ++ digest env b ++ ":" ++ digest env j) : digest env a = digest env b := by
  have hdigest : ∀ s, ':' ∉ (digest env s).toList := fun s => hhex _
  rw [String.append_assoc, String.append_assoc, String.append_assoc, String.append_assoc,
    String.append_right_inj] at h
  have hlist := congrArg String.toList h
  simp only [String.toList_append] at hlist
  have hparts := (List.append_cons_inj_of_notMem (hdigest a) (hdigest i)).mp hlist
  exact String.toList_inj.mp hparts.1

/-- Two identifiers share nothing but an address. -/
theorem mem_both (hhex : ∀ data, ':' ∉ (env.keyring.sha256 data).toList) {a b d : String}
    {i j : Option String} (hother : digest env b ≠ digest env a)
    (hb : d ∈ dimensions env b j) (ha : d ∈ dimensions env a i) :
    d = "ip:" ++ addressDigest env i ∧ addressDigest env j = addressDigest env i := by
  have hcombo : ∀ s t : String, "combo:" ++ s ++ ":" ++ t = "combo:" ++ (s ++ (":" ++ t)) := by
    intro s t
    rw [String.append_assoc, String.append_assoc]
  simp only [dimensions, List.mem_cons, List.not_mem_nil, or_false] at ha hb
  rcases ha with rfl | rfl | rfl
  · rcases hb with hid | hip | hboth
    · exact absurd ((String.append_right_inj _).mp hid).symm hother
    · exact absurd hip (id_ne_ip _ _)
    · exact absurd (hboth.trans (hcombo _ _)) (id_ne_combo _ _)
  · rcases hb with hid | hip | hboth
    · exact absurd hid.symm (id_ne_ip _ _)
    · exact ⟨rfl, ((String.append_right_inj _).mp hip).symm⟩
    · exact absurd (hboth.trans (hcombo _ _)) (ip_ne_combo _ _)
  · rcases hb with hid | hip | hboth
    · exact absurd (hid.symm.trans (hcombo _ _)) (id_ne_combo _ _)
    · exact absurd (hip.symm.trans (hcombo _ _)) (ip_ne_combo _ _)
    · exact absurd (combo_inj hhex hboth).symm hother

/-! ### Logins

The comparison is between three states after the login: as it is, with the address alone
cleared, and with nothing cleared.
-/

theorem protection_of_ok {db : Database} {p : Protection} {request : LoginRequest} {user : UUID}
    (h : (attempt env twoFactor settings now db p request).outcome = .ok user) :
    (attempt env twoFactor settings now db p request).protection =
      cleared env settings p (dimensions env request.identifier request.client.ipAddress) := by
  cases hfree : (check env settings now p request.identifier request.client.ipAddress).locked with
  | true =>
      rw [attempt_locked hfree] at h
      cases h
  | false =>
      cases hauth : EmailOrUsernameBackend.authenticate env db request.identifier
          request.password with
      | none =>
          rw [attempt_refused hfree hauth] at h
          cases h
      | some row =>
          have hcases := @attempt_authenticated env twoFactor settings now db p request row hfree
            hauth
          rcases hcases with ⟨-, hreset⟩ | ⟨⟨exception, herror⟩, -⟩
          · exact hreset
          · rw [herror] at h
            cases h

/-- The call is under another identifier than the login. -/
def underOther (env : Environment) (request : LoginRequest) (call : Backends.Call) : Bool :=
  digest env (identifier call) ≠ digest env request.identifier

/-- It is from another address as well. -/
def fromElsewhere (env : Environment) (request : LoginRequest) (call : Backends.Call) : Bool :=
  underOther env request call ∧
    addressDigest env (ipAddress call) ≠ addressDigest env request.client.ipAddress

/-- **A success clears its own counters, and that of its address.**  It leaves the throttle as
it was with the three counters of its identifier, its address and both cleared.  Whatever is
counted, checked and reset afterwards, calls under other identifiers are answered as if it had
cleared the counter of its address only, and those from other addresses as if it had not
happened. -/
theorem success_clears_own_and_address
    (hhex : ∀ data, ':' ∉ (env.keyring.sha256 data).toList) {db : Database} {p : Protection}
    {request : LoginRequest} {user : UUID}
    (hok : (attempt env twoFactor settings now db p request).outcome = .ok user)
    (es : List (Int × Backends.Call)) :
    (attempt env twoFactor settings now db p request).protection =
      cleared env settings p (dimensions env request.identifier request.client.ipAddress) ∧
    answers env settings (underOther env request)
        (attempt env twoFactor settings now db p request).protection now es =
      answers env settings (underOther env request)
        (cleared env settings p ["ip:" ++ addressDigest env request.client.ipAddress]) now es ∧
    answers env settings (fromElsewhere env request)
        (attempt env twoFactor settings now db p request).protection now es =
      answers env settings (fromElsewhere env request) p now es := by
  rw [protection_of_ok hok]
  refine ⟨rfl, ?_, ?_⟩
  · refine answers_congr (P := fun d =>
      d ∈ dimensions env request.identifier request.client.ipAddress →
        d = "ip:" ++ addressDigest env request.client.ipAddress) ?_ ?_ es
    · intro call hcall d hd hown
      exact (mem_both hhex (of_decide_eq_true hcall) hd hown).1
    · intro d hd
      refine alikeAt_cleared ⟨fun hown => List.mem_singleton.mpr (hd hown), fun hip => ?_⟩
      rw [List.mem_singleton.mp hip]
      exact List.mem_cons_of_mem _ List.mem_cons_self
  · refine answers_congr (P := fun d =>
      d ∉ dimensions env request.identifier request.client.ipAddress) ?_ ?_ es
    · intro call hcall d hd hown
      obtain ⟨hother, haddress⟩ := of_decide_eq_true hcall
      exact haddress (mem_both hhex (of_decide_eq_true hother) hd hown).2
    · intro d hd
      exact alikeAt_of_not_cleared hd

/-! ### One login -/

/-- The hexadecimal digits of a byte. -/
def hexPair (byte : UInt8) : List Char := [(byte.toNat / 16).digitChar, (byte.toNat % 16).digitChar]

theorem hexPair_injective : Function.Injective hexPair := by
  have hdigit : ∀ m < 16, ∀ n < 16, m.digitChar = n.digitChar → m = n := by decide
  intro a b h
  rw [hexPair, hexPair, List.cons.injEq, List.cons.injEq] at h
  have ha := a.toNat_lt
  have hb := b.toNat_lt
  have hhigh := hdigit _ (by omega) _ (by omega) h.1
  have hlow := hdigit _ (Nat.mod_lt _ (by decide)) _ (Nat.mod_lt _ (by decide)) h.2.1
  exact UInt8.toNat_inj.mp (by omega)

theorem flatMap_hexPair_injective : Function.Injective fun data : List UInt8 =>
    data.flatMap hexPair := by
  intro data data' h
  induction data generalizing data' with
  | nil =>
      cases data' with
      | nil => rfl
      | cons b data' => cases h
  | cons a data ih =>
      cases data' with
      | nil => cases h
      | cons b data' =>
          have happend : hexPair a ++ data.flatMap hexPair = hexPair b ++ data'.flatMap hexPair := h
          obtain ⟨hpair, hrest⟩ := List.append_inj happend rfl
          rw [hexPair_injective hpair, ih hrest]

/-- The plain environment with hexadecimal digests. -/
def hex : Environment :=
  { Environment.plain with
    keyring := { Keyring.plain with
      sha256 := fun data => String.ofList (data.flatMap hexPair)
      sha256_injective := fun _ _ h => flatMap_hexPair_injective (String.ofList_injective h) } }

theorem sha256_hex (data : List UInt8) : ':' ∉ (hex.keyring.sha256 data).toList := by
  have hdigit : ∀ n < 16, ':' ≠ n.digitChar := by decide
  show ':' ∉ (String.ofList (data.flatMap hexPair)).toList
  rw [String.toList_ofList, List.mem_flatMap]
  rintro ⟨byte, -, hmem⟩
  have hbyte := byte.toNat_lt
  rcases List.mem_cons.mp hmem with hhigh | hlow
  · exact hdigit _ (by omega) hhigh
  · exact hdigit _ (Nat.mod_lt _ (by decide)) (List.mem_singleton.mp hlow)

/-- A login of ada. -/
def adaLogin : LoginRequest where
  identifier := "ada"
  password := "secret"
  client := { ipAddress := some "10.0.0.1" }

/-- One failure of bob from the same address before it. -/
def bobFailed (env : Environment) : Protection :=
  (registerFailure env { loginMaxAttempts := 2 } 0 {} "bob" (some "10.0.0.1")).2

theorem success_clears_own_and_address_ada :
    answers hex { loginMaxAttempts := 2 } (fromElsewhere hex adaLogin)
        (attempt hex .plain { loginMaxAttempts := 2 } 0 { users := {ada} } (bobFailed hex)
          adaLogin).protection 0
        [(1, .registerFailure "bob" (some "10.0.0.2")), (2, .check "bob" (some "10.0.0.2"))] =
      answers hex { loginMaxAttempts := 2 } (fromElsewhere hex adaLogin) (bobFailed hex) 0
        [(1, .registerFailure "bob" (some "10.0.0.2")), (2, .check "bob" (some "10.0.0.2"))] :=
  (success_clears_own_and_address sha256_hex
    (show (attempt hex .plain { loginMaxAttempts := 2 } 0 { users := {ada} } (bobFailed hex)
      adaLogin).outcome = .ok ada.pk from rfl) _).2.2

/-- After the login of ada, a failure of carol from its address is the first there again. -/
theorem success_forgets_others_at_address :
    digest .plain "carol" ≠ digest .plain "ada" ∧
      (attempt .plain .plain { loginMaxAttempts := 2 } 0 { users := {ada} } (bobFailed .plain)
        adaLogin).outcome = .ok ada.pk ∧
      (registerFailure .plain { loginMaxAttempts := 2 } 1 (attempt .plain .plain
        { loginMaxAttempts := 2 } 0 { users := {ada} } (bobFailed .plain) adaLogin).protection
          "carol" (some "10.0.0.1")).1.locked = false ∧
      (registerFailure .plain { loginMaxAttempts := 2 } 1 (bobFailed .plain)
        "carol" (some "10.0.0.1")).1.locked = true := by
  refine ⟨by decide, rfl, by decide, by decide⟩

end Resets

end DjangoFoundation
