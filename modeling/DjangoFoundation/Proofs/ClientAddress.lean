/-
Whom the address of a request stands for.

`get_client_ip` returns the one text that is written for an address, so two requests get the same
exactly if they come from the same one.  The login protection takes a digest of that text with its
case folded; hexadecimal is in lower case already, so the digest too is the address's own, except
for what a scope id may be.  From there it is a fact about runs: what one client does under one
identifier is nothing to another under another.

A scope id is kept as it was written, and may have capital letters, which are folded.  Two such
addresses can therefore share a digest, and `unscoped` leaves them out.
-/
import DjangoFoundation.Common.Network
import DjangoFoundation.Lib.IpText
import DjangoFoundation.Proofs.Logins.Reset

namespace DjangoFoundation

open Run LoginProtectionService

/-! ### The address

`ipaddress` reads more spellings than it writes.  Written addresses are read back as
themselves, and that makes the text of a client a name for it.
-/

section Address

variable {python : Python} {settings : NetworkSettings} {request request' : Meta}
  {address : Ip.Address}

theorem toList_addressText (a : Ip.Address) :
    (addressText python a).toList = a.text python.mixedIpv6 := String.toList_ofList

theorem addressText_injective : Function.Injective (addressText python) := fun _ _ h =>
  Ip.text_injective python.mixedIpv6 (String.ofList_injective h)

theorem getClientIp_eq : getClientIp python settings request =
    (request.client python settings).map (addressText python) := by
  unfold getClientIp Meta.client
  cases request.candidate python settings with
  | none => rfl
  | some candidate =>
      show (if candidate = "" then none else _) = (Ip.ipAddress candidate.toList).map _
      by_cases hempty : candidate = ""
      · rw [if_pos hempty, hempty, String.toList_empty, Ip.ipAddress_nil, Option.map_none]
      · rw [if_neg hempty]

theorem trusted_forwardedFor (forwarded : Option String) :
    Meta.trusted settings { request with forwardedFor := forwarded } = request.trusted settings :=
  rfl

/-- **The address of a request.**  Its text is read as the address it comes from, and as that of a
peer is returned unchanged; it is the same for two requests if and only if their addresses are; and
what a peer that is no trusted proxy says of itself has no part in it. -/
theorem client_address (python : Python) (settings : NetworkSettings) (request : Meta) :
    (∀ text, getClientIp python settings request = some text →
      (∃ address, request.client python settings = some address ∧
        Ip.ipAddress text.toList = some address) ∧
      getClientIp python {} { remoteAddr := some text } = some text) ∧
    (∀ request', getClientIp python settings request = getClientIp python settings request' ↔
      request.client python settings = request'.client python settings) ∧
    (request.trusted settings = false → ∀ forwarded,
      getClientIp python settings { request with forwardedFor := forwarded } =
        getClientIp python settings request) := by
  refine ⟨fun text htext => ?_, fun request' => ?_, fun htrusted forwarded => ?_⟩
  · rw [getClientIp_eq, Option.map_eq_some_iff] at htext
    obtain ⟨address, hclient, rfl⟩ := htext
    have hread : Ip.ipAddress (addressText python address).toList = some address := by
      rw [toList_addressText, Ip.ipAddress_text]
    refine ⟨⟨address, hclient, hread⟩, ?_⟩
    rw [getClientIp_eq]
    show (Ip.ipAddress (addressText python address).toList).map _ = _
    rw [hread, Option.map_some]
  · rw [getClientIp_eq, getClientIp_eq]
    exact (Option.map_injective addressText_injective).eq_iff
  · have hcandidate : Meta.candidate python settings { request with forwardedFor := forwarded } =
        request.candidate python settings := by
      rw [Meta.candidate, Meta.candidate, trusted_forwardedFor, htrusted]
      rfl
    rw [getClientIp, getClientIp, hcandidate]

end Address

/-! ### Its digest

`_digest` strips and casefolds before it hashes.  Neither changes the text of an address,
except that casefolding may reach into a scope id, which is any text.
-/

/-- What `_digest` hashes. -/
def folded (unicode : Unicode) (value : List Char) : List Char :=
  unicode.casefold (unicode.strip value)

section Folded

variable {unicode : Unicode} {mixed : Bool} {a b : Ip.Address}

theorem plain_of_isText {c : Char} (h : Ip.IsText c) : Unicode.Plain c := by
  have hdigit : ∀ digit < 16, Unicode.Plain digit.digitChar := by decide
  rcases h with rfl | rfl | ⟨digit, hlt, rfl⟩
  · decide
  · decide
  · exact hdigit digit hlt

theorem folded_text (h : a.unscoped = true) : folded unicode (a.text mixed) = a.text mixed := by
  have hplain : ∀ c ∈ a.text mixed, Unicode.Plain c := fun c hc =>
    plain_of_isText (Ip.isText_of_unscoped h c hc)
  rw [folded, Unicode.strip_plain hplain, Unicode.casefold_plain hplain]

theorem mem_dropWhile_of_not {p : Char → Bool} {s : List Char} {c : Char} (hc : c ∈ s)
    (hp : p c = false) : c ∈ s.dropWhile p := by
  rw [← List.takeWhile_append_dropWhile (p := p) (l := s), List.mem_append] at hc
  rcases hc with htake | hdrop
  · rw [List.mem_takeWhile_imp htake] at hp
    cases hp
  · exact hdrop

/-- A sign of ASCII that is neither a space nor a letter stays. -/
theorem mem_folded {s : List Char} {c : Char} (hc : c ∈ s) (hplain : Unicode.Plain c) :
    c ∈ folded unicode s := by
  have hspace : unicode.charIsSpace c = false := Unicode.not_isSpace_of_plain hplain
  have hstrip : c ∈ unicode.strip s := by
    rw [Unicode.strip, List.mem_reverse]
    refine mem_dropWhile_of_not (List.mem_reverse.mpr ?_) hspace
    exact mem_dropWhile_of_not hc hspace
  refine List.mem_flatMap.mpr ⟨c, hstrip, ?_⟩
  rw [Unicode.charCasefold, if_pos hplain.1, hplain.2.1]
  exact List.mem_singleton_self c

theorem percent_mem_folded (h : b.unscoped = false) : '%' ∈ folded unicode (b.text mixed) := by
  cases b with
  | v4 v => cases h
  | v6 v =>
      have hscope : v.scopeId ≠ [] := of_decide_eq_false h
      refine mem_folded ?_ (by decide)
      rw [Ip.Address.text, if_neg hscope]
      exact List.mem_append_right _ List.mem_cons_self

/-- An address without a scope id shares its folded text with no other. -/
theorem folded_inj (ha : a.unscoped = true)
    (h : folded unicode (a.text mixed) = folded unicode (b.text mixed)) : a = b := by
  cases hb : b.unscoped with
  | true =>
      rw [folded_text ha, folded_text hb] at h
      exact Ip.text_injective mixed h
  | false =>
      have hpercent : '%' ∈ folded unicode (b.text mixed) := percent_mem_folded hb
      rw [← h, folded_text ha] at hpercent
      exact absurd (Ip.isText_of_unscoped ha _ hpercent) Ip.not_isText_percent

theorem folded_ne_unknown (ha : a.unscoped = true) :
    folded unicode (a.text mixed) ≠ folded unicode "unknown".toList := by
  have hk : ¬Ip.IsText 'k' := by
    rintro (h | h | ⟨digit, hlt, h⟩)
    · exact absurd h (by decide)
    · exact absurd h (by decide)
    · have hne : ∀ digit < 16, 'k' ≠ digit.digitChar := by decide
      exact hne digit hlt h
  intro h
  have hmem : 'k' ∈ folded unicode "unknown".toList := mem_folded (by decide) (by decide)
  rw [← h, folded_text ha] at hmem
  exact hk (Ip.isText_of_unscoped ha _ hmem)

end Folded

/-! ### Its dimensions

From here the digest takes the place of the address.  A client without a scope id shares the
digest with nobody, and not with requests whose address could not be read.
-/

section Dimensions

variable {env : Environment} {python : Python} {network : NetworkSettings} {request request' : Meta}
  {address : Ip.Address}

theorem digest_inj {value value' : String} (h : digest env value = digest env value') :
    folded env.unicode value.toList = folded env.unicode value'.toList :=
  String.ofList_injective (encode_injective (env.keyring.sha256_injective h))

theorem addressDigest_none : Resets.addressDigest env none = digest env "unknown" := rfl

theorem addressDigest_text (a : Ip.Address) :
    Resets.addressDigest env (some (addressText python a)) = digest env (addressText python a) := by
  have hne : addressText python a ≠ "" := by
    intro hempty
    refine Ip.text_ne_nil python.mixedIpv6 a ?_
    rw [← toList_addressText, hempty, String.toList_empty]
  rw [Resets.addressDigest, Option.filter_some_pos (by simpa using hne), Option.getD_some]

/-- The digest of an address without a scope id is that of no other, and not that of a missing
one. -/
theorem addressDigest_eq_iff (hclient : request.client python network = some address)
    (hscope : address.unscoped = true) :
    Resets.addressDigest env (getClientIp python network request') =
        Resets.addressDigest env (getClientIp python network request) ↔
      request'.client python network = some address := by
  rw [getClientIp_eq, getClientIp_eq, hclient, Option.map_some, addressDigest_text]
  constructor
  · intro h
    cases hother : request'.client python network with
    | none =>
        rw [hother, Option.map_none, addressDigest_none] at h
        have hfolded := digest_inj h
        rw [toList_addressText] at hfolded
        exact absurd hfolded.symm (folded_ne_unknown hscope)
    | some other =>
        rw [hother, Option.map_some, addressDigest_text] at h
        have hfolded := digest_inj h
        rw [toList_addressText, toList_addressText] at hfolded
        rw [folded_inj hscope hfolded.symm]
  · intro h
    rw [h, Option.map_some, addressDigest_text]

end Dimensions

/-! ### Runs

A call writes the three dimensions it was made for.  Another client's call under another
identifier has none of the three in common, whichever backend each of them runs in; so it can
be left out of the run without a difference to what this client is answered.
-/

namespace Throttling

/-- A call of the login protection, made for a request, with the backend as it is set then. -/
structure Call where
  redisEnabled : Bool
  method : (ipAddress : Option String) → Backends.Call
  identifier : String
  request : Meta
  method_identifier : ∀ ip, Resets.identifier (method ip) = identifier
  method_ipAddress : ∀ ip, Resets.ipAddress (method ip) = ip

namespace Call

def registerFailure (redisEnabled : Bool) (identifier : String) (request : Meta) : Call :=
  ⟨redisEnabled, .registerFailure identifier, identifier, request, fun _ => rfl, fun _ => rfl⟩

def check (redisEnabled : Bool) (identifier : String) (request : Meta) : Call :=
  ⟨redisEnabled, .check identifier, identifier, request, fun _ => rfl, fun _ => rfl⟩

def reset (redisEnabled : Bool) (identifier : String) (request : Meta) : Call :=
  ⟨redisEnabled, .reset identifier, identifier, request, fun _ => rfl, fun _ => rfl⟩

/-- The settings it runs under. -/
def settings (call : Call) (settings : LoginSettings) : LoginSettings :=
  Backends.withRedis settings call.redisEnabled

end Call

section Step

variable (env : Environment) (settings : LoginSettings) (python : Python)
  (network : NetworkSettings)

def Call.backend (call : Call) : Backends.Call := call.method (getClientIp python network call.request)

def step (s : Resets.State) (e : Int × Call) : Option Resets.State :=
  Resets.step env (e.2.settings settings) s (e.1, e.2.backend python network)

/-- The call is another client's, under another identifier. -/
def apart (identifier : String) (address : Ip.Address) (e : Int × Call) : Bool :=
  digest env e.2.identifier ≠ digest env identifier &&
    e.2.request.client python network ≠ some address

/-- What the client is answered to its calls under the identifier. -/
def answered (identifier : String) (address : Ip.Address) (s : Resets.State) (e : Int × Call) :
    Option LockoutState :=
  if digest env e.2.identifier = digest env identifier ∧
      e.2.request.client python network = some address then
    Resets.answer env (e.2.settings settings) s (e.1, e.2.backend python network)
  else none

end Step

section Apart

variable {env : Environment} {settings : LoginSettings} {python : Python}
  {network : NetworkSettings} {identifier : String} {address : Ip.Address}
  {s t s' : Resets.State} {e : Int × Call} {clock now : Int} {p p' : Protection} {d : String}

/-- A call leaves other dimensions as they are. -/
theorem alikeAt_right {call : Backends.Call} (h : AlikeAt env clock d p p')
    (hd : d ∉ dimensions env (Resets.identifier call) (Resets.ipAddress call)) :
    AlikeAt env clock d p (call.run env settings now p') := by
  cases call with
  | registerFailure identifier ip =>
      have hd : d ∉ dimensions env identifier ip := hd
      cases hredis : settings.redisEnabled with
      | true =>
          obtain ⟨hcounter, hlock⟩ :=
            @entry_failures settings now _ (@nodup_dimensions env identifier ip) {} p'.cache d
          rw [if_neg hd] at hcounter hlock
          simp only [Backends.Call.run, registerFailure, hredis, if_true]
          exact ⟨h.rows, h.attempts.trans hcounter.symm, h.lock.trans hlock.symm⟩
      | false =>
          have hstored := @stored_registerFailure env settings now hredis p' identifier ip d
          rw [if_neg hd] at hstored
          refine ⟨?_, ?_, ?_⟩
          · rw [Backends.Call.run, hstored]
            exact h.rows
          · simp only [Backends.Call.run, registerFailure, hredis, Bool.false_eq_true, if_false]
            exact h.attempts
          · simp only [Backends.Call.run, registerFailure, hredis, Bool.false_eq_true, if_false]
            exact h.lock
  | check identifier ip => exact h
  | reset identifier ip =>
      have hcleared := @Resets.alikeAt_of_not_cleared env settings clock p' _ d hd
      refine ⟨fun t ht => ?_, h.attempts.trans hcleared.attempts.symm,
        h.lock.trans hcleared.lock.symm⟩
      obtain ⟨hcounted, hlock⟩ := h.rows t ht
      obtain ⟨hcounted', hlock'⟩ := hcleared.rows t ht
      exact ⟨hcounted.trans hcounted'.symm, hlock.trans hlock'.symm⟩

/-- A call keeps alike what it meets alike. -/
theorem alikeAt_both {call : Backends.Call} (h : AlikeAt env now d p p') :
    AlikeAt env now d (call.run env settings now p) (call.run env settings now p') := by
  cases call with
  | registerFailure identifier ip => exact h.registerFailure
  | check identifier ip => exact h
  | reset identifier ip => exact h.reset

/-- Calls in the order of their times. -/
def Timed : Int → List (Int × Call) → Prop
  | _, [] => True
  | clock, e :: es => clock ≤ e.1 ∧ Timed e.1 es

theorem Timed.earlier {es : List (Int × Call)} (h : Timed clock es) (hle : now ≤ clock) :
    Timed now es := by
  cases es with
  | nil => trivial
  | cons e es =>
      obtain ⟨hfirst, hrest⟩ := h
      exact ⟨by omega, hrest⟩

theorem Timed.filter {es : List (Int × Call)} (h : Timed clock es) (q : Int × Call → Bool) :
    Timed clock (es.filter q) := by
  induction es generalizing clock with
  | nil => trivial
  | cons e es ih =>
      obtain ⟨hfirst, hrest⟩ := h
      by_cases hq : q e = true
      · rw [List.filter_cons_of_pos hq]
        exact ⟨hfirst, ih hrest⟩
      · rw [List.filter_cons_of_neg hq]
        exact (ih hrest).earlier hfirst

theorem step_eq_some : step env settings python network s e = some t ↔
    s.clock ≤ e.1 ∧
      t = ⟨e.1, (e.2.backend python network).run env (e.2.settings settings) e.1
        s.protection⟩ :=
  Resets.step_eq_some

/-- Calls in order all go through. -/
theorem exec_of_timed {es : List (Int × Call)} (h : Timed s.clock es) :
    ∃ t, exec (step env settings python network) s es = some t := by
  induction es generalizing s with
  | nil => exact ⟨s, rfl⟩
  | cons e es ih =>
      obtain ⟨hfirst, hrest⟩ := h
      rw [exec_cons, step_eq_some.mpr ⟨hfirst, rfl⟩, Option.bind_some]
      exact ih hrest

/-- A peer at an address. -/
def peer (python : Python) (address : Ip.Address) : Meta :=
  { remoteAddr := some (addressText python address) }

theorem client_peer (python : Python) (address : Ip.Address) :
    (peer python address).client python network = some address := by
  have hcandidate : (peer python address).candidate python network =
      some (addressText python address) := by
    unfold Meta.candidate
    split <;> rfl
  rw [Meta.client, hcandidate, Option.bind_some, toList_addressText, Ip.ipAddress_text]

/-- Alike in what the client's calls under the identifier look at, from the later time on. -/
structure Near (env : Environment) (dimensions : List String) (s t : Resets.State) : Prop where
  clock : s.clock ≤ t.clock
  same : ∀ d ∈ dimensions, AlikeAt env t.clock d s.protection t.protection

theorem not_mem_dimensions (hhex : ∀ data, ':' ∉ (env.keyring.sha256 data).toList)
    {request : Meta} (hclient : request.client python network = some address)
    (hscope : address.unscoped = true)
    (he : apart env python network identifier address e = true) :
    ∀ d ∈ dimensions env identifier (getClientIp python network request),
      d ∉ dimensions env (Resets.identifier (e.2.backend python network))
        (Resets.ipAddress (e.2.backend python network)) := by
  intro d hd hd'
  rw [apart, Bool.and_eq_true] at he
  rw [Call.backend, e.2.method_identifier, e.2.method_ipAddress] at hd'
  have hshared := Resets.mem_both hhex (of_decide_eq_true he.1) hd' hd
  exact of_decide_eq_true he.2 ((addressDigest_eq_iff hclient hscope).mp hshared.2)

theorem answered_eq {request : Meta} (hclient : request.client python network = some address)
    (hscope : address.unscoped = true)
    (hnear : Near env (dimensions env identifier (getClientIp python network request)) s t)
    (hle : t.clock ≤ e.1) :
    answered env settings python network identifier address t e =
      answered env settings python network identifier address s e := by
  unfold answered
  split
  · rename_i hown
    have hdimensions : dimensions env (Resets.identifier (e.2.backend python network))
        (Resets.ipAddress (e.2.backend python network)) =
          dimensions env identifier (getClientIp python network request) := by
      have haddress : Resets.addressDigest env _ = Resets.addressDigest env _ :=
        (addressDigest_eq_iff hclient hscope).mpr hown.2
      rw [Call.backend, e.2.method_identifier, e.2.method_ipAddress]
      unfold Resets.addressDigest at haddress
      rw [dimensions, dimensions, hown.1, haddress]
    have halike : Resets.Alike env
        (fun d => d ∈ dimensions env identifier (getClientIp python network request))
        ⟨t.clock, s.protection⟩ t := ⟨rfl, hnear.same⟩
    have hanswer : Resets.answer env (e.2.settings settings) _ (e.1, e.2.backend python network) =
        Resets.answer env (e.2.settings settings) t (e.1, e.2.backend python network) :=
      halike.answer hle fun d hd => hdimensions ▸ hd
    exact hanswer.symm
  · rfl

/-- **Clients are throttled apart.**  Over any calls in order of time, each in the one backend or
the other, what a client is answered under an identifier is what it would have been had no other
client called under another one.  That holds for an address without a scope id, told from all
others by its digest. -/
theorem clients_throttled_apart (hhex : ∀ data, ':' ∉ (env.keyring.sha256 data).toList)
    (hscope : address.unscoped = true) {es : List (Int × Call)} (hes : Timed s.clock es) :
    collect (step env settings python network)
        (answered env settings python network identifier address) s es =
      collect (step env settings python network)
        (answered env settings python network identifier address) s
        (es.filter fun e => !apart env python network identifier address e) := by
  have hclient : (peer python address).client python network = some address :=
    client_peer python address
  obtain ⟨s', hs'⟩ : ∃ s', exec (step env settings python network) s _ = some s' :=
    exec_of_timed (hes.filter fun e => !apart env python network identifier address e)
  refine (exec_of_filter (T := fun t es => Timed t.clock es)
    (R := Near env (dimensions env identifier (getClientIp python network (peer python address))))
    ?_ ?_ ?_ ⟨Int.le_refl _, fun d _ => .refl _⟩ hes hs').2
  · rintro t t' e es ⟨-, hrest⟩ ht
    obtain ⟨-, rfl⟩ := step_eq_some.mp ht
    exact hrest
  · rintro s t e es hnear he ⟨hle, -⟩
    refine ⟨_, step_eq_some.mpr ⟨hle, rfl⟩, ?_, ?_, fun d hd => ?_⟩
    · rw [answered, if_neg]
      rintro ⟨hidentifier, -⟩
      rw [apart, hidentifier, decide_eq_false (fun hne => hne rfl), Bool.false_and] at he
      cases he
    · exact Int.le_trans hnear.clock hle
    · exact alikeAt_right ((hnear.same d hd).later hle)
        (not_mem_dimensions hhex hclient hscope he d hd)
  · rintro s t s₁ e es hnear - ⟨hle, -⟩ hs₁
    obtain ⟨-, rfl⟩ := step_eq_some.mp hs₁
    refine ⟨_, step_eq_some.mpr ⟨hle, rfl⟩, answered_eq hclient hscope hnear hle,
      Int.le_refl _, fun d hd => ?_⟩
    exact alikeAt_both ((hnear.same d hd).later hle)

/-! ### A client and another -/

def cpython : Python := ⟨Resets.hex.unicode, true⟩

/-- Failures of a client, the same address spelled in two ways, between those of another.  Redis is
switched off after the first. -/
def twoClients : List (Int × Call) :=
  [(0, .registerFailure true "bob" { remoteAddr := some "10.0.0.2" }),
    (1, .registerFailure false "ada" { remoteAddr := some "2001:DB8:0::1" }),
    (2, .registerFailure false "bob" { remoteAddr := some "10.0.0.2" }),
    (3, .check false "ada" { remoteAddr := some "2001:db8::1" })]

def adaAddress : Ip.Address := (Ip.ipAddress "2001:db8::1".toList).get (by decide +kernel)

theorem ada_throttled_apart :
    collect (step Resets.hex {} cpython {}) (answered Resets.hex {} cpython {} "ada" adaAddress)
        ⟨0, {}⟩ twoClients =
      collect (step Resets.hex {} cpython {}) (answered Resets.hex {} cpython {} "ada" adaAddress)
        ⟨0, {}⟩ (twoClients.filter fun e => !apart Resets.hex cpython {} "ada" adaAddress e) :=
  clients_throttled_apart Resets.sha256_hex (by decide +kernel)
    ⟨by decide, by decide, by decide, by decide, trivial⟩

end Apart

end Throttling

end DjangoFoundation
