/-
What the request hash of an idempotency record binds.

The hash is taken of method, path and body put together without a mark between them, so it
binds their bytes and not where one part ends.  Two requests under one key are told apart
exactly where their bytes differ; with the same bytes they are the same request where the
methods and the paths are of the same length.
-/
import Mathlib.Data.List.Pairwise
import DjangoFoundation.Common.Text
import DjangoFoundation.Proofs.Idempotency

namespace DjangoFoundation.Idempotency

open Run

variable {J W : Type} {keyring : Keyring} {ttl : Int} {s s' : State J W}

/-- The same method, path and body. -/
structure Request.SameParts (a b : Request) : Prop where
  method : a.method = b.method
  path : a.path = b.path
  body : a.body = b.body

instance (a b : Request) : Decidable (a.SameParts b) :=
  decidable_of_iff (a.method = b.method ∧ a.path = b.path ∧ a.body = b.body)
    ⟨fun ⟨hm, hp, hb⟩ => ⟨hm, hp, hb⟩, fun h => ⟨h.method, h.path, h.body⟩⟩

/-- The same lengths of method and path. -/
def Request.SameLengths (a b : Request) : Prop :=
  a.method.length = b.method.length ∧ a.path.length = b.path.length

theorem Request.sameParts_iff {a b : Request} :
    a.SameParts b ↔ a.content = b.content ∧ a.SameLengths b := by
  constructor
  · intro ⟨hm, hp, hb⟩
    refine ⟨?_, congrArg List.length hm, congrArg List.length hp⟩
    rw [content, content, hm, hp, hb]
  · intro ⟨hcontent, hm, hp⟩
    have hfront : (a.method ++ a.path).length = (b.method ++ b.path).length := by
      rw [List.length_append, List.length_append, hm, hp]
    obtain ⟨hfront, hbody⟩ := List.append_inj hcontent hfront
    obtain ⟨hmethod, hpath⟩ := List.append_inj hfront hm
    exact ⟨hmethod, hpath, hbody⟩

/-! ### What a call is told

An insert that meets a committed run is refused whatever the request was, so the hash is
compared in the lookup only.  What is asked of a call is asked of either.
-/

/-- How a call has ended, if it has. -/
def State.outcome? (s : State J W) (call : UUID) : Option (Outcome J) :=
  (s.finished.get? call).map Finished.outcome

/-- A call under the key of a committed run: only the same request is told its response, and
any other gets a conflict. -/
def Told (c : Commit J W) (request : Request) (outcome : Option (Outcome J)) : Prop :=
  (∀ response, outcome = some (.replayed response) →
    response = c.response ∧ c.request.SameParts request) ∧
  (¬c.request.SameParts request → ∃ exception, outcome = some (.refused exception) ∧
    exception.code = "CONFLICT" ∧ exception.statusCode = 409)

/-- A lookup or an insert that meets a committed run ends its call as it should. -/
def Binds (s : State J W) (e : Event J W) (s' : State J W) : Prop :=
  match e with
  | .lookup pk | .insert pk _ _ => ∀ call, s.calls.get? pk = some call → ∀ c ∈ s.commits,
      c.request.SameKey call.request → Told c call.request (s'.outcome? pk)
  | _ => True

/-- A lookup that meets a committed run is for other bytes, or for parts of the same lengths. -/
def Unshifted (s : State J W) (e : Event J W) (_ : State J W) : Prop :=
  match e with
  | .lookup pk => ∀ call, s.calls.get? pk = some call → ∀ c ∈ s.commits,
      c.request.SameKey call.request → c.request.content = call.request.content →
        c.request.SameLengths call.request
  | _ => True

theorem outcome?_of_finish {call : Call J W} {outcome : Outcome J}
    (h : s.finish call outcome = some s') : s'.outcome? call.pk = some outcome := by
  obtain ⟨finished, hins, rfl⟩ := finish_eq_some h
  show (finished.get? call.pk).map Finished.outcome = some outcome
  rw [show finished.get? call.pk = some ⟨call.pk, call.request, outcome⟩ from
    Table.get?_insert?_self hins]
  rfl

/-- Under the key of a committed run its record is found. -/
theorem Exclusive.record?_eq (h : Exclusive keyring s) {c : Commit J W} (hc : c ∈ s.commits)
    {request : Request} {user : UUID} (hsame : c.request.SameKey request)
    (huser : request.user = some user) :
    record? s.records user (request.keyHash keyring) = some c.record := by
  obtain ⟨hmem, hfaith⟩ := h.faithful c hc
  have hfor := hfaith.isFor.congr hsame
  have howner : c.record.user = user := Option.some.inj (hfor.user.symm.trans huser)
  cases hfound : record? s.records user (request.keyHash keyring) with
  | none => exact absurd ⟨howner, hfor.keyHash⟩ (record?_eq_none hfound hmem)
  | some record =>
      obtain ⟨hrec, hu, hk⟩ := record?_eq_some hfound
      obtain ⟨c', hc', rfl⟩ := h.recorded record hrec
      have hsame' : c'.request.SameKey c.request :=
        (h.faithful c' hc').2.isFor.sameKey hfaith.isFor (hu.trans howner.symm)
          (hk.trans hfor.keyHash.symm)
      have heq : c' = c := by
        by_contra hne
        have hsymm : Std.Symm fun a b : Commit J W => ¬a.request.SameKey b.request :=
          ⟨fun _ _ hab hba => hab ⟨hba.user.symm, hba.key.symm⟩⟩
        exact h.once.forall hc' hc hne hsame'
      rw [heq]

/-- What the lookup answers from the record of a committed run. -/
theorem answer_eq {c : Commit J W} (hfaith : c.Faithful keyring) (request : Request) :
    answer keyring request c.record =
      if c.request.content = request.content then .replayed c.response
      else .refused differentRequest := by
  have hhash : c.record.requestHash = request.requestHash keyring ↔
      c.request.content = request.content := by
    rw [hfaith.requestHash, Request.requestHash, Request.requestHash]
    exact keyring.sha256_injective.eq_iff
  unfold answer
  by_cases hcontent : c.request.content = request.content
  · rw [if_neg (not_not_intro (hhash.mpr hcontent)), if_pos hcontent, hfaith.responseStatus,
      hfaith.responseBody]
  · rw [if_pos (mt hhash.mp hcontent), if_neg hcontent]

/-! ### Steps

The bytes that are hashed are the three parts one after the other.  If they agree, so do the
requests as soon as two of the lengths do; if the lengths differ, the requests are different
and have one hash all the same.
-/

theorem told_conflict {c : Commit J W} {request : Request} {exception : APIException}
    (hcode : exception.code = "CONFLICT") (hstatus : exception.statusCode = 409) :
    Told c request (some (.refused exception)) := by
  refine ⟨fun response heq => ?_, fun _ => ⟨exception, rfl, hcode, hstatus⟩⟩
  cases heq

/-- A lookup that meets a committed run goes by the bytes. -/
theorem told_answer_iff {c : Commit J W} (hfaith : c.Faithful keyring) (request : Request) :
    Told c request (some (answer keyring request c.record)) ↔
      (c.request.content = request.content → c.request.SameLengths request) := by
  rw [answer_eq hfaith]
  by_cases hcontent : c.request.content = request.content
  · rw [if_pos hcontent]
    constructor
    · intro htold _
      exact (Request.sameParts_iff.mp (htold.1 c.response rfl).2).2
    · intro hlengths
      have hparts := Request.sameParts_iff.mpr ⟨hcontent, hlengths hcontent⟩
      refine ⟨fun response heq => ?_, fun hno => absurd hparts hno⟩
      cases heq
      exact ⟨rfl, hparts⟩
  · rw [if_neg hcontent]
    constructor
    · intro _ hyes
      exact absurd hyes hcontent
    · intro _
      exact told_conflict rfl rfl

theorem binds_step_iff (h : Exclusive keyring s) {e : Event J W}
    (hstep : step keyring ttl s e = some s') : Binds s e s' ↔ Unshifted s e s' := by
  cases e with
  | lookup pk =>
      simp only [step, Option.bind_eq_bind, Option.bind_eq_some_iff] at hstep
      obtain ⟨call, hget, user, huser, hstep⟩ := hstep
      have hpk : call.pk = pk := Table.pk_of_get? hget
      simp only [Binds, Unshifted, hget, Option.some.injEq, forall_eq']
      refine forall_congr' fun c => forall_congr' fun hc => forall_congr' fun hsame => ?_
      split at hstep
      · simp only [lookupCall, h.record?_eq hc hsame huser] at hstep
        rw [← hpk, outcome?_of_finish hstep]
        exact told_answer_iff (h.faithful c hc).2 call.request
      · cases hstep
  | insert pk record now =>
      simp only [step, Option.bind_eq_bind, Option.bind_eq_some_iff] at hstep
      obtain ⟨call, hget, user, huser, hstep⟩ := hstep
      have hpk : call.pk = pk := Table.pk_of_get? hget
      simp only [Binds, Unshifted, hget, Option.some.injEq, forall_eq', iff_true]
      intro c hc hsame
      split at hstep
      · simp only [insertCall, h.record?_eq hc hsame huser, Option.isSome_some, if_true] at hstep
        split at hstep
        · cases hstep
        · rw [← hpk, outcome?_of_finish hstep]
          exact told_conflict rfl rfl
      · cases hstep
  | arrive call request => exact Iff.rfl
  | method call result => exact Iff.rfl
  | save call => exact Iff.rfl
  | lose call => exact Iff.rfl

/-- **A key is bound to method, path and body** in exactly the runs in which no request meets,
under its key, a committed one of the same bytes with a method or a path of another length. -/
theorem fingerprint_binds_iff (keyring : Keyring) (ttl : Int) (es : List (Event J W)) :
    Steps (step keyring ttl) Binds (State.init J W) es ↔
      Steps (step keyring ttl) Unshifted (State.init J W) es := by
  have hiff : ∀ (s : State J W) e s', Exclusive keyring s → step keyring ttl s e = some s' →
      (Binds s e s' ↔ Unshifted s e s') := fun _ _ _ h hstep => binds_step_iff h hstep
  have hkeep : ∀ (s : State J W) e s', Exclusive keyring s → step keyring ttl s e = some s' →
      Binds s e s' → Exclusive keyring s' := fun _ _ _ h hstep _ => h.next (.of_step hstep)
  exact steps_iff_of_inv hiff hkeep (exclusive_init keyring) es

/-- An API key is created at the path with a format suffix and a slash. -/
def slashed : Request where
  user := some 7
  idempotencyKey := "retry-1"
  method := encode "POST"
  path := encode "/api/v1/api-keys.json/"
  body := encode "\x7b\"name\": \"ci\", \"scopes\": []\x7d"

/-- The slash moves from the path to the body. -/
def unslashed : Request where
  user := some 7
  idempotencyKey := "retry-1"
  method := encode "POST"
  path := encode "/api/v1/api-keys.json"
  body := encode "/\x7b\"name\": \"ci\", \"scopes\": []\x7d"

/-- One after the other, up to the lookup of the second. -/
def shifted : List (Event Nat String) :=
  [.arrive 1 slashed, .lookup 1, .insert 1 11 0, .method 1 (.returned ⟨201, some 5⟩ ["api key"]),
    .save 1, .arrive 2 unslashed]

/-- A slash between path and body makes no difference to the fingerprint. -/
theorem shifted_request_replayed :
    ¬Steps (step .plain 0) Binds (State.init Nat String) (shifted ++ [.lookup 2]) ∧
      (exec (step .plain 0) (State.init Nat String) (shifted ++ [.lookup 2])).map
        (fun s => s.outcome? 2) = some (some (.replayed ⟨201, some 5⟩)) := by
  have hreplayed : (exec (step .plain 0) (State.init Nat String) (shifted ++ [.lookup 2])).map
      (fun s => s.outcome? 2) = some (some (.replayed ⟨201, some 5⟩)) := by decide +kernel
  refine ⟨fun h => ?_, hreplayed⟩
  have hbefore : (exec (step .plain 0) (State.init Nat String) shifted).map
      (fun s => ((s.calls.get? 2).map Call.request, s.commits.map Commit.request)) =
        some (some unslashed, [slashed]) := by decide +kernel
  obtain ⟨t, t', ht, ht', hbinds⟩ := h.last hbefore hreplayed
  rw [Prod.mk.injEq, Option.map_eq_some_iff] at ht
  obtain ⟨⟨call, hcall, hrequest⟩, hcommits⟩ := ht
  obtain ⟨c, hc, hslashed⟩ : ∃ c ∈ t.commits, c.request = slashed :=
    List.mem_map.mp (hcommits ▸ List.mem_singleton_self slashed)
  have htold := hbinds call hcall c hc (by rw [hslashed, hrequest]; exact ⟨rfl, rfl⟩)
  have hparts := (htold.1 _ ht').2
  rw [hslashed, hrequest] at hparts
  exact absurd hparts (by decide +kernel)

end DjangoFoundation.Idempotency
