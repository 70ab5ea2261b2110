/-
A stored response never expires.

Wrapped calls are made one after the other, at times that never go back.  The decorator
writes `expires_at` and nothing reads it, so a call that comes when the record under its key
has expired is answered from that record all the same: as if there were none it would run
its method.
-/
import DjangoFoundation.Proofs.Idempotent

namespace DjangoFoundation.Idempotency

open Run

namespace Sequence

/-- A call of a wrapped method, with the `ttl` its decorator was given. -/
structure Call (J D : Type) where
  ttl : Int
  now : Int
  request : Request
  pk : UUID
  method : D → Except Exception (Response J × D)

/-- The records and all other tables, and the time of the last call. -/
structure State (J D : Type) where
  clock : Int
  records : Table (IdempotencyRecord J) := ∅
  db : D

variable {J D : Type}

/-- What a call leaves behind; an exception leaves the tables as they were. -/
def Call.run (keyring : Keyring) (s : State J D) (call : Call J D) : State J D :=
  match idempotent keyring call.ttl call.now call.request call.pk call.method s.records s.db with
  | .ok (_, records, db) => { clock := call.now, records := records, db := db }
  | .error _ => { s with clock := call.now }

/-- A record's key is drawn new. -/
def step (keyring : Keyring) (s : State J D) (call : Call J D) : Option (State J D) :=
  if s.clock ≤ call.now ∧ (s.records.get? call.pk).isNone then some (call.run keyring s) else none

variable {keyring : Keyring} {records : Table (IdempotencyRecord J)} {request : Request}

/-- The record a request meets: the one under its user and key, where it gets as far as the
lookup. -/
def stored? (keyring : Keyring) (records : Table (IdempotencyRecord J)) (request : Request) :
    Option (IdempotencyRecord J) :=
  if request.idempotencyKey = "" ∨ request.idempotencyKey.length > 255 then none
  else request.user.bind fun user => record? records user (request.keyHash keyring)

/-- A call that meets an expired record goes, whatever its method does, as it would without
the record. -/
def AsIfNone (keyring : Keyring) (s : State J D) (call : Call J D) (_ : State J D) :
    Prop :=
  ∀ record, stored? keyring s.records call.request = some record → record.expiresAt ≤ call.now →
    ∀ method, idempotent keyring call.ttl call.now call.request call.pk method s.records s.db =
      idempotent keyring call.ttl call.now call.request call.pk method
        (s.records.erase record.pk) s.db

/-- A call meets no expired record. -/
def NoneExpired (keyring : Keyring) (s : State J D) (call : Call J D) (_ : State J D) :
    Prop :=
  ∀ record, stored? keyring s.records call.request = some record → call.now < record.expiresAt

/-- One record for each user and key. -/
def OneRecord (records : Table (IdempotencyRecord J)) : Prop :=
  ∀ a ∈ records, ∀ b ∈ records, a.user = b.user → a.keyHash = b.keyHash → a = b

/-! ### What a call meets

One record at most is under a user and a key, and the decorator answers from it whatever its
`expires_at` says.  With the record taken out the same call runs its method.
-/

theorem stored?_eq_some {record : IdempotencyRecord J}
    (h : stored? keyring records request = some record) :
    request.idempotencyKey ≠ "" ∧ ¬request.idempotencyKey.length > 255 ∧
      ∃ user, request.user = some user ∧
        record? records user (request.keyHash keyring) = some record := by
  unfold stored? at h
  split at h
  · cases h
  · rename_i hkey
    rw [not_or] at hkey
    exact ⟨hkey.1, hkey.2, Option.bind_eq_some_iff.mp h⟩

/-- From a record the call is answered, and its method is not run. -/
theorem idempotent_of_stored {record : IdempotencyRecord J} (ttl now : Int) (pk : UUID)
    (method method' : D → Except Exception (Response J × D)) (db : D)
    (h : stored? keyring records request = some record) :
    idempotent keyring ttl now request pk method records db =
      idempotent keyring ttl now request pk method' records db := by
  obtain ⟨hkey, hlength, user, huser, hfound⟩ := stored?_eq_some h
  simp only [idempotent, hkey, hlength, huser, hfound, if_false]

/-- Without it the method is run, and its response stored. -/
theorem idempotent_of_none {ttl now : Int} {pk user : UUID}
    {method : D → Except Exception (Response J × D)} {db : D} (hkey : request.idempotencyKey ≠ "")
    (hlength : ¬request.idempotencyKey.length > 255) (huser : request.user = some user)
    (hnone : record? records user (request.keyHash keyring) = none)
    (hfresh : records.get? pk = none) :
    ∃ opened, records.insert? (request.record keyring ttl now user pk) = some opened ∧
      idempotent keyring ttl now request pk method records db = (do
        let (response, db) ← method db
        if response.data.isNone then throw (.runtimeError notSerializable)
        return (.executed response,
          opened.modify pk (IdempotencyRecord.answered response) (answered_pk response), db)) := by
  obtain ⟨opened, hopened⟩ := Table.exists_insert? (t := records)
    (a := request.record keyring ttl now user pk) (Table.get?_eq_none.mp hfresh)
  refine ⟨opened, hopened, ?_⟩
  simp only [idempotent, hkey, hlength, huser, hnone, hopened, if_false]

/-- The record under a user and key is the only one. -/
theorem OneRecord.erase (h : OneRecord records) {user : UUID} {keyHash : String}
    {record : IdempotencyRecord J} (hfound : record? records user keyHash = some record) :
    record? (records.erase record.pk) user keyHash = none := by
  obtain ⟨hmem, huser, hkey⟩ := record?_eq_some hfound
  cases hother : record? (records.erase record.pk) user keyHash with
  | none => rfl
  | some other =>
      obtain ⟨hmem', huser', hkey'⟩ := record?_eq_some hother
      obtain ⟨hin, hne⟩ := Table.mem_erase.mp hmem'
      have heq := h other hin record hmem (huser'.trans huser.symm) (hkey'.trans hkey.symm)
      exact absurd (congrArg IdempotencyRecord.pk heq) hne

/-! ### Runs

A call that meets an expired record always goes differently from how it would without: the one
does not run the method, the other does.  That makes the condition exact.
-/

variable {s s' : State J D} {call : Call J D}

theorem step_eq_some :
    step keyring s call = some s' ↔
      (s.clock ≤ call.now ∧ s.records.get? call.pk = none) ∧ s' = call.run keyring s := by
  unfold step
  rw [Option.ite_none_right_eq_some, Option.isNone_iff_eq_none, Option.some.injEq]
  exact and_congr_right fun _ => eq_comm

theorem OneRecord.next (h : OneRecord s.records) (hstep : step keyring s call = some s') :
    OneRecord s'.records := by
  obtain ⟨_, rfl⟩ := step_eq_some.mp hstep
  unfold Call.run
  cases hresult : idempotent keyring call.ttl call.now call.request call.pk call.method s.records
      s.db with
  | error e => exact h
  | ok result =>
      obtain ⟨outcome, records', db'⟩ := result
      dsimp only
      cases idempotent_ok hresult with
      | unguarded _ _ => exact h
      | replayed _ _ _ _ => exact h
      | @executed response user opened _ _ _ hnone hopened _ _ =>
          -- the new record is the only one under its key
          have hnew : OneRecord opened := by
            intro a ha b hb huser hkey
            rcases (Table.mem_insert? hopened).mp ha with ha | rfl
            · rcases (Table.mem_insert? hopened).mp hb with hb | rfl
              · exact h a ha b hb huser hkey
              · exact absurd ⟨huser, hkey⟩ (record?_eq_none hnone ha)
            · rcases (Table.mem_insert? hopened).mp hb with hb | rfl
              · exact absurd ⟨huser.symm, hkey.symm⟩ (record?_eq_none hnone hb)
              · rfl
          have hold : ∀ a ∈ opened.modify call.pk (IdempotencyRecord.answered response)
              (answered_pk response), ∃ a₀ ∈ opened, a₀.pk = a.pk ∧ a₀.user = a.user ∧
                a₀.keyHash = a.keyHash := by
            intro a ha
            rcases Table.mem_modify.mp ha with ⟨a₀, ha₀, _, rfl⟩ | ⟨ha, _⟩
            · exact ⟨a₀, ha₀, rfl, rfl, rfl⟩
            · exact ⟨a, ha, rfl, rfl, rfl⟩
          intro a ha b hb huser hkey
          obtain ⟨a₀, ha₀, hpka, husera, hkeya⟩ := hold a ha
          obtain ⟨b₀, hb₀, hpkb, huserb, hkeyb⟩ := hold b hb
          have heq := hnew a₀ ha₀ b₀ hb₀ (husera.trans (huser.trans huserb.symm))
            (hkeya.trans (hkey.trans hkeyb.symm))
          exact Table.eq_of_pk_eq ha hb (hpka.symm.trans (heq ▸ hpkb))

/-- From an expired record the call is answered; without it the method would run. -/
theorem asIfNone_step_iff (h : OneRecord s.records) (hstep : step keyring s call = some s') :
    AsIfNone keyring s call s' ↔ NoneExpired keyring s call s' := by
  obtain ⟨⟨_, hfresh⟩, _⟩ := step_eq_some.mp hstep
  constructor
  · intro hnone record hstored
    by_contra hexpired
    obtain ⟨hkey, hlength, user, huser, hfound⟩ := stored?_eq_some hstored
    have hfresh' : (s.records.erase record.pk).get? call.pk = none := by
      rw [Table.get?_erase, hfresh, ite_self]
    -- a method that raises an exception no record is answered with
    have hraises : ∀ message : String, idempotent keyring call.ttl call.now call.request call.pk
        (fun _ => .error (.runtimeError message)) s.records s.db =
          .error (.runtimeError message) := by
      intro message
      obtain ⟨_, _, hrun⟩ := @idempotent_of_none J D keyring (s.records.erase record.pk)
        call.request call.ttl call.now call.pk user (fun _ => .error (.runtimeError message)) s.db
        hkey hlength huser (h.erase hfound) hfresh'
      rw [hnone record hstored (by omega), hrun]
      rfl
    have hsame := idempotent_of_stored call.ttl call.now call.pk
      (fun _ => .error (.runtimeError "a")) (fun _ => .error (.runtimeError "b")) s.db hstored
    rw [hraises, hraises] at hsame
    exact absurd hsame (by simp)
  · intro hnone record hstored hexpired
    have hlt := hnone record hstored
    omega

/-- **A record is as good as none once it has expired** in exactly the runs in which no call
meets an expired record. -/
theorem expired_as_none_iff (keyring : Keyring) (clock : Int) (db : D)
    (calls : List (Call J D)) :
    Steps (step keyring) (AsIfNone keyring) { clock := clock, db := db } calls ↔
      Steps (step keyring) (NoneExpired keyring) { clock := clock, db := db } calls := by
  have hstart : OneRecord (J := J) ∅ := fun a ha => absurd ha (Table.not_mem_empty a)
  have hiff : ∀ (s : State J D) call s', OneRecord s.records → step keyring s call = some s' →
      (AsIfNone keyring s call s' ↔ NoneExpired keyring s call s') :=
    fun _ _ _ h hstep => asIfNone_step_iff h hstep
  have hkeep : ∀ (s : State J D) call s', OneRecord s.records → step keyring s call = some s' →
      AsIfNone keyring s call s' → OneRecord s'.records := fun _ _ _ h hstep _ => h.next hstep
  have hone : OneRecord ({ clock := clock, db := db } : State J D).records := hstart
  exact steps_iff_of_inv hiff hkeep hone calls

/-- A payment of some amount, kept for a day. -/
def payment (pk amount : Nat) (now : Int) : Call Nat Nat where
  ttl := seconds 86400
  now := now
  request := {
    user := some 7
    idempotencyKey := "retry-1"
    method := [80]
    path := [47]
    body := [amount.toUInt8] }
  pk := pk
  method := fun total => .ok (⟨201, some amount⟩, total + amount)

/-- What the second of two calls comes to, from the record of the first and without it. -/
def answers (s : State Nat Nat) (call : Call Nat Nat) : Option (Int × List (Option (Outcome Nat))) :=
  (stored? .plain s.records call.request).map fun record =>
    (record.expiresAt, [s.records, s.records.erase record.pk].map fun records =>
      (idempotent .plain call.ttl call.now call.request call.pk call.method records
        s.db).toOption.map Prod.fst)

/-- Two days later another payment under the key is a conflict; as if there were no record it
would be made. -/
theorem expired_record_conflicts :
    ¬Steps (step .plain) (AsIfNone .plain) { clock := 0, db := 0 }
      [payment 1 10 0, payment 2 20 (seconds 172800)] := by
  intro h
  have hbefore : (exec (step .plain) { clock := 0, db := 0 } [payment 1 10 0]).map
      (fun s => answers s (payment 2 20 (seconds 172800))) =
        some (some (seconds 86400, [none, some (.executed ⟨201, some 20⟩)])) := by
    decide +kernel
  have hafter : (exec (step .plain) { clock := 0, db := 0 }
      ([payment 1 10 0] ++ [payment 2 20 (seconds 172800)])).map (fun _ => ()) = some () := by
    decide +kernel
  have hboth : Steps (step .plain) (AsIfNone .plain) { clock := 0, db := 0 }
      ([payment 1 10 0] ++ [payment 2 20 (seconds 172800)]) := h
  obtain ⟨t, _, ht, _, hnone⟩ := hboth.last hbefore hafter
  obtain ⟨record, hstored, hanswers⟩ := Option.map_eq_some_iff.mp ht
  rw [Prod.mk.injEq] at hanswers
  have hexpired : record.expiresAt ≤ (payment 2 20 (seconds 172800)).now := by
    rw [hanswers.1]
    decide
  have hsame := hnone record hstored hexpired (payment 2 20 (seconds 172800)).method
  have hdiffer := hanswers.2
  simp only [List.map_cons, List.map_nil, hsame, List.cons.injEq, and_true] at hdiffer
  rw [hdiffer.1] at hdiffer
  cases hdiffer.2

end Sequence

end DjangoFoundation.Idempotency
