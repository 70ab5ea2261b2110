/-
When the cache of settings agrees with what is committed.

Two steps can put them apart: a fill with a value that was read before a commit, and a commit
past a fill that came after its deletes.  Where neither meets an entry that differs from the
committed row the cache agrees with it throughout, and every `get` returns what the last `set`
before it wrote.

Where the two do not come apart, the answer of `get` is compared with the last commit of its
key, not with the last that was read: `Right` asks for the former, for every `get` in whose
time no `set` has committed.

`closed_setting_read_as_open` has both calls at once: a visitor finds no row, registration is
closed, and the default the visitor was to be told is filled in after it.
-/
import DjangoFoundation.Core.SettingRaces

namespace DjangoFoundation

namespace SettingRaces

open RuntimeSettingService

variable {s s' : State} {e : Int × Event} {rows : Table Setting} {key : String}
  {publicOnly : Bool} {value : Json}

/-! ### Agreement

`Settled` is asked of two kinds of steps only, fills and commits.  Nothing else stores in the
cache or in the table.
-/

/-- What the cache has for a reader is what the reader would find in the rows. -/
def Coherent (s : State) : Prop :=
  ∀ key publicOnly, ∀ value ∈ cached s.cache s.clock key publicOnly,
    Agrees s.rows key publicOnly value

/-- The cache agrees with the rows on what this step stores in either of them: a fill is of the
value that is committed, and a commit finds no other value of its key in the cache. -/
def Settled (s : State) (e : Int × Event) (_ : State) : Prop :=
  match e.2 with
  | .fill id => ∀ get ∈ s.gets.get? id, ∀ value ∈ get.value, value ≠ .null →
      Agrees s.rows get.key get.publicOnly value
  | .commit id => ∀ txn ∈ s.txns.get? id, ∀ row ∈ txn.ready?, ∀ publicOnly,
      ∀ value ∈ cached s.cache e.1 txn.args.key publicOnly,
        Agrees (s.rows.put row) txn.args.key publicOnly value
  | _ => True

/-- A `get` since whose start no `set` of its key has committed returns what the last one
wrote, if the row is visible to it. -/
def Right (s : State) (e : Int × Event) (_ : State) : Prop :=
  ∀ answer ∈ answer? s e, answer.began = s.version answer.key →
    ∀ args ∈ (s.setsOf answer.key).getLast?,
      (visible s.rows answer.key answer.publicOnly).isSome → answer.value = args.value

instance (s : State) (e : Int × Event) (s' : State) : Decidable (Settled s e s') := by
  unfold Settled
  split <;> infer_instance

instance (s : State) (e : Int × Event) (s' : State) : Decidable (Right s e s') :=
  inferInstanceAs (Decidable (∀ answer ∈ answer? s e, answer.began = s.version answer.key →
    ∀ args ∈ (s.setsOf answer.key).getLast?,
      (visible s.rows answer.key answer.publicOnly).isSome → answer.value = args.value))

/-! ### What holds in every run

A `get` between its query and its fill holds a value that may be old by then.  `Get.Holds` ties
it to the commits of its key since it started.
-/

/-- What a `get` has read is still so, unless a `set` has committed since its start. -/
structure Get.Holds (s : State) (get : Get) : Prop where
  began : get.began ≤ s.version get.key
  value : ∀ value ∈ get.value, get.began = s.version get.key →
    Agrees s.rows get.key get.publicOnly value

/-- The row a `set` has found. -/
def Stage.found? : Stage → Option Setting
  | .begun => none
  | .locked found => found
  | .saved found _ _ => found

def Txn.Holds (txn : Txn) : Prop := ∀ row ∈ txn.stage.found?, row.key = txn.args.key

structure Inv (s : State) : Prop where
  /-- A row is as the last `set` of its key left it. -/
  written : ∀ key, ∀ args ∈ (s.setsOf key).getLast?, ∀ row ∈ s.rows.get? key,
    row.value = args.value
  gets : ∀ get ∈ s.gets, get.Holds s
  txns : ∀ txn ∈ s.txns, txn.Holds

theorem ready_row {txn : Txn} {row : Setting} (h : txn.Holds) (hready : txn.ready? = some row) :
    row.key = txn.args.key ∧ row.value = txn.args.value := by
  unfold Txn.ready? at hready
  split at hready
  · rename_i found savedAt hstage
    cases hready
    rw [Txn.Holds, hstage] at h
    refine ⟨?_, rfl⟩
    cases hfound : found with
    | none => rfl
    | some row => exact h row hfound
  · cases hready

theorem Inv.frame (h : Inv s) (hrows : s'.rows = s.rows) (hsets : s'.sets = s.sets)
    (hgets : ∀ get ∈ s'.gets, get.Holds s) (htxns : ∀ txn ∈ s'.txns, txn.Holds) : Inv s' := by
  have hof : ∀ key, s'.setsOf key = s.setsOf key := fun key => by rw [State.setsOf, hsets]; rfl
  have hversion : ∀ key, s'.version key = s.version key := fun key => by
    rw [State.version, hof]; rfl
  refine ⟨?_, ?_, htxns⟩
  · intro key
    rw [hof, hrows]
    exact h.written key
  · intro get hget
    obtain ⟨hbegan, hvalue⟩ := hgets get hget
    refine ⟨?_, ?_⟩
    · rw [hversion]
      exact hbegan
    · rw [hversion, hrows]
      exact hvalue

theorem txns_goOn (h : Inv s) {id : Nat} {txn : Txn} {stage : Stage}
    (htxn : s.txns.get? id = some txn)
    (hstage : ∀ row ∈ stage.found?, row.key = txn.args.key) :
    ∀ other ∈ (s.goOn txn.id stage).txns, other.Holds := by
  intro other hother
  have hmodify : other ∈ s.txns.modify txn.id fun txn => { txn with stage := stage } := hother
  rcases Table.mem_modify.mp hmodify with ⟨old, hold, hid, rfl⟩ | ⟨hold, _⟩
  · have hsame : old = txn := Table.eq_of_pk_eq hold (Table.mem_of_get? htxn) hid
    exact hsame ▸ hstage
  · exact h.txns other hold

theorem txns_close (h : Inv s) {id : Nat} : ∀ txn ∈ (s.close id).txns, txn.Holds :=
  fun txn htxn => h.txns txn (Table.mem_erase.mp htxn).1

/-! ### The commit of a `set`

It raises the number of commits of its key, so every `get` of the key in progress is released
from what it held.
-/

section Commit

variable {txn : Txn} {row : Setting}

theorem setsOf_enter (s : State) (txn : Txn) (row : Setting) (key : String) :
    (s.enter txn row).setsOf key =
      s.setsOf key ++ if txn.args.key = key then [txn.args] else [] := by
  show (s.sets ++ [txn.args]).filter (fun args => decide (args.key = key)) = _
  rw [List.filter_append]
  by_cases hkey : txn.args.key = key
  · rw [if_pos hkey, List.filter_cons_of_pos (by simpa using hkey), List.filter_nil]
    rfl
  · rw [if_neg hkey, List.filter_cons_of_neg (by simpa using hkey), List.filter_nil]
    rfl

theorem version_enter (s : State) (txn : Txn) (row : Setting) (key : String) :
    (s.enter txn row).version key = s.version key + if txn.args.key = key then 1 else 0 := by
  rw [State.version, setsOf_enter, List.length_append]
  split
  · rfl
  · rfl

theorem inv_enter (h : Inv s) (htxn : txn.Holds) (hready : txn.ready? = some row) :
    Inv (s.enter txn row) := by
  obtain ⟨hkey, hvalue⟩ := ready_row htxn hready
  refine ⟨?_, ?_, txns_close h⟩
  · intro key args hargs other hother
    rw [setsOf_enter] at hargs
    have hput : (s.rows.put row).get? key = some other := hother
    rw [get?_put, hkey] at hput
    by_cases hsame : txn.args.key = key
    · rw [if_pos hsame, List.getLast?_concat, Option.mem_some_iff] at hargs
      rw [if_pos hsame, Option.some.injEq] at hput
      rw [← hput, hvalue, hargs]
    · rw [if_neg hsame, List.append_nil] at hargs
      rw [if_neg hsame] at hput
      exact h.written key args hargs other hput
  · intro get hget
    obtain ⟨hbegan, hread⟩ := h.gets get hget
    refine ⟨?_, ?_⟩
    · rw [version_enter]
      omega
    · intro value hvalue hsame
      rw [version_enter] at hsame
      by_cases hown : txn.args.key = get.key
      · rw [if_pos hown] at hsame
        omega
      · rw [if_neg hown] at hsame
        intro current hcurrent
        have hput : visible (s.rows.put row) get.key get.publicOnly = some current := hcurrent
        rw [visible_put, hkey, if_neg hown] at hput
        exact hread value hvalue hsame current hput

end Commit

/-! ### One step

One lemma for each stage a call can be at.
-/

theorem step_eq_some (h : step s e = some s') :
    s.clock ≤ e.1 ∧ State.move e.1 { s with clock := e.1 } e.2 = some s' := by
  unfold step at h
  split at h
  · rename_i hclock
    exact ⟨hclock, h⟩
  · cases h

theorem inv_begin (h : Inv s) {now : Int} {id : Nat} {key : String} {default : Json}
    {publicOnly : Bool} (hbegin : s.begin now id key default publicOnly = some s') : Inv s' := by
  unfold State.begin at hbegin
  split at hbegin
  · cases hbegin
    exact h
  · obtain ⟨gets, hinsert, rfl⟩ := Option.map_eq_some_iff.mp hbegin
    refine h.frame rfl rfl ?_ h.txns
    intro get hget
    rcases (Table.mem_insert? hinsert).mp hget with hget | rfl
    · exact h.gets get hget
    · exact ⟨Nat.le_refl _, fun _ hvalue => by cases hvalue⟩

theorem inv_query (h : Inv s) {id : Nat} {get : Get} (hget : s.gets.get? id = some get)
    (hquery : s.query get = some s') : Inv s' := by
  unfold State.query at hquery
  split at hquery
  · cases hquery
  · cases hquery
    refine h.frame rfl rfl ?_ h.txns
    intro other hother
    have hmodify : other ∈ s.gets.modify get.id fun other => { other with
        value := some (RuntimeSettingService.read s.rows get.key get.publicOnly get.default) } :=
      hother
    rcases Table.mem_modify.mp hmodify with ⟨old, hold, hid, rfl⟩ | ⟨hold, _⟩
    · obtain rfl : old = get := Table.eq_of_pk_eq hold (Table.mem_of_get? hget) hid
      refine ⟨(h.gets old hold).began, ?_⟩
      rintro value ⟨⟩ _
      exact agrees_read s.rows old.key old.publicOnly old.default
    · exact h.gets other hold

theorem inv_fill (h : Inv s) {now : Int} {get : Get} (hfill : s.fill now get = some s') :
    Inv s' := by
  obtain ⟨value, hvalue, rfl⟩ := Option.map_eq_some_iff.mp hfill
  exact h.frame rfl rfl (fun other hother => h.gets other (Table.mem_erase.mp hother).1) h.txns

section Txn

variable {id : Nat} {txn : Txn} (htxn : s.txns.get? id = some txn)

include htxn

theorem inv_lock (h : Inv s) (hlock : s.lock txn = some s') : Inv s' := by
  unfold State.lock at hlock
  split at hlock
  · dsimp only at hlock
    split at hlock
    · cases hlock
    · cases hlock
      refine h.frame rfl rfl h.gets (txns_goOn h htxn ?_)
      intro row hrow
      exact Table.pk_of_get? (show s.rows.get? txn.args.key = some row from hrow)
  · cases hlock

theorem inv_save (h : Inv s) {now : Int} (hsave : s.save now txn = some s') : Inv s' := by
  have hholds := h.txns txn (Table.mem_of_get? htxn)
  unfold State.save at hsave
  split at hsave
  · rename_i found hstage
    rw [Txn.Holds, hstage] at hholds
    split at hsave
    · cases hsave
      exact h.frame rfl rfl h.gets (txns_close h)
    · split at hsave
      · cases hsave
      · cases hsave
        exact h.frame rfl rfl h.gets (txns_goOn h htxn hholds)
  · cases hsave

theorem inv_delete (h : Inv s) (hdelete : s.delete txn = some s') : Inv s' := by
  have hholds := h.txns txn (Table.mem_of_get? htxn)
  unfold State.delete at hdelete
  split at hdelete
  · rename_i found savedAt publicOnly entries hstage
    rw [Txn.Holds, hstage] at hholds
    cases hdelete
    exact h.frame rfl rfl h.gets (txns_goOn h htxn hholds)
  · cases hdelete

end Txn

theorem inv_step (h : Inv s) (hs : step s e = some s') : Inv s' := by
  obtain ⟨now, event⟩ := e
  obtain ⟨-, hmove⟩ := step_eq_some hs
  have h : Inv { s with clock := now } := h.frame rfl rfl h.gets h.txns
  cases event with
  | get id key default publicOnly => exact inv_begin h hmove
  | query id =>
      obtain ⟨get, hget, hquery⟩ := Option.bind_eq_some_iff.mp hmove
      exact inv_query h hget hquery
  | fill id =>
      obtain ⟨get, hget, hfill⟩ := Option.bind_eq_some_iff.mp hmove
      exact inv_fill h hfill
  | drop id =>
      obtain ⟨get, hget, rfl⟩ := Option.map_eq_some_iff.mp hmove
      exact h.frame rfl rfl (fun other hother => h.gets other (Table.mem_erase.mp hother).1) h.txns
  | set id pk args =>
      obtain ⟨txns, hinsert, rfl⟩ := Option.map_eq_some_iff.mp hmove
      refine h.frame rfl rfl h.gets ?_
      intro txn htxn
      rcases (Table.mem_insert? hinsert).mp htxn with htxn | rfl
      · exact h.txns txn htxn
      · exact fun row hrow => by cases hrow
  | lock id =>
      obtain ⟨txn, htxn, hlock⟩ := Option.bind_eq_some_iff.mp hmove
      exact inv_lock htxn h hlock
  | save id =>
      obtain ⟨txn, htxn, hsave⟩ := Option.bind_eq_some_iff.mp hmove
      exact inv_save htxn h hsave
  | delete id =>
      obtain ⟨txn, htxn, hdelete⟩ := Option.bind_eq_some_iff.mp hmove
      exact inv_delete htxn h hdelete
  | commit id =>
      obtain ⟨txn, htxn, hcommit⟩ := Option.bind_eq_some_iff.mp hmove
      obtain ⟨row, hready, rfl⟩ := Option.map_eq_some_iff.mp hcommit
      exact inv_enter h (h.txns txn (Table.mem_of_get? htxn)) hready
  | abort id =>
      obtain ⟨txn, htxn, rfl⟩ := Option.map_eq_some_iff.mp hmove
      exact h.frame rfl rfl h.gets (txns_close h)
  | evict cacheKey =>
      cases hmove
      exact h.frame rfl rfl h.gets h.txns

/-! ### The cache

Deletes and expiry make the cache smaller and keep any agreement there is.  A fill and a commit
keep it exactly where they are settled.
-/

/-- Nothing is stored in the cache or in the table. -/
structure Fewer (s s' : State) : Prop where
  rows : s'.rows = s.rows
  cache : ∀ key publicOnly, ∀ value ∈ cached s'.cache s'.clock key publicOnly,
    value ∈ cached s.cache s.clock key publicOnly

theorem Fewer.same (hrows : s'.rows = s.rows) (hcache : s'.cache = s.cache)
    (hclock : s.clock ≤ s'.clock) : Fewer s s' := by
  refine ⟨hrows, ?_⟩
  intro key publicOnly value hvalue
  rw [hcache] at hvalue
  exact cached_of_le hclock hvalue

theorem Fewer.coherent (hfewer : Fewer s s') (h : Coherent s) : Coherent s' := by
  intro key publicOnly value hvalue
  rw [hfewer.rows]
  exact h key publicOnly value (hfewer.cache key publicOnly value hvalue)

/-- Only fills and commits store anything. -/
theorem fewer_move {now : Int} {event : Event} (hmove : s.move now event = some s')
    (hfill : ∀ id, event ≠ .fill id) (hcommit : ∀ id, event ≠ .commit id) : Fewer s s' := by
  have hsame : s'.rows = s.rows → s'.cache = s.cache → s'.clock = s.clock → Fewer s s' :=
    fun hrows hcache hclock => .same hrows hcache (by omega)
  cases event with
  | fill id => exact absurd rfl (hfill id)
  | commit id => exact absurd rfl (hcommit id)
  | get id key default publicOnly =>
      simp only [State.move, State.begin] at hmove
      split at hmove
      · cases hmove
        exact hsame rfl rfl rfl
      · obtain ⟨gets, -, rfl⟩ := Option.map_eq_some_iff.mp hmove
        exact hsame rfl rfl rfl
  | query id =>
      obtain ⟨get, -, hquery⟩ := Option.bind_eq_some_iff.mp hmove
      unfold State.query at hquery
      split at hquery
      · cases hquery
      · cases hquery
        exact hsame rfl rfl rfl
  | drop id =>
      obtain ⟨get, -, rfl⟩ := Option.map_eq_some_iff.mp hmove
      exact hsame rfl rfl rfl
  | set id pk args =>
      obtain ⟨txns, -, rfl⟩ := Option.map_eq_some_iff.mp hmove
      exact hsame rfl rfl rfl
  | lock id =>
      obtain ⟨txn, -, hlock⟩ := Option.bind_eq_some_iff.mp hmove
      unfold State.lock at hlock
      split at hlock
      · dsimp only at hlock
        split at hlock
        · cases hlock
        · cases hlock
          exact hsame rfl rfl rfl
      · cases hlock
  | save id =>
      obtain ⟨txn, -, hsave⟩ := Option.bind_eq_some_iff.mp hmove
      unfold State.save at hsave
      split at hsave
      · split at hsave
        · cases hsave
          exact hsame rfl rfl rfl
        · split at hsave
          · cases hsave
          · cases hsave
            exact hsame rfl rfl rfl
      · cases hsave
  | delete id =>
      obtain ⟨txn, -, hdelete⟩ := Option.bind_eq_some_iff.mp hmove
      unfold State.delete at hdelete
      split at hdelete
      · cases hdelete
        exact ⟨rfl, fun _ _ _ hvalue => cached_of_delete hvalue⟩
      · cases hdelete
  | abort id =>
      obtain ⟨txn, -, rfl⟩ := Option.map_eq_some_iff.mp hmove
      exact hsame rfl rfl rfl
  | evict cacheKey =>
      cases hmove
      exact ⟨rfl, fun _ _ _ hvalue => cached_of_delete hvalue⟩

/-- After a fill the cache agrees with the rows if what was filled in does. -/
theorem coherent_fill_iff (h : Coherent s) {get : Get} (hvalue : get.value = some value)
    (hfill : s.fill s.clock get = some s') :
    Coherent s' ↔ (value ≠ .null → Agrees s.rows get.key get.publicOnly value) := by
  rw [State.fill, hvalue, Option.map_some, Option.some.injEq] at hfill
  subst hfill
  have hcached := cached_fill s.cache s.clock get.key
  constructor
  · intro hcoherent hnull
    refine hcoherent get.key get.publicOnly value ?_
    show cached (RuntimeSettingService.fill s.cache s.clock get.key get.publicOnly value) _ _ _ = _
    rw [hcached, if_pos ⟨rfl, rfl⟩, if_pos hnull]
  · intro hagrees other publicOnly found hfound
    have hfound : cached (RuntimeSettingService.fill s.cache s.clock get.key get.publicOnly value)
      s.clock other publicOnly = some found := hfound
    rw [hcached] at hfound
    by_cases hsame : other = get.key ∧ publicOnly = get.publicOnly
    · rw [if_pos hsame] at hfound
      split at hfound
      · rename_i hnull
        cases hfound
        rw [hsame.1, hsame.2]
        exact hagrees hnull
      · cases hfound
    · rw [if_neg hsame] at hfound
      exact h other publicOnly found hfound

/-- After a commit it does if what it has for that key agrees with the new row. -/
theorem coherent_enter_iff (h : Coherent s) {txn : Txn} {row : Setting}
    (hkey : row.key = txn.args.key) :
    Coherent (s.enter txn row) ↔ ∀ publicOnly, ∀ value ∈ cached s.cache s.clock txn.args.key
      publicOnly, Agrees (s.rows.put row) txn.args.key publicOnly value := by
  constructor
  · intro hcoherent
    exact hcoherent txn.args.key
  · intro hagrees key publicOnly value hvalue
    by_cases hsame : txn.args.key = key
    · rw [← hsame] at hvalue ⊢
      exact hagrees publicOnly value hvalue
    · intro current hcurrent
      have hput : visible (s.rows.put row) key publicOnly = some current := hcurrent
      rw [visible_put, hkey, if_neg hsame] at hput
      exact h key publicOnly value hvalue current hput

/-- **One step.**  The cache agrees with the rows after it, if it did before, exactly where the
step is settled. -/
theorem coherent_step_iff (hinv : Inv s) (h : Coherent s) (hs : step s e = some s') :
    Coherent s' ↔ Settled s e s' := by
  obtain ⟨now, event⟩ := e
  obtain ⟨hclock, hmove⟩ := step_eq_some hs
  have hlater : Fewer s { s with clock := now } := .same rfl rfl hclock
  have h : Coherent { s with clock := now } := hlater.coherent h
  by_cases hfill : ∃ id, event = .fill id
  · obtain ⟨id, rfl⟩ := hfill
    obtain ⟨get, hget, hmove⟩ := Option.bind_eq_some_iff.mp hmove
    obtain ⟨value, hvalue, -⟩ := Option.map_eq_some_iff.mp hmove
    have hget : s.gets.get? id = some get := hget
    rw [coherent_fill_iff h hvalue hmove]
    simp [Settled, hget, hvalue]
  · by_cases hcommit : ∃ id, event = .commit id
    · obtain ⟨id, rfl⟩ := hcommit
      obtain ⟨txn, htxn, hmove⟩ := Option.bind_eq_some_iff.mp hmove
      obtain ⟨row, hready, rfl⟩ := Option.map_eq_some_iff.mp hmove
      have htxn : s.txns.get? id = some txn := htxn
      have hholds := hinv.txns txn (Table.mem_of_get? htxn)
      rw [coherent_enter_iff h (ready_row hholds hready).1]
      simp [Settled, htxn, hready]
    · have hfewer := fewer_move hmove (fun id hid => hfill ⟨id, hid⟩)
        fun id hid => hcommit ⟨id, hid⟩
      refine iff_of_true (hfewer.coherent h) ?_
      cases event with
      | fill id => exact absurd ⟨id, rfl⟩ hfill
      | commit id => exact absurd ⟨id, rfl⟩ hcommit
      | _ => trivial

/-- An answer from a cache that agrees with the rows is right. -/
theorem right_step (hinv : Inv s) (h : Coherent s) (hs : step s e = some s') : Right s e s' := by
  obtain ⟨now, event⟩ := e
  obtain ⟨hclock, -⟩ := step_eq_some hs
  have hright : ∀ answer : Answer,
      Agrees s.rows answer.key answer.publicOnly answer.value →
      ∀ args ∈ (s.setsOf answer.key).getLast?,
        (visible s.rows answer.key answer.publicOnly).isSome → answer.value = args.value := by
    intro answer hagrees args hargs hvisible
    obtain ⟨current, hcurrent⟩ := Option.isSome_iff_exists.mp hvisible
    rw [hagrees current hcurrent]
    obtain ⟨row, hrow, rfl⟩ := Option.map_eq_some_iff.mp hcurrent
    exact hinv.written answer.key args hargs row (Option.filter_eq_some_iff.mp hrow).1
  intro answer hanswer hsame
  refine hright answer ?_
  unfold answer? at hanswer
  split at hanswer
  · rename_i key _ publicOnly hevent
    obtain ⟨value, hvalue, rfl⟩ := Option.map_eq_some_iff.mp hanswer
    exact h key publicOnly value (cached_of_le hclock hvalue)
  · rename_i id hevent
    obtain ⟨get, hget, hanswer⟩ := Option.bind_eq_some_iff.mp hanswer
    obtain ⟨value, hvalue, hanswer⟩ := Option.bind_eq_some_iff.mp hanswer
    cases hanswer
    exact (hinv.gets get (Table.mem_of_get? hget)).value value hvalue hsame
  · cases hanswer

/-! ### Runs

A run whose steps are settled keeps the cache coherent, and a coherent cache answers rightly.
-/

def State.start (clock : Int) (rows : Table Setting) : State := { clock := clock, rows := rows }

theorem inv_start (clock : Int) (rows : Table Setting) : Inv (.start clock rows) where
  written _ _ hargs := by cases hargs
  gets get hget := absurd hget (Table.not_mem_empty get)
  txns txn htxn := absurd htxn (Table.not_mem_empty txn)

theorem coherent_start (clock : Int) (rows : Table Setting) : Coherent (.start clock rows) :=
  fun _ _ _ hvalue => by cases hvalue

/-- **Every `get` returns what the last `set` before it wrote**, in a run whose fills and commits
are settled; and in no other run does the cache always agree with what is committed. -/
theorem gets_current (clock : Int) (rows : Table Setting) (es : List (Int × Event)) :
    (Run.Steps step Settled (.start clock rows) es →
      Run.Steps step Right (.start clock rows) es) ∧
    (Run.Steps step (fun _ _ s' => Coherent s') (.start clock rows) es ↔
      Run.Steps step Settled (.start clock rows) es) := by
  have hstart : Inv (State.start clock rows) ∧ Coherent (State.start clock rows) :=
    ⟨inv_start clock rows, coherent_start clock rows⟩
  have hstep : ∀ s e s', Inv s ∧ Coherent s → step s e = some s' → Settled s e s' →
      (Inv s' ∧ Coherent s') ∧ Right s e s' := by
    intro s e s' ⟨hinv, hcoherent⟩ hs hsettled
    exact ⟨⟨inv_step hinv hs, (coherent_step_iff hinv hcoherent hs).mpr hsettled⟩,
      right_step hinv hcoherent hs⟩
  have hiff : ∀ s e s', Inv s ∧ Coherent s → step s e = some s' →
      (Coherent s' ↔ Settled s e s') := fun s e s' h hs => coherent_step_iff h.1 h.2 hs
  refine ⟨fun hsettled => Run.Steps.of_inv hstep hstart hsettled, ?_⟩
  exact Run.steps_iff_of_inv hiff (fun s e s' h hs hcoherent => ⟨inv_step h.1 hs, hcoherent⟩)
    hstart es

/-- Registration is closed by one call of `set`. -/
def close (now : Int) (id : Nat) : List (Int × Event) :=
  [(now, .set id 7 ⟨"site.registration_enabled", .bool false, .boolean, none, none, none⟩),
    (now, .lock id), (now, .save id), (now, .delete id), (now, .delete id), (now, .commit id)]

/-- It is asked for by one call of `get`. -/
def ask (now : Int) (id : Nat) : List (Int × Event) :=
  [(now, .get id "site.registration_enabled" (.bool true) false), (now, .query id)]

/-- One after the other. -/
def closedOnce : List (Int × Event) :=
  ask 0 0 ++ [(0, .fill 0)] ++ close 1 0 ++ ask 2 1 ++ [(2, .fill 1)] ++ ask 3 2

theorem gets_current_once :
    Run.Steps step Right (.start 0 ∅) closedOnce :=
  (gets_current 0 ∅ closedOnce).1 (by decide +kernel)

/-- A visitor has found no row when registration is closed, and fills the default in after it. -/
def closedAcross : List (Int × Event) :=
  ask 0 0 ++ close 1 0 ++ [(2, .fill 0)] ++ ask 3 1

/-- The next visitor is told that registration is open. -/
theorem closed_setting_read_as_open :
    ¬Run.Steps step Right (.start 0 ∅) closedAcross := by
  decide +kernel

end SettingRaces

end DjangoFoundation
