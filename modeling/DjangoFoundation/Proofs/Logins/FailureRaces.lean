/-
Failures registered at once are all counted.

Whoever has the row of a dimension has it as it is in the table, and has it alone, so what a
call saves is the count before it and one more (`Call.Holds`, `tally_enter`).  Only the first
can find an older row, and start over where that has expired: every later one reads what
another of the calls has saved, less than a window before.

A call goes through its dimensions one after the other, each in a transaction of its own: find
or create the row, lock it, save it.  Between two of these others may go on, and a call that
creates a row which somebody has created meanwhile finds theirs.  The proof follows one
dimension at a time, since rows of different dimensions have nothing to do with each other.
-/
import Mathlib.Data.Bool.AllAny
import DjangoFoundation.Proofs.Logins.Counters
import DjangoFoundation.Security.FailureRaces

namespace DjangoFoundation

namespace FailureRaces

open LoginProtectionService

variable {env : Environment} {settings : LoginSettings} {d : String}
  {before : Option LoginThrottleState} {s s' : State} {call : Call} {now t₀ : Int}

/-! ### What a call has

A call selects a row for update, or finds none and inserts one.  From then on to its commit
nobody else can have the row, so what it has read is what is in the table.
-/

variable (env settings) in
/-- What a call has of its first dimension is what is in the table. -/
structure Call.Holds (rows : Table LoginThrottleState) (call : Call) : Prop where
  left : call.left <:+ call.dimensions env
  row : ∀ row ∈ call.row?, ∃ dimension left, call.left = dimension :: left ∧
    row = (stored env rows dimension).getD
      { dimensionHash := stateKey env dimension, expiresAt := call.now + window settings }

/-- A row locked is the dimension's. -/
theorem Call.Holds.hash {rows : Table LoginThrottleState} {row : LoginThrottleState}
    {dimension : String} {left : List String} (h : call.Holds env settings rows)
    (hrow : call.row? = some row) (hleft : call.left = dimension :: left) :
    row.dimensionHash = stateKey env dimension := by
  obtain ⟨dimension', left', hleft', heq⟩ := h.row row hrow
  rw [hleft, List.cons.injEq] at hleft'
  obtain ⟨rfl, rfl⟩ := hleft'
  rw [heq]
  cases hstored : stored env rows dimension with
  | none => rfl
  | some old => exact Table.pk_of_get? hstored

theorem mem_locks {hash : String} :
    hash ∈ call.locks ↔ ∃ row, call.row? = some row ∧ row.dimensionHash = hash := by
  rw [Call.locks, List.mem_map]
  exact exists_congr fun row => and_congr_left' Option.mem_toList

/-! ### The tally of a dimension

The tally counts the calls that have committed on the dimension, and compares the row with the
one from before all of them.
-/

variable (env d) in
/-- The call has counted on the dimension. -/
def Call.passed (call : Call) : Bool := d ∈ call.dimensions env ∧ d ∉ call.left

variable (env d) in
/-- How many of the calls have. -/
def passed (calls : Table Call) : Nat := calls.rows.countP (Call.passed env d)

variable (env d) in
/-- A call that counts on the dimension has started then. -/
def Started (calls : Table Call) (t : Int) : Prop :=
  ∃ call ∈ calls, d ∈ call.dimensions env ∧ call.now = t

variable (env settings d before) in
/-- The row is as it was before the calls, or counts those that have passed. -/
def Tally (rows : Table LoginThrottleState) (calls : Table Call) : Prop :=
  (passed env d calls = 0 ∧ stored env rows d = before) ∨
    0 < passed env d calls ∧ ∃ row first last, stored env rows d = some row ∧
      Started env d calls first ∧ row.attemptCount = counted first before + passed env d calls ∧
      Started env d calls last ∧ row.expiresAt = last + window settings

variable (env settings d before t₀) in
/-- What holds in every state of a run. -/
structure Inv (s : State) : Prop where
  exclusive : Locks.Exclusive Call.locks s.calls
  calls : ∀ call ∈ s.calls, call.Holds env settings s.rows
  started : ∀ t, Started env d s.calls t → t₀ ≤ t ∧ t < t₀ + window settings
  tally : Tally env settings d before s.rows s.calls

/-- Calls that go on are the calls there were. -/
theorem started_modify {calls : Table Call} {id : Nat} {f : Call → Call}
    {hf : ∀ call, Keyed.pk (f call) = Keyed.pk call}
    (hdimensions : ∀ call, (f call).dimensions env = call.dimensions env)
    (hnow : ∀ call, (f call).now = call.now) {t : Int} :
    Started env d (calls.modify id f hf) t ↔ Started env d calls t := by
  constructor
  · rintro ⟨call, hcall, hd, ht⟩
    rcases Table.mem_modify.mp hcall with ⟨old, hold, -, rfl⟩ | ⟨hold, -⟩
    · exact ⟨old, hold, hdimensions old ▸ hd, (hnow old).symm.trans ht⟩
    · exact ⟨call, hold, hd, ht⟩
  · rintro ⟨call, hcall, hd, ht⟩
    by_cases hid : Keyed.pk call = id
    · refine ⟨f call, Table.mem_modify.mpr (Or.inl ⟨call, hcall, hid, rfl⟩), ?_, ?_⟩
      · rw [hdimensions]
        exact hd
      · rw [hnow]
        exact ht
    · exact ⟨call, Table.mem_modify.mpr (Or.inr ⟨hcall, hid⟩), hd, ht⟩

/-- A tally says of the calls only how many have passed and when they started. -/
theorem Tally.congr {rows rows' : Table LoginThrottleState} {calls calls' : Table Call}
    (h : Tally env settings d before rows calls) (hrows : stored env rows' d = stored env rows d)
    (hpassed : passed env d calls' = passed env d calls)
    (hstarted : ∀ t, Started env d calls t → Started env d calls' t) :
    Tally env settings d before rows' calls' := by
  rcases h with ⟨hzero, hstored⟩ | ⟨hpos, row, first, last, hstored, hfirst, hcount, hlast, hexpires⟩
  · exact Or.inl ⟨hpassed.trans hzero, hrows.trans hstored⟩
  · rw [Tally, hpassed, hrows]
    exact Or.inr ⟨hpos, row, first, last, hstored, hstarted first hfirst, hcount,
      hstarted last hlast, hexpires⟩

/-! ### One step

Only a commit changes the table.  The other steps change what a call has, and the invariant for
that follows from the locks.
-/

theorem inv_start (h : Inv env settings d before t₀ s) {id : Nat} {identifier : String}
    {ipAddress : Option String}
    (hwithin : d ∈ dimensions env identifier ipAddress → t₀ ≤ now ∧ now < t₀ + window settings)
    (hstart : s.start env now id identifier ipAddress = some s') :
    Inv env settings d before t₀ s' := by
  obtain ⟨calls, hinsert, rfl⟩ := Option.map_eq_some_iff.mp hstart
  have hmem := fun call => Table.mem_insert? (b := call) hinsert
  refine ⟨h.exclusive.insert? hinsert rfl, ?_, ?_, ?_⟩
  · intro call hcall
    rcases (hmem call).mp hcall with hold | rfl
    · exact h.calls call hold
    · exact ⟨List.suffix_rfl, fun row hrow => by cases hrow⟩
  · rintro t ⟨call, hcall, hd, rfl⟩
    rcases (hmem call).mp hcall with hold | rfl
    · exact h.started _ ⟨call, hold, hd, rfl⟩
    · exact hwithin hd
  · refine h.tally.congr rfl ?_ ?_
    · show calls.rows.countP _ = s.calls.rows.countP _
      rw [(Table.insert?_eq_some hinsert).2, List.countP_append, List.countP_singleton, if_neg]
      · rfl
      · simp [Call.passed, Call.dimensions]
    · rintro t ⟨call, hcall, hd, ht⟩
      exact ⟨call, (hmem call).mpr (Or.inl hcall), hd, ht⟩

section Call

variable (hcall : s.calls.get? call.id = some call)

include hcall

theorem mem_modify_call {f : Call → Call} {hf : ∀ call, Keyed.pk (f call) = Keyed.pk call}
    {other : Call} (hother : other ∈ s.calls.modify call.id f hf) :
    other = f call ∨ other ∈ s.calls ∧ other.id ≠ call.id := by
  rcases Table.mem_modify.mp hother with ⟨old, hold, hid, rfl⟩ | hold
  · rw [Table.eq_of_pk_eq hold (Table.mem_of_get? hcall) hid]
    exact Or.inl rfl
  · exact Or.inr hold

theorem inv_goOn (h : Inv env settings d before t₀ s) {stage : Stage}
    (hholds : Call.Holds env settings s.rows { call with stage := stage })
    (hfree : ∀ hash ∈ Call.locks { call with stage := stage }, s.free call.id hash = true) :
    Inv env settings d before t₀ (s.goOn call.id stage) := by
  have hstarted : ∀ t, Started env d (s.goOn call.id stage).calls t ↔ Started env d s.calls t :=
    fun t => @started_modify env d s.calls call.id (fun call => { call with stage := stage })
      (fun _ => rfl) (fun _ => rfl) (fun _ => rfl) t
  refine ⟨?_, ?_, ?_, ?_⟩
  · refine h.exclusive.modify (f := fun call => { call with stage := stage }) (fun _ => rfl) ?_
    intro other hother hid hash hlock
    rw [Table.eq_of_pk_eq hother (Table.mem_of_get? hcall) hid] at hlock
    exact Or.inr (hfree hash hlock)
  · intro other hother
    have hmodify : other ∈ s.calls.modify call.id fun call => { call with stage := stage } := hother
    rcases mem_modify_call hcall hmodify with rfl | ⟨hold, -⟩
    · exact hholds
    · exact h.calls other hold
  · intro t ht
    exact h.started t ((hstarted t).mp ht)
  · refine h.tally.congr rfl ?_ fun t ht => (hstarted t).mpr ht
    have hcount := @Table.countP_modify _ _ _ _ _ _ _ hcall
      (fun call => { call with stage := stage }) (fun _ => rfl) (Call.passed env d)
    exact Nat.add_right_cancel hcount

theorem inv_select (h : Inv env settings d before t₀ s) (hselect : s.select env call = some s') :
    Inv env settings d before t₀ s' := by
  have hholds := h.calls call (Table.mem_of_get? hcall)
  unfold State.select at hselect
  split at hselect
  · rename_i dimension left hstage hleft
    split at hselect
    · cases hselect
      exact inv_goOn hcall h ⟨hholds.left, fun row hrow => by cases hrow⟩
        fun hash hlock => by cases hlock
    · rename_i row hrow
      split at hselect
      · rename_i hfree
        cases hselect
        refine inv_goOn hcall h ⟨hholds.left, ?_⟩ ?_
        · rintro _ ⟨⟩
          refine ⟨dimension, left, hleft, ?_⟩
          rw [stored, hrow]
          rfl
        · intro hash hlock
          rw [List.mem_singleton.mp hlock]
          exact hfree
      · cases hselect
  · cases hselect

theorem inv_insert (h : Inv env settings d before t₀ s)
    (hinsert : s.insert env settings call = some s') : Inv env settings d before t₀ s' := by
  have hholds := h.calls call (Table.mem_of_get? hcall)
  unfold State.insert at hinsert
  split at hinsert
  · rename_i dimension left hstage hleft
    split at hinsert
    · cases hinsert
      exact inv_goOn hcall h ⟨hholds.left, fun row hrow => by cases hrow⟩
        fun hash hlock => by cases hlock
    · rename_i hrow
      split at hinsert
      · rename_i hfree
        cases hinsert
        refine inv_goOn hcall h ⟨hholds.left, ?_⟩ ?_
        · rintro _ ⟨⟩
          refine ⟨dimension, left, hleft, ?_⟩
          rw [stored, hrow]
          rfl
        · intro hash hlock
          rw [List.mem_singleton.mp hlock]
          exact hfree
      · cases hinsert
  · cases hinsert

/-! ### The commit

What is saved is computed from the row the call has, which is the row in the table, which by
the tally counts all that have passed.
-/

omit hcall in
theorem stored_enter {dimension : String} {left : List String} {row : LoginThrottleState}
    (hrow : row = (stored env s.rows dimension).getD
      { dimensionHash := stateKey env dimension, expiresAt := call.now + window settings })
    (d : String) :
    stored env (s.enter settings now call dimension left row).rows d =
      if d = dimension then
        some { saved env settings call.now dimension (stored env s.rows dimension) with
          updatedAt := now }
      else stored env s.rows d := by
  have hsaved : (failed settings call.now row).2 =
      saved env settings call.now dimension (stored env s.rows dimension) := by
    rw [hrow]
    rfl
  have hhash : (saved env settings call.now dimension (stored env s.rows dimension)).dimensionHash =
      stateKey env dimension := by
    rw [saved, failed_dimensionHash]
    cases hstored : stored env s.rows dimension with
    | none => rfl
    | some old => exact Table.pk_of_get? hstored
  show (s.rows.put { (failed settings call.now row).2 with updatedAt := now }).get?
    (stateKey env d) = _
  rw [hsaved, Table.get?_put]
  by_cases hd : d = dimension
  · rw [if_pos hd]
    exact if_pos (hhash.trans (congrArg _ hd.symm))
  · rw [if_neg hd]
    exact if_neg fun hkey => hd (stateKey_injective (hhash.symm.trans hkey)).symm

omit hcall in
/-- A dimension comes up once. -/
theorem new_of_holds {rows : Table LoginThrottleState} (h : call.Holds env settings rows)
    {left : List String} (hleft : call.left = d :: left) : d ∈ call.dimensions env ∧ d ∉ left := by
  have hsuffix := h.left
  rw [hleft] at hsuffix
  have hnodup := (nodup_dimensions call.identifier call.ipAddress).sublist hsuffix.sublist
  exact ⟨hsuffix.subset List.mem_cons_self, (List.nodup_cons.mp hnodup).1⟩

theorem passed_enter {dimension : String} {left : List String} {row : LoginThrottleState}
    (hholds : call.Holds env settings s.rows) (hleft : call.left = dimension :: left) :
    passed env d (s.enter settings now call dimension left row).calls =
      passed env d s.calls + if d = dimension then 1 else 0 := by
  have hcount := @Table.countP_modify _ _ _ _ _ _ _ hcall
    (fun other => other.next dimension left (failed settings call.now row).1)
    (fun _ => rfl) (Call.passed env d)
  by_cases hd : d = dimension
  · subst hd
    obtain ⟨hmem, hnew⟩ := new_of_holds hholds hleft
    have hbefore : Call.passed env d call = false := by
      rw [Call.passed, hleft]
      exact decide_eq_false fun h => h.2 List.mem_cons_self
    have hafter : Call.passed env d (call.next d left (failed settings call.now row).1) = true :=
      decide_eq_true ⟨hmem, hnew⟩
    rw [hbefore, hafter, if_neg Bool.false_ne_true, if_pos rfl] at hcount
    rw [if_pos rfl]
    exact hcount
  · have hsame : Call.passed env d (call.next dimension left (failed settings call.now row).1) =
        Call.passed env d call := by
      have hiff : d ∉ left ↔ d ∉ call.left := by
        rw [hleft, List.mem_cons, not_or]
        exact (and_iff_right hd).symm
      exact decide_eq_decide.mpr (and_congr_right' hiff)
    rw [hsame] at hcount
    rw [if_neg hd]
    exact Nat.add_right_cancel hcount

omit hcall in
theorem started_enter {dimension : String} {left : List String} {row : LoginThrottleState}
    {t : Int} : Started env d (s.enter settings now call dimension left row).calls t ↔
      Started env d s.calls t :=
  @started_modify env d s.calls call.id
    (fun other => other.next dimension left (failed settings call.now row).1)
    (fun _ => rfl) (fun _ => rfl) (fun _ => rfl) t

/-- **One more.**  What a call saves counts every call that has passed, and itself. -/
theorem tally_enter (h : Inv env settings d before t₀ s) {left : List String}
    {row : LoginThrottleState} (hleft : call.left = d :: left)
    (hrow : row = (stored env s.rows d).getD
      { dimensionHash := stateKey env d, expiresAt := call.now + window settings }) :
    Tally env settings d before (s.enter settings now call d left row).rows
      (s.enter settings now call d left row).calls := by
  have hmem := Table.mem_of_get? hcall
  have hholds := h.calls call hmem
  have hself : Started env d s.calls call.now := ⟨call, hmem, (new_of_holds hholds hleft).1, rfl⟩
  have hpassed := @passed_enter env settings d s call now hcall d left row hholds hleft
  have hcounted : ∃ first, Started env d s.calls first ∧
      counted call.now (stored env s.rows d) = counted first before + passed env d s.calls := by
    rcases h.tally with ⟨hzero, hsame⟩ | ⟨-, old, first, last, hold, hfirst, hcount, hlast, hexpires⟩
    · refine ⟨call.now, hself, ?_⟩
      rw [hsame, hzero]
      rfl
    · refine ⟨first, hfirst, ?_⟩
      -- one of the calls has saved it, less than a window before
      have hle := (h.started last hlast).1
      have hlt := (h.started call.now hself).2
      have hlive : ¬old.expiresAt ≤ call.now := by omega
      rw [hold]
      exact (if_neg hlive).trans hcount
  obtain ⟨first, hfirst, hcount⟩ := hcounted
  rw [if_pos rfl] at hpassed
  refine Or.inr ⟨by omega, _, first, call.now, (stored_enter hrow d).trans (if_pos rfl),
    started_enter.mpr hfirst, ?_, started_enter.mpr hself, ?_⟩
  · show (saved env settings call.now d (stored env s.rows d)).attemptCount = _
    rw [saved_attemptCount, hcount, hpassed]
    rfl
  · show (saved env settings call.now d (stored env s.rows d)).expiresAt = _
    rw [saved_expiresAt]

theorem inv_commit (h : Inv env settings d before t₀ s)
    (hcommit : s.commit settings now call = some s') : Inv env settings d before t₀ s' := by
  have hmem := Table.mem_of_get? hcall
  have hholds := h.calls call hmem
  unfold State.commit at hcommit
  split at hcommit
  · rename_i row dimension left hrow? hleft
    cases hcommit
    obtain ⟨dimension', left', hleft', hrow⟩ := hholds.row row hrow?
    rw [hleft, List.cons.injEq] at hleft'
    obtain ⟨rfl, rfl⟩ := hleft'
    refine ⟨?_, ?_, ?_, ?_⟩
    · refine h.exclusive.modify
        (f := fun other => other.next dimension left (failed settings call.now row).1)
        (fun _ => rfl) ?_
      intro other hother hid hash hlock
      cases hlock
    · intro other hother
      have hmodify : other ∈ s.calls.modify call.id
        fun other => other.next dimension left (failed settings call.now row).1 := hother
      rcases mem_modify_call hcall hmodify with rfl | ⟨hold, hid⟩
      · refine ⟨?_, fun row hrow => by cases hrow⟩
        have hsuffix := hholds.left
        rw [hleft] at hsuffix
        exact (List.suffix_cons dimension left).trans hsuffix
      · have hother := h.calls other hold
        refine ⟨hother.left, fun row' hrow' => ?_⟩
        obtain ⟨dimension', left', hleft', heq⟩ := hother.row row' hrow'
        refine ⟨dimension', left', hleft', ?_⟩
        -- nobody else has the row that is saved
        have hne : dimension' ≠ dimension := by
          intro hsame
          refine hid (h.exclusive other hold call hmem (stateKey env dimension) ?_ ?_)
          · exact mem_locks.mpr ⟨row', hrow', (hother.hash hrow' hleft').trans (hsame ▸ rfl)⟩
          · exact mem_locks.mpr ⟨row, hrow?, hholds.hash hrow? hleft⟩
        rw [stored_enter hrow, if_neg hne]
        exact heq
    · intro t ht
      exact h.started t (started_enter.mp ht)
    · by_cases hd : d = dimension
      · subst hd
        exact tally_enter hcall h hleft hrow
      · refine h.tally.congr ((stored_enter hrow d).trans (if_neg hd)) ?_ ?_
        · rw [passed_enter hcall hholds hleft, if_neg hd]
          rfl
        · exact fun t ht => started_enter.mpr ht
  · cases hcommit

end Call

variable (env settings d t₀) in
/-- A call that counts on the dimension starts within a window. -/
def Within (e : Int × Event) : Prop :=
  match e.2 with
  | .start _ identifier ipAddress =>
      d ∈ dimensions env identifier ipAddress → t₀ ≤ e.1 ∧ e.1 < t₀ + window settings
  | _ => True

instance (e : Int × Event) : Decidable (Within env settings d t₀ e) := by
  unfold Within
  split <;> infer_instance

theorem step_eq_some {e : Int × Event} (h : step env settings s e = some s') :
    State.move env settings e.1 { s with clock := e.1 } e.2 = some s' := by
  unfold step at h
  split at h
  · exact h
  · cases h

theorem inv_step {e : Int × Event} (h : Inv env settings d before t₀ s)
    (hwithin : Within env settings d t₀ e) (hs : step env settings s e = some s') :
    Inv env settings d before t₀ s' := by
  obtain ⟨now, event⟩ := e
  have hmove := step_eq_some hs
  have h : Inv env settings d before t₀ { s with clock := now } :=
    ⟨h.exclusive, h.calls, h.started, h.tally⟩
  cases event with
  | start id identifier ipAddress =>
      exact inv_start h hwithin hmove
  | select id =>
      obtain ⟨call, hcall, hselect⟩ := Option.bind_eq_some_iff.mp hmove
      obtain rfl : call.id = id := Table.pk_of_get? hcall
      exact inv_select hcall h hselect
  | insert id =>
      obtain ⟨call, hcall, hinsert⟩ := Option.bind_eq_some_iff.mp hmove
      obtain rfl : call.id = id := Table.pk_of_get? hcall
      exact inv_insert hcall h hinsert
  | commit id =>
      obtain ⟨call, hcall, hcommit⟩ := Option.bind_eq_some_iff.mp hmove
      obtain rfl : call.id = id := Table.pk_of_get? hcall
      exact inv_commit hcall h hcommit

variable (env d) in
/-- The calls that count on the dimension. -/
def sharing (s : State) : List Call := s.calls.rows.filter fun call => d ∈ call.dimensions env

/-- **Failures registered at once are all counted.**  From any rows, let any number of calls
start, and take their steps in any order.  Once those that share a dimension are through with
it, and all of them began within a window, there is one row of it, with as many attempts as
there are such calls above what it had for the first of them, or above none where there was
no row or an expired one. -/
theorem failures_all_counted {clock : Int} {rows : Table LoginThrottleState}
    {es : List (Int × Event)}
    (hrun : Run.exec (step env settings) { clock := clock, rows := rows } es = some s)
    (hwithin : ∀ e ∈ es, Within env settings d t₀ e)
    (hdone : ∀ call ∈ sharing env d s, d ∉ call.left) (hsome : sharing env d s ≠ []) :
    ∃ row, s.rows.rows.filter (fun row => row.dimensionHash = stateKey env d) = [row] ∧
      ∃ first ∈ sharing env d s,
        row.attemptCount = counted first.now (stored env rows d) + (sharing env d s).length := by
  have hinit : Inv env settings d (stored env rows d) t₀ { clock := clock, rows := rows } := by
    refine ⟨Locks.exclusive_empty, ?_, ?_, Or.inl ⟨rfl, rfl⟩⟩
    · exact fun call hcall => absurd hcall (Table.not_mem_empty call)
    · rintro t ⟨call, hcall, -⟩
      exact absurd hcall (Table.not_mem_empty call)
  have hnext : ∀ s e s', Inv env settings d (stored env rows d) t₀ s →
      step env settings s e = some s' → Within env settings d t₀ e →
        Inv env settings d (stored env rows d) t₀ s' :=
    fun _ _ _ h hs hw => inv_step h hw hs
  have hinv := Run.exec_of_inv hnext hinit (.of_labels hwithin _) hrun
  have hpassed : passed env d s.calls = (sharing env d s).length := by
    rw [sharing, passed, List.countP_eq_length_filter]
    refine congrArg List.length (List.filter_congr fun call hcall => ?_)
    refine decide_eq_decide.mpr (and_iff_left_of_imp fun hd => ?_)
    exact hdone call (List.mem_filter.mpr ⟨hcall, decide_eq_true hd⟩)
  have hpos := List.length_pos_iff.mpr hsome
  rcases hinv.tally with ⟨hzero, -⟩ | ⟨-, row, first, -, hstored, ⟨call, hcall, hd, rfl⟩, hcount, -⟩
  · omega
  · refine ⟨row, Table.filter_pk_of_get? hstored, call, ?_, ?_⟩
    · exact List.mem_filter.mpr ⟨hcall, decide_eq_true hd⟩
    · rw [hcount, hpassed]

/-- Two calls that both find no row, and both insert one. -/
def raced : List (Int × Event) :=
  [(0, .start 1 "ada" none), (1, .start 2 "ada" none), (2, .select 1), (2, .select 2),
    (3, .insert 1), (4, .commit 1), (5, .insert 2), (5, .select 2), (6, .commit 2)]

theorem failures_all_counted_raced :
    ∃ s row, Run.exec (step .plain {}) { clock := 0, rows := ∅ } raced = some s ∧
      s.rows.rows.filter (fun row => row.dimensionHash = stateKey .plain
        ("id:" ++ digest .plain "ada")) = [row] ∧ row.attemptCount = 2 := by
  have hrun : (Run.exec (step .plain {}) { clock := 0, rows := ∅ } raced).any (fun s =>
      (sharing .plain ("id:" ++ digest .plain "ada") s).length = 2 ∧
        ∀ call ∈ sharing .plain ("id:" ++ digest .plain "ada") s,
          "id:" ++ digest .plain "ada" ∉ call.left) = true := by
    decide
  obtain ⟨s, hs, hshared⟩ := (Option.any_eq_true _ _).mp hrun
  obtain ⟨htwo, hdone⟩ := of_decide_eq_true hshared
  have hsome : sharing .plain ("id:" ++ digest .plain "ada") s ≠ [] := by
    intro hnil
    rw [hnil] at htwo
    cases htwo
  have hwithin : ∀ e ∈ raced, Within .plain {} ("id:" ++ digest .plain "ada") 0 e :=
    List.all_iff_forall_prop.mp (by decide)
  obtain ⟨row, hone, first, -, hcount⟩ := failures_all_counted hs hwithin hdone hsome
  refine ⟨s, row, hs, hone, ?_⟩
  rw [hcount, htwo]
  rfl

/-! ### No call is stuck

A call waits only for a row somebody else has.  Calls take the dimensions of their request one
at a time and let each go before the next, so nobody waits for somebody who waits.
-/

/-- While a call has something left, one of the calls can go on. -/
theorem some_call_goes_on (h : Inv env settings d before t₀ s) (hmem : call ∈ s.calls)
    (hleft : call.left ≠ []) :
    ∃ event, (step env settings s (s.clock, event)).isSome := by
  have hclock : ∀ event, step env settings s (s.clock, event) =
      s.move env settings s.clock event := fun event => if_pos (Int.le_refl s.clock)
  by_cases hheld : ∃ other ∈ s.calls, other.row? ≠ none
  · obtain ⟨other, hother, hrow⟩ := hheld
    obtain ⟨row, hrow⟩ := Option.ne_none_iff_exists'.mp hrow
    obtain ⟨dimension, left, hdimension, -⟩ := (h.calls other hother).row row hrow
    refine ⟨.commit other.id, ?_⟩
    have hget : s.calls.get? other.id = some other := Table.get?_of_mem hother
    rw [hclock, State.move, hget, Option.bind_some, State.commit, hrow, hdimension]
    rfl
  · -- nobody waits for anybody
    have hfree : ∀ hash, s.free call.id hash = true := by
      intro hash
      refine Locks.free_iff.mpr fun other hother _ hlock => ?_
      obtain ⟨row, hrow, -⟩ := mem_locks.mp hlock
      exact hheld ⟨other, hother, fun hnone => by rw [hnone] at hrow; cases hrow⟩
    have hget : s.calls.get? call.id = some call := Table.get?_of_mem hmem
    obtain ⟨dimension, left, hdimension⟩ := List.exists_cons_of_ne_nil hleft
    cases hstage : call.stage with
    | idle =>
        refine ⟨.select call.id, ?_⟩
        rw [hclock, State.move, hget, Option.bind_some, State.select, hstage, hdimension]
        dsimp only
        split
        · rfl
        · rw [if_pos (hfree _)]
          rfl
    | missed =>
        refine ⟨.insert call.id, ?_⟩
        rw [hclock, State.move, hget, Option.bind_some, State.insert, hstage, hdimension]
        dsimp only
        split
        · rfl
        · rw [if_pos (hfree _)]
          rfl
    | locked row =>
        refine absurd ⟨call, hmem, ?_⟩ hheld
        rw [Call.row?, hstage]
        exact Option.some_ne_none row
    | inserted row =>
        refine absurd ⟨call, hmem, ?_⟩ hheld
        rw [Call.row?, hstage]
        exact Option.some_ne_none row

/-! ### A call alone

Run by itself, a call takes its steps one after the other and comes to what the sequential
definition says.
-/

/-- A state with one call in progress. -/
def State.only (s : State) (call : Call) : State := { s with calls := {call} }

theorem goOn_only {stage : Stage} :
    (s.only call).goOn call.id stage = s.only { call with stage := stage } := by
  have hcalls : (s.only call).calls.modify call.id (fun call => { call with stage := stage })
      (fun _ => rfl) = {{ call with stage := stage }} :=
    Table.modify_singleton call (fun call => { call with stage := stage }) fun _ => rfl
  rw [State.goOn, hcalls]
  rfl

theorem step_only {event : Event} :
    step env settings (s.only call) (s.clock, event) =
      (s.only call).move env settings s.clock event :=
  if_pos (Int.le_refl s.clock)

theorem get?_only : (s.only call).calls.get? call.id = some call := Table.get?_singleton call

theorem free_only {hash : String} : (s.only call).free call.id hash = true :=
  Locks.free_singleton Call.locks call hash

theorem commit_only {row : LoginThrottleState} {dimension : String} {left : List String}
    (hrow : call.row? = some row) (hleft : call.left = dimension :: left) :
    step env settings (s.only call) (s.clock, .commit call.id) =
      some ((s.enter settings s.clock call dimension left row).only
        (call.next dimension left (failed settings call.now row).1)) := by
  have hcalls : (s.only call).calls.modify call.id
      (fun other => other.next dimension left (failed settings call.now row).1) (fun _ => rfl) =
        {call.next dimension left (failed settings call.now row).1} :=
    Table.modify_singleton call
      (fun other => other.next dimension left (failed settings call.now row).1) fun _ => rfl
  rw [step_only, State.move, get?_only, Option.bind_some, State.commit, hrow, hleft]
  exact congrArg (fun calls => some { s.enter settings s.clock call dimension left row with
    calls := calls }) hcalls

theorem select_only {dimension : String} {left : List String} (hstage : call.stage = .idle)
    (hleft : call.left = dimension :: left) :
    step env settings (s.only call) (s.clock, .select call.id) = some (s.only { call with
      stage := match stored env s.rows dimension with
        | none => .missed
        | some row => .locked row }) := by
  have hselect : (s.only call).select env call = match stored env s.rows dimension with
      | none => some ((s.only call).goOn call.id .missed)
      | some row =>
          if (s.only call).free call.id row.dimensionHash then
            some ((s.only call).goOn call.id (.locked row))
          else none := by
    rw [State.select, hstage, hleft]
    rfl
  rw [step_only, State.move, get?_only, Option.bind_some, hselect]
  cases stored env s.rows dimension with
  | none => exact congrArg some goOn_only
  | some row => exact (if_pos free_only).trans (congrArg some goOn_only)

theorem insert_only {dimension : String} {left : List String} (hstage : call.stage = .missed)
    (hleft : call.left = dimension :: left) (hstored : stored env s.rows dimension = none) :
    step env settings (s.only call) (s.clock, .insert call.id) = some (s.only { call with
      stage := .inserted {
        dimensionHash := stateKey env dimension
        expiresAt := call.now + window settings } }) := by
  have hinsert : (s.only call).insert env settings call =
      if (s.only call).free call.id (stateKey env dimension) then
        some ((s.only call).goOn call.id (.inserted {
          dimensionHash := stateKey env dimension
          expiresAt := call.now + window settings }))
      else none := by
    have hrows : (s.only call).rows.get? (stateKey env dimension) = none := hstored
    rw [State.insert, hstage, hleft]
    dsimp only
    rw [hrows]
  rw [step_only, State.move, get?_only, Option.bind_some, hinsert]
  exact (if_pos free_only).trans (congrArg some goOn_only)

/-- The transaction on one dimension, with the `INSERT` or without. -/
theorem turn_alone {dimension : String} {left : List String} (hstage : call.stage = .idle)
    (hleft : call.left = dimension :: left) :
    ∃ es row, (∀ e ∈ es, e.1 = s.clock) ∧
      Run.exec (step env settings) (s.only call) es =
        some ((s.enter settings s.clock call dimension left row).only
          (call.next dimension left (failed settings call.now row).1)) ∧
      row = (stored env s.rows dimension).getD
        { dimensionHash := stateKey env dimension, expiresAt := call.now + window settings } := by
  have hselect := @select_only env settings s call dimension left hstage hleft
  cases hstored : stored env s.rows dimension with
  | some row =>
      rw [hstored] at hselect
      refine ⟨[(s.clock, .select call.id), (s.clock, .commit call.id)], row, by simp, ?_, rfl⟩
      rw [Run.exec_cons, hselect, Option.bind_some, Run.exec_cons]
      exact congrArg (fun next => next.bind fun s => some s)
        (@commit_only env settings s { call with stage := .locked row } row dimension left rfl hleft)
  | none =>
      rw [hstored] at hselect
      have hinsert := @insert_only env settings s { call with stage := .missed } dimension left rfl
        hleft hstored
      refine ⟨[(s.clock, .select call.id), (s.clock, .insert call.id), (s.clock, .commit call.id)],
        _, by simp, ?_, rfl⟩
      rw [Run.exec_cons, hselect, Option.bind_some, Run.exec_cons, hinsert, Option.bind_some,
        Run.exec_cons]
      exact congrArg (fun next => next.bind fun s => some s)
        (@commit_only env settings s { call with stage := .inserted _ } _ dimension left rfl hleft)

theorem turns_alone {dimensions : List String} (hnodup : dimensions.Nodup)
    (hstage : call.stage = .idle) (hleft : call.left = dimensions) (hnow : call.now = s.clock) :
    ∃ (es : List (Int × Event)) (s' : State) (call' : Call), (∀ e ∈ es, e.1 = s.clock) ∧
      Run.exec (step env settings) (s.only call) es = some (s'.only call') ∧
      call'.left = [] ∧
      call'.longest = longestOf settings (fun d => counted s.clock (stored env s.rows d) + 1)
        dimensions call.longest ∧
      ∀ d, stored env s'.rows d =
        if d ∈ dimensions then some (saved env settings s.clock d (stored env s.rows d))
        else stored env s.rows d := by
  induction dimensions generalizing s call with
  | nil => exact ⟨[], s, call, by simp, rfl, hleft, rfl, fun d => by simp⟩
  | cons dimension left ih =>
      obtain ⟨hnew, hnodup⟩ := List.nodup_cons.mp hnodup
      obtain ⟨es, row, htimes, hturn, hrow⟩ := @turn_alone env settings s call dimension left hstage
        hleft
      obtain ⟨es', s', call', htimes', hturns, hleft', hlongest, hstored⟩ :=
        @ih (s.enter settings s.clock call dimension left row)
          (call.next dimension left (failed settings call.now row).1) hnodup rfl rfl hnow
      have hlock : (failed settings call.now row).1 =
          lockSeconds settings (counted s.clock (stored env s.rows dimension) + 1) := by
        rw [hrow, hnow]
        exact (failed_eq dimension _).1
      have hother : ∀ d, d ≠ dimension →
          stored env (s.enter settings s.clock call dimension left row).rows d =
            stored env s.rows d := by
        intro d hd
        rw [stored_enter hrow, if_neg hd]
      refine ⟨es ++ es', s', call', ?_, ?_, hleft', ?_, ?_⟩
      · intro e he
        rcases List.mem_append.mp he with he | he
        · exact htimes e he
        · exact htimes' e he
      · rw [Run.exec_append, hturn]
        exact hturns
      · rw [hlongest]
        show longestOf settings _ left (call.longest.next dimension _) =
          longestOf settings _ left (call.longest.next dimension _)
        rw [hlock]
        refine longestOf_congr (fun d hd => ?_) _
        have hne : d ≠ dimension := fun heq => hnew (heq ▸ hd)
        exact congrArg (fun row => counted s.clock row + 1) (hother d hne)
      · intro d
        rw [hstored]
        by_cases hd : d = dimension
        · subst hd
          rw [if_neg hnew, if_pos List.mem_cons_self, stored_enter hrow, if_pos rfl, hnow]
          rfl
        · rw [hother d hd]
          simp only [List.mem_cons, hd, false_or]
          rfl

/-- A call with nobody beside it is `_register_database_failure`. -/
theorem call_alone (hidle : s.calls = ∅) (hclock : s.clock ≤ now) (id : Nat) (identifier : String)
    (ipAddress : Option String) :
    let failure := registerDatabaseFailure env settings now s.rows
      (dimensions env identifier ipAddress)
    ∃ (es : List (Int × Event)) (s' : State) (call' : Call), (∀ e ∈ es, e.1 = now) ∧
      Run.exec (step env settings) s ((now, .start id identifier ipAddress) :: es) = some s' ∧
      s'.calls = {call'} ∧ call'.answer? = some failure.1 ∧
      ∀ d, stored env s'.rows d = stored env failure.2 d := by
  intro failure
  have hnodup := @nodup_dimensions env identifier ipAddress
  let call : Call := ⟨id, identifier, ipAddress, now, dimensions env identifier ipAddress, .idle, {}⟩
  let s₀ : State := { s with clock := now }
  have hstart : step env settings s (now, .start id identifier ipAddress) = some (s₀.only call) := by
    rw [step, if_pos hclock]
    show State.start env now s₀ id identifier ipAddress = _
    rw [State.start, show s₀.calls = ∅ from hidle, Table.insert?_empty]
    rfl
  obtain ⟨es, s', call', htimes, hturns, hleft, hlongest, hstored⟩ :=
    @turns_alone env settings s₀ call _ hnodup rfl rfl rfl
  refine ⟨es, s'.only call', call', htimes, ?_, rfl, ?_, ?_⟩
  · rw [Run.exec_cons, hstart]
    exact hturns
  · have hframe : ∀ d (rows : Table LoginThrottleState) d', d' ≠ d →
        counted now (stored env (databaseFailure env settings now d rows).2 d') + 1 =
          counted now (stored env rows d') + 1 := by
      intro d rows d' hne
      rw [stored_databaseFailure, if_neg hne]
    have hfailure := failures_fst (fun d rows => databaseFailure_fst d rows) hframe hnodup {} s.rows
    rw [Call.answer?, if_pos hleft, hlongest]
    exact congrArg some hfailure.symm
  · intro d
    exact (hstored d).trans (stored_failures hnodup {} s.rows d).symm

end FailureRaces

end DjangoFoundation
