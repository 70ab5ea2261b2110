/-
What the database's throttle rows hold after each operation on them.

A row belongs to one dimension, since hashing keeps dimensions apart, and the three
dimensions of a request differ.  So a failure rewrites exactly the rows of its three
dimensions, a reset removes exactly those, and a check reads nothing else.
-/
import DjangoFoundation.Authentication.Login

namespace DjangoFoundation

namespace LoginProtectionService

variable {env : Environment} {settings : LoginSettings} {now : Int}

/-! ### Dimensions

A dimension is hashed under a prefix for its kind, and the three of a request are of different
kinds.
-/

theorem stateKey_injective : Function.Injective (stateKey env) := by
  intro d d' h
  have htext : "login-protection:" ++ d = "login-protection:" ++ d' :=
    encode_injective (env.keyring.sha256_injective h)
  exact (String.append_right_inj _).mp htext

theorem id_ne_ip (a b : String) : "id:" ++ a ≠ "ip:" ++ b := by
  intro h
  have hlist := congrArg String.toList h
  simp [String.toList_append] at hlist

theorem id_ne_combo (a b : String) : "id:" ++ a ≠ "combo:" ++ b := by
  intro h
  have hlist := congrArg String.toList h
  simp [String.toList_append] at hlist

theorem ip_ne_combo (a b : String) : "ip:" ++ a ≠ "combo:" ++ b := by
  intro h
  have hlist := congrArg String.toList h
  simp [String.toList_append] at hlist

theorem nodup_dimensions (identifier : String) (ip : Option String) :
    (dimensions env identifier ip).Nodup := by
  simp only [dimensions, String.append_assoc, List.nodup_cons, List.mem_cons, List.not_mem_nil,
    or_false, not_or, not_false_eq_true, List.nodup_nil, and_true]
  exact ⟨⟨id_ne_ip _ _, id_ne_combo _ _⟩, ip_ne_combo _ _⟩

/-- An identifier's dimension is one of a request's where the digests agree. -/
theorem id_mem_dimensions {a identifier : String} {ip : Option String} :
    "id:" ++ a ∈ dimensions env identifier ip ↔ a = digest env identifier := by
  simp only [dimensions, String.append_assoc, List.mem_cons, List.not_mem_nil, or_false,
    id_ne_ip, id_ne_combo, or_false]
  exact String.append_right_inj _

/-! ### Rows

Each operation is described by what it makes of `stored`, the row of one dimension.  A failure
is one step of `saved` on its dimensions and nothing on others, and a reset takes the row away.
-/

variable (env) in
/-- The row of a dimension. -/
def stored (rows : Table LoginThrottleState) (dimension : String) : Option LoginThrottleState :=
  rows.get? (stateKey env dimension)

variable (env) in
/-- Until when a dimension is locked, now or once. -/
def lockedUntil (rows : Table LoginThrottleState) (dimension : String) : Option Int :=
  (stored env rows dimension).bind fun row => row.lockedUntil

variable (env settings now) in
/-- The row of a dimension after one more failure. -/
def saved (dimension : String) (row : Option LoginThrottleState) : LoginThrottleState :=
  (failed settings now
    (row.getD { dimensionHash := stateKey env dimension, expiresAt := now + window settings })).2

/-- The failures that still count for a dimension. -/
def counted (now : Int) : Option LoginThrottleState → Nat
  | none => 0
  | some row => if row.expiresAt ≤ now then 0 else row.attemptCount

/-- A failure, by the failures before it. -/
theorem failed_eq (d : String) (row : Option LoginThrottleState) :
    let n := lockSeconds settings (counted now row + 1)
    (failed settings now
      (row.getD { dimensionHash := stateKey env d, expiresAt := now + window settings })).1 = n ∧
    (saved env settings now d row).attemptCount = counted now row + 1 ∧
    (saved env settings now d row).lockedUntil =
      (if n ≠ 0 then some (now + seconds n) else none) ∧
    (saved env settings now d row).expiresAt = now + window settings := by
  cases row with
  | none =>
      simp only [saved, failed, counted, Option.getD_none]
      split <;> exact ⟨rfl, rfl, rfl, trivial⟩
  | some row =>
      simp only [saved, failed, counted, Option.getD_some]
      split <;> exact ⟨rfl, rfl, rfl, trivial⟩

theorem saved_attemptCount (d : String) (row : Option LoginThrottleState) :
    (saved env settings now d row).attemptCount = counted now row + 1 :=
  (failed_eq d row).2.1

theorem saved_lockedUntil (d : String) (row : Option LoginThrottleState) :
    (saved env settings now d row).lockedUntil =
      if lockSeconds settings (counted now row + 1) ≠ 0 then
        some (now + seconds (lockSeconds settings (counted now row + 1)))
      else none :=
  (failed_eq d row).2.2.1

theorem saved_expiresAt (d : String) (row : Option LoginThrottleState) :
    (saved env settings now d row).expiresAt = now + window settings :=
  (failed_eq d row).2.2.2

theorem failed_dimensionHash (state : LoginThrottleState) :
    (failed settings now state).2.dimensionHash = state.dimensionHash := by
  show (if state.expiresAt ≤ now then
    { state with attemptCount := 0, lockedUntil := none } else state).dimensionHash = _
  split <;> rfl

theorem stored_databaseFailure (rows : Table LoginThrottleState) (d d' : String) :
    stored env (databaseFailure env settings now d rows).2 d' =
      if d' = d then some (saved env settings now d (stored env rows d))
      else stored env rows d' := by
  have hpk : ∀ row : LoginThrottleState, Keyed.pk row = row.dimensionHash := fun _ => rfl
  simp only [stored, databaseFailure, Table.get?_modify, Table.get?_ensure, hpk]
  by_cases hd : d' = d
  · subst hd
    simp only [if_pos, Option.map_some, saved]
    rw [← failed_dimensionHash]
  · have hne : stateKey env d' ≠ stateKey env d := fun h => hd (stateKey_injective h)
    rw [if_neg hne, if_neg (Ne.symm hne), if_neg hd]

/-- A failure rewrites the rows of its dimensions. -/
theorem stored_failures {dimensions : List String} (hnodup : dimensions.Nodup) (l : Longest)
    (rows : Table LoginThrottleState) (d : String) :
    stored env (failures (databaseFailure env settings now) dimensions l rows).2 d =
      if d ∈ dimensions then some (saved env settings now d (stored env rows d))
      else stored env rows d := by
  induction dimensions generalizing l rows with
  | nil => simp [failures]
  | cons d₀ ds ih =>
      obtain ⟨hnew, hds⟩ := List.nodup_cons.mp hnodup
      rw [failures, ih hds, stored_databaseFailure]
      by_cases hd : d = d₀
      · subst hd
        rw [if_neg hnew, if_pos rfl, if_pos List.mem_cons_self]
      · simp only [hd, if_false, List.mem_cons, false_or]

variable (env settings) in
/-- The counters and the locks of some dimensions are gone. -/
def cleared (p : Protection) (dimensions : List String) : Protection :=
  if settings.redisEnabled then
    { p with cache := p.cache.deleteMany (dimensions.map attemptsKey ++ dimensions.map lockKey) }
  else
    let hashes := dimensions.map (stateKey env)
    { p with rows := p.rows.delete fun row => row.dimensionHash ∈ hashes }

theorem stored_cleared (hdb : settings.redisEnabled = false) (p : Protection)
    (dimensions : List String) (d : String) :
    stored env (cleared env settings p dimensions).rows d =
      if d ∈ dimensions then none else stored env p.rows d := by
  have hmem : stateKey env d ∈ dimensions.map (stateKey env) ↔ d ∈ dimensions := by
    rw [List.mem_map]
    constructor
    · intro ⟨d', hd', hkey⟩
      exact stateKey_injective hkey ▸ hd'
    · intro hd
      exact ⟨d, hd, rfl⟩
  simp only [stored, cleared, hdb, Bool.false_eq_true, if_false, Table.get?_delete]
  cases hrow : p.rows.get? (stateKey env d) with
  | none => simp
  | some row =>
      have hhash : row.dimensionHash = stateKey env d := Table.pk_of_get? hrow
      simp only [Option.filter_some, hhash, hmem]
      by_cases hd : d ∈ dimensions <;> simp [hd]

theorem stored_reset (hdb : settings.redisEnabled = false) (p : Protection) (identifier : String)
    (ip : Option String) (d : String) :
    stored env (reset env settings p identifier ip).rows d =
      if d ∈ dimensions env identifier ip then none else stored env p.rows d :=
  stored_cleared hdb p (dimensions env identifier ip) d

theorem stored_registerFailure (hdb : settings.redisEnabled = false) (p : Protection)
    (identifier : String) (ip : Option String) (d : String) :
    stored env (registerFailure env settings now p identifier ip).2.rows d =
      if d ∈ dimensions env identifier ip then
        some (saved env settings now d (stored env p.rows d))
      else stored env p.rows d := by
  simp only [registerFailure, hdb, Bool.false_eq_true, if_false]
  exact stored_failures (nodup_dimensions identifier ip) {} p.rows d

theorem stored_cleanup (p : Protection) (d : String) :
    stored env (cleanupLoginAttempts now p).rows d =
      (stored env p.rows d).filter fun row => now ≤ row.expiresAt := by
  simp only [stored, cleanupLoginAttempts, Table.get?_delete]
  congr 1
  funext row
  rw [← decide_not, decide_eq_decide]
  omega

/-! ### Locks -/

/-- The largest of what some values come to is within a bound where each of them is. -/
theorem foldl_max_le_iff (f : Int → Int) (l : List Int) (r m : Int) :
    l.foldl (fun r t => max r (max 1 (f t))) r ≤ m ↔ r ≤ m ∧ ∀ t ∈ l, max 1 (f t) ≤ m := by
  induction l generalizing r with
  | nil => simp
  | cons t l ih =>
      simp only [List.foldl_cons, List.forall_mem_cons]
      rw [ih, Int.max_le, and_assoc]

/-- The locks a check finds are those of its dimensions that are to come. -/
theorem mem_lockedUntilValues {rows : Table LoginThrottleState} {dimensions : List String}
    {t : Int} : t ∈ lockedUntilValues env now rows dimensions ↔
      ∃ d ∈ dimensions, lockedUntil env rows d = some t ∧ now < t := by
  simp only [lockedUntilValues, List.mem_filterMap, Table.mem_rows, List.mem_map]
  constructor
  · intro h'
    obtain ⟨row, hrow, hval⟩ := h'
    by_cases hhash : ∃ d ∈ dimensions, stateKey env d = row.dimensionHash
    · rw [if_pos hhash, Option.filter_eq_some_iff, decide_eq_true_eq] at hval
      obtain ⟨d, hd, hkey⟩ := hhash
      have hget : rows.get? (stateKey env d) = some row := Table.get?_eq_some.mpr ⟨hrow, hkey.symm⟩
      refine ⟨d, hd, ?_, hval.2⟩
      rw [lockedUntil, stored, hget]
      exact hval.1
    · rw [if_neg hhash] at hval
      cases hval
  · intro h'
    obtain ⟨d, hd, ht, hlt⟩ := h'
    obtain ⟨row, hrow, hlocked⟩ := Option.bind_eq_some_iff.mp ht
    obtain ⟨hmem, hkey⟩ := Table.get?_eq_some.mp hrow
    refine ⟨row, hmem, ?_⟩
    rw [if_pos ⟨d, hd, hkey.symm⟩, Option.filter_eq_some_iff, decide_eq_true_eq]
    exact ⟨hlocked, hlt⟩

/-- A check finds a lock where a dimension is locked for longer than now. -/
theorem checkDatabase_locked {rows : Table LoginThrottleState} {dimensions : List String} :
    (checkDatabase env now rows dimensions).locked = true ↔
      ∃ d ∈ dimensions, ∃ t, lockedUntil env rows d = some t ∧ now < t := by
  have hvalues : (checkDatabase env now rows dimensions).locked = true ↔
      ∃ t, t ∈ lockedUntilValues env now rows dimensions := by
    have hle := foldl_max_le_iff (fun t => (t - now) / 1000000)
      (lockedUntilValues env now rows dimensions) 0 0
    simp only [checkDatabase, ne_eq, decide_not, Bool.not_eq_true', decide_eq_false_iff_not]
    cases hl : lockedUntilValues env now rows dimensions with
    | nil => simp
    | cons t l =>
        rw [hl] at hle
        constructor
        · intro _
          exact ⟨t, List.mem_cons_self⟩
        · intro _ hzero
          have hone := (hle.mp (Int.le_of_eq hzero)).2 t List.mem_cons_self
          omega
  rw [hvalues]
  simp only [mem_lockedUntilValues]
  constructor
  · intro h'
    obtain ⟨t, d, hd, ht⟩ := h'
    exact ⟨d, hd, t, ht⟩
  · intro h'
    obtain ⟨d, hd, t, ht⟩ := h'
    exact ⟨t, d, hd, ht⟩

theorem check_locked (hdb : settings.redisEnabled = false) {p : Protection} {identifier : String}
    {ip : Option String} : (check env settings now p identifier ip).locked = true ↔
      ∃ d ∈ dimensions env identifier ip, ∃ t, lockedUntil env p.rows d = some t ∧ now < t := by
  simp only [check, hdb, Bool.false_eq_true, if_false]
  exact checkDatabase_locked

theorem lockSeconds_le (attempts : Nat) (h : lockSeconds settings attempts ≠ 0) :
    lockSeconds settings attempts ≤ settings.loginMaxBackoffSeconds := by
  unfold lockSeconds at h ⊢
  split
  · rename_i hlt
    rw [if_pos hlt] at h
    exact absurd rfl h
  · exact Int.min_le_right _ _

end LoginProtectionService

end DjangoFoundation
