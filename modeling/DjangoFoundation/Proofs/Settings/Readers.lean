/-
What readers of settings see of the two ways to write them.

`RuntimeSettingService.set` deletes the entries of its key, `SettingViewSet` deletes nothing.  A
write through the latter shows at once only where the cache has no entry for the row it
changes, or one that is what it now says; where that is so the two ways cannot be told apart.

A request writes past the cache, and what the cache has is served until it runs out or is given
up.  So whether a reader is told an old value is decided by what was asked before the write,
and the condition looks at the cache at that moment.  `closed_by_request_read_as_open` is the
case with a consequence: registration is closed, and stays open for those who come within the
five minutes.
-/
import DjangoFoundation.Api.Settings

namespace DjangoFoundation

namespace SettingWrites

open RuntimeSettingService

variable {s s' : State} {e : Int × Event} {store : Store} {rows rows' : Table Setting} {now : Int}
  {key : String} {publicOnly : Bool} {default value : Json}

/-! ### Statement

A write is current if every reader of the row is told what it now says.  It is a statement
about readers who have not asked yet, so it is made for all of them.
-/

/-- `get` returns what the rows have for the reader, and after a write it would do so for every
reader of a row that is written. -/
def Current (s : State) (e : Int × Event) (s' : State) : Prop :=
  (∀ key default publicOnly, e.2 = .get key default publicOnly →
    (get e.1 s.store key default publicOnly).1 = read s.store.rows key publicOnly default) ∧
  ∀ key ∈ touched s.store.rows s'.store.rows, ∀ publicOnly default,
    (get e.1 s'.store key default publicOnly).1 = read s'.store.rows key publicOnly default

/-- A request to `SettingViewSet` leaves no other value of a row it writes in the cache, and no
value of one that is gone or no longer public; and where the row is not there for a reader the
cache has no default of another's. -/
def Settled (s : State) (e : Int × Event) (s' : State) : Prop :=
  match e.2 with
  | .get key default publicOnly => visible s.store.rows key publicOnly = none →
      ∀ value ∈ cached s.store.cache e.1 key publicOnly, value = default
  | .setByRequest _ _ | .send _ => ∀ key ∈ touched s.store.rows s'.store.rows, ∀ publicOnly,
      ∀ value ∈ cached s.store.cache e.1 key publicOnly,
        visible s'.store.rows key publicOnly = some value
  | .set _ _ | .evict _ => True

instance (s : State) (e : Int × Event) (s' : State) : Decidable (Settled s e s') := by
  unfold Settled
  split <;> infer_instance

/-- One step may be the other with a `set` replaced by the equivalent request. -/
inductive Replaced : Int × Event → Int × Event → Prop
  | same (e : Int × Event) : Replaced e e
  | set (now : Int) (pk : UUID) (args : Args) :
      Replaced (now, .set pk args) (now, .setByRequest pk args)

/-- What the cache has for a reader of a row is what the row says. -/
def Coherent (s : State) : Prop :=
  ∀ key publicOnly, ∀ value ∈ cached s.store.cache s.clock key publicOnly,
    Agrees s.store.rows key publicOnly value

/-! ### Readers

Those who ask for public rows only have a cache key of their own.  A row is touched where the
two tables differ under its key, and for any other row no reader sees a difference.
-/

theorem mem_touched : key ∈ touched rows rows' ↔ rows.get? key ≠ rows'.get? key := by
  simp only [touched, List.mem_filter, decide_eq_true_eq, and_iff_right_iff_imp]
  intro hne
  rw [List.map_append, List.mem_append]
  cases hget : rows.get? key with
  | some row => exact Or.inl (List.mem_map.mpr ⟨row, Table.mem_of_get? hget, Table.pk_of_get? hget⟩)
  | none =>
      cases hget' : rows'.get? key with
      | some row =>
          exact Or.inr (List.mem_map.mpr ⟨row, Table.mem_of_get? hget', Table.pk_of_get? hget'⟩)
      | none => exact absurd (hget.trans hget'.symm) hne

theorem visible_of_not_touched (h : key ∉ touched rows rows') :
    visible rows' key publicOnly = visible rows key publicOnly := by
  rw [mem_touched, not_not] at h
  rw [visible, visible, h]

theorem get_eq_read_iff :
    (get now store key default publicOnly).1 = read store.rows key publicOnly default ↔
      ∀ value ∈ cached store.cache now key publicOnly,
        value = read store.rows key publicOnly default := by
  unfold RuntimeSettingService.get
  cases cached store.cache now key publicOnly with
  | none => simp
  | some value => simp

/-- A reader of the row gets it from the cache, whatever its default. -/
theorem get_eq_read_all_iff :
    (∀ default, (get now store key default publicOnly).1 =
        read store.rows key publicOnly default) ↔
      ∀ value ∈ cached store.cache now key publicOnly,
        visible store.rows key publicOnly = some value := by
  simp only [get_eq_read_iff]
  constructor
  · intro hall value hvalue
    have hread := hall .null value hvalue
    unfold RuntimeSettingService.read at hread
    cases hvisible : visible store.rows key publicOnly with
    | some current =>
        rw [hvisible, Option.getD_some] at hread
        rw [hread]
    | none =>
        -- an entry is not null, so it is not everybody's default
        rw [hvisible, Option.getD_none] at hread
        have hnull := (Option.filter_eq_some_iff.mp hvalue).2
        rw [hread] at hnull
        exact absurd rfl (of_decide_eq_true hnull)
  · intro hall default value hvalue
    rw [RuntimeSettingService.read, hall value hvalue, Option.getD_some]

theorem touched_self (rows : Table Setting) : touched rows rows = [] :=
  List.eq_nil_iff_forall_not_mem.mpr fun _ hkey => mem_touched.mp hkey rfl

/-! ### What each step writes

`set` goes by the key, a request by the id.  Both write at most one row.
-/

theorem rows_get (now : Int) (s : Store) (key : String) (default : Json) (publicOnly : Bool) :
    (get now s key default publicOnly).2.rows = s.rows := by
  unfold RuntimeSettingService.get
  split
  · rfl
  · rfl

/-- The row `set` writes, of one it found under the key. -/
theorem row_key (args : Args) (pk : UUID) (now : Int) (rows : Table Setting) :
    (args.row (rows.get? args.key) pk now).key = args.key := by
  cases hfound : rows.get? args.key with
  | none => rfl
  | some row => exact Table.pk_of_get? hfound

/-- `set` writes nothing, or one row, and then it has deleted its entries. -/
theorem set_cases (now : Int) (s : Store) (pk : UUID) (args : Args) :
    (Event.set pk args).run now s = s ∨
      (Event.set pk args).run now s =
        { rows := s.rows.put (args.row (s.rows.get? args.key) pk now)
          cache := clear s.cache args.key } := by
  simp only [Event.run, RuntimeSettingService.set]
  split
  · exact Or.inl rfl
  · rename_i store hset
    split at hset
    · cases hset
    · cases hset
      exact Or.inr rfl

/-! ### One step

Whether a step is current depends on what the cache has for the rows it writes, and on nothing
else.
-/

theorem step_eq_some (h : step s e = some s') :
    s.clock ≤ e.1 ∧ e.2.fresh s.store.rows = true ∧
      s' = { clock := e.1, store := e.2.run e.1 s.store } := by
  unfold step at h
  split at h
  · rename_i hfires
    cases h
    exact ⟨hfires.1, hfires.2, rfl⟩
  · cases h

/-- Where no row is written a step is current if its answer is. -/
theorem current_iff_of_rows (hrows : s'.store.rows = s.store.rows) :
    Current s e s' ↔ ∀ key default publicOnly, e.2 = .get key default publicOnly →
      (get e.1 s.store key default publicOnly).1 = read s.store.rows key publicOnly default := by
  unfold Current
  rw [hrows, touched_self]
  exact and_iff_left fun key hkey => absurd hkey List.not_mem_nil

theorem current_get_iff (h : Coherent s) (hclock : s.clock ≤ now) :
    (get now s.store key default publicOnly).1 = read s.store.rows key publicOnly default ↔
      (visible s.store.rows key publicOnly = none →
        ∀ value ∈ cached s.store.cache now key publicOnly, value = default) := by
  rw [get_eq_read_iff]
  unfold RuntimeSettingService.read
  cases hvisible : visible s.store.rows key publicOnly with
  | none => simp
  | some current =>
      refine iff_of_true ?_ (fun hnone => by cases hnone)
      intro value hvalue
      exact h key publicOnly value (cached_of_le hclock hvalue) current hvisible

/-- A request is current if what the cache has of the rows it writes is what they now say. -/
theorem current_request_iff (hcache : s'.store.cache = s.store.cache)
    (hevent : ∀ key default publicOnly, e.2 ≠ .get key default publicOnly) :
    Current s e s' ↔ ∀ key ∈ touched s.store.rows s'.store.rows, ∀ publicOnly,
      ∀ value ∈ cached s.store.cache e.1 key publicOnly,
        visible s'.store.rows key publicOnly = some value := by
  unfold Current
  rw [and_iff_right fun key default publicOnly h => absurd h (hevent key default publicOnly)]
  simp only [get_eq_read_all_iff, hcache]

theorem current_set (now : Int) (s : State) (pk : UUID) (args : Args) :
    Current s (now, .set pk args) { clock := now, store := (Event.set pk args).run now s.store } := by
  have hget : ∀ key default publicOnly, Event.set pk args ≠ .get key default publicOnly := by
    intro key default publicOnly h
    cases h
  rcases set_cases now s.store pk args with hsame | hset
  · rw [current_iff_of_rows (by rw [hsame])]
    exact fun key default publicOnly h => absurd h (hget key default publicOnly)
  · refine ⟨fun key default publicOnly h => absurd h (hget key default publicOnly), ?_⟩
    intro key hkey publicOnly
    rw [get_eq_read_all_iff, hset]
    intro value hvalue
    dsimp only at hvalue
    rw [cached_clear] at hvalue
    split at hvalue
    · cases hvalue
    · -- no other row is written
      rename_i hother
      rw [hset, mem_touched] at hkey
      dsimp only at hkey
      rw [get?_put, row_key, if_neg (Ne.symm hother)] at hkey
      exact absurd rfl hkey

/-- **One step.** -/
theorem current_step_iff (h : Coherent s) (hs : step s e = some s') :
    Current s e s' ↔ Settled s e s' := by
  obtain ⟨now, event⟩ := e
  obtain ⟨hclock, -, rfl⟩ := step_eq_some hs
  cases event with
  | get key default publicOnly =>
      rw [current_iff_of_rows (rows_get now s.store key default publicOnly)]
      unfold Settled
      dsimp only
      rw [← current_get_iff h hclock]
      constructor
      · intro hget
        exact hget key default publicOnly rfl
      · rintro hget _ _ _ ⟨⟩
        exact hget
  | set pk args => exact iff_of_true (current_set now s pk args) trivial
  | setByRequest pk args =>
      exact current_request_iff rfl fun _ _ _ h => by cases h
  | send request =>
      exact current_request_iff rfl fun _ _ _ h => by cases h
  | evict cacheKey =>
      refine iff_of_true ?_ trivial
      rw [current_iff_of_rows (by rfl)]
      intro key default publicOnly h
      cases h

/-- What the cache has after an event it had before, or the event read it in the rows. -/
theorem cached_run (event : Event) (s : Store)
    (h : value ∈ cached (event.run now s).cache now key publicOnly) :
    value ∈ cached s.cache now key publicOnly ∨
      ∃ default, value = read s.rows key publicOnly default := by
  cases event with
  | get other default publicOnly' =>
      simp only [Event.run, RuntimeSettingService.get] at h
      split at h
      · exact Or.inl h
      · rw [cached_fill] at h
        split at h
        · rename_i hsame
          split at h
          · cases h
            exact Or.inr ⟨default, by rw [hsame.1, hsame.2]⟩
          · cases h
        · exact Or.inl h
  | set pk args =>
      rcases set_cases now s pk args with hsame | hset
      · rw [hsame] at h
        exact Or.inl h
      · rw [hset, cached_clear] at h
        split at h
        · cases h
        · exact Or.inl h
  | setByRequest pk args => exact Or.inl h
  | send request => exact Or.inl h
  | evict cacheKey => exact Or.inl (cached_of_delete h)

/-- A step that is current keeps the cache and the rows together. -/
theorem coherent_step (h : Coherent s) (hs : step s e = some s') (hcurrent : Current s e s') :
    Coherent s' := by
  obtain ⟨hclock, -, rfl⟩ := step_eq_some hs
  intro key publicOnly value hvalue
  by_cases hkey : key ∈ touched s.store.rows (e.2.run e.1 s.store).rows
  · intro current hvisible
    have hall := get_eq_read_all_iff.mp (hcurrent.2 key hkey publicOnly) value hvalue
    exact Option.some.inj (hall.symm.trans hvisible)
  · intro current hvisible
    rw [Option.mem_def, visible_of_not_touched hkey] at hvisible
    rcases cached_run e.2 s.store hvalue with hold | ⟨default, rfl⟩
    · exact h key publicOnly value (cached_of_le hclock hold) current hvisible
    · exact agrees_read s.store.rows key publicOnly default current hvisible

/-! ### The two ways

From one place a `set` and the equivalent request come to the same rows.  `Together` keeps two
such runs at one place, with caches that may differ in what they have and not in what they say.
-/

/-- `id` is the primary key. -/
def UniqueIds (rows : Table Setting) : Prop :=
  ∀ a ∈ rows, ∀ b ∈ rows, a.pk = b.pk → a = b

theorem find?_of_mem (h : UniqueIds rows) {row : Setting} (hrow : row ∈ rows) :
    SettingViewSet.find? rows row.pk = some row := by
  cases hfind : SettingViewSet.find? rows row.pk with
  | none =>
      have hno := List.find?_eq_none.mp hfind row hrow
      simp at hno
  | some other =>
      have hpk : other.pk = row.pk := by simpa using List.find?_some hfind
      rw [h other (List.mem_of_find?_eq_some hfind) row hrow hpk]

theorem UniqueIds.erase (h : UniqueIds rows) (key : String) : UniqueIds (rows.erase key) :=
  fun a ha b hb => h a (Table.mem_erase.mp ha).1 b (Table.mem_erase.mp hb).1

theorem UniqueIds.put (h : UniqueIds rows) {row : Setting}
    (hfree : ∀ other ∈ rows, other.pk = row.pk → other.key = row.key) :
    UniqueIds (rows.put row) := by
  intro a ha b hb hpk
  rcases Table.mem_put.mp ha with harow | ⟨ha, hakey⟩
  · rcases Table.mem_put.mp hb with hbrow | ⟨hb, hbkey⟩
    · rw [harow, hbrow]
    · exact absurd (hfree b hb (harow ▸ hpk.symm)) hbkey
  · rcases Table.mem_put.mp hb with hbrow | ⟨hb, hbkey⟩
    · exact absurd (hfree a ha (hbrow ▸ hpk)) hakey
    · exact h a ha b hb hpk

theorem rows_set (now : Int) (s : Store) (pk : UUID) (args : Args) :
    ((Event.set pk args).run now s).rows =
      if (args.row (s.rows.get? args.key) pk now).allErrors s.rows ≠ [] then s.rows
      else s.rows.put (args.row (s.rows.get? args.key) pk now) := by
  simp only [Event.run, RuntimeSettingService.set]
  by_cases herrors : (args.row (s.rows.get? args.key) pk now).allErrors s.rows = []
  · simp [herrors]
  · simp [herrors]

/-- A request leaves the rows, takes one out, or puts in one whose id no other row has. -/
theorem uniqueIds_request (h : UniqueIds rows) {request : SettingViewSet.Request}
    (hfresh : (Event.send request).fresh rows = true) :
    UniqueIds (request.run now rows).2 := by
  cases request with
  | create pk attrs =>
      have hfree : ∀ other ∈ rows, other.pk ≠ pk := by
        intro other hother hpk
        rw [Event.fresh, ← hpk, find?_of_mem h hother] at hfresh
        cases hfresh
      simp only [SettingViewSet.Request.run, SettingViewSet.create]
      split
      · exact h
      · split
        · exact h
        · exact h.put fun other hother hpk => absurd hpk (hfree other hother)
  | update pk attrs isPartial =>
      simp only [SettingViewSet.Request.run, SettingViewSet.update]
      split
      · exact h
      · rename_i old hold
        split
        · exact h
        · split
          · exact h
          · refine (h.erase old.key).put ?_
            intro other hother hpk
            obtain ⟨hmem, hkey⟩ := Table.mem_erase.mp hother
            exact absurd (congrArg Setting.key (h other hmem old (List.mem_of_find?_eq_some hold)
              hpk)) hkey
  | destroy pk =>
      simp only [SettingViewSet.Request.run, SettingViewSet.destroy]
      split
      · exact h
      · rename_i old _
        exact h.erase old.key

/-- What `set` finds wrong with its row is what the serializer would. -/
theorem allErrors_row (args : Args) (pk : UUID) (now : Int) (rows : Table Setting) :
    (args.row (rows.get? args.key) pk now).allErrors rows =
      (args.row (rows.get? args.key) pk now).errors := by
  have hunique : Setting.uniqueErrors rows (args.row (rows.get? args.key) pk now) = [] := by
    unfold Setting.uniqueErrors
    rw [row_key]
    cases hfound : rows.get? args.key with
    | none => rfl
    | some row => simp [Args.row]
  rw [Setting.allErrors, hunique, ite_self, List.append_nil]

/-- **The equivalent request writes the row `set` writes.** -/
theorem rows_equivalent (h : UniqueIds rows) (now : Int) (pk : UUID) (args : Args) :
    ((SettingViewSet.equivalent rows pk args).run now rows).2 =
      if (args.row (rows.get? args.key) pk now).allErrors rows ≠ [] then rows
      else rows.put (args.row (rows.get? args.key) pk now) := by
  rw [allErrors_row]
  unfold SettingViewSet.equivalent
  cases hfound : rows.get? args.key with
  | none =>
      have hrow : (SettingViewSet.Attrs.onto
          { key := some args.key, value := some args.value, valueType := some args.valueType,
            group := args.group, isPublic := args.isPublic, description := args.description }
          { pk := pk, key := "", value := .null, createdAt := now, updatedAt := now } : Setting) =
            args.row none pk now := rfl
      have herrors : SettingViewSet.errors rows (args.row none pk now) =
          (args.row none pk now).errors := by
        rw [SettingViewSet.errors, show (args.row none pk now).key = args.key from rfl, hfound]
        rfl
      simp only [SettingViewSet.Request.run, SettingViewSet.create, hrow, herrors]
      rw [if_neg (by simp [SettingViewSet.Attrs.missing])]
      split
      · rfl
      · rfl
  | some old =>
      have hfind := find?_of_mem h (Table.mem_of_get? hfound)
      have hkey : old.key = args.key := Table.pk_of_get? hfound
      have hrow : ({ SettingViewSet.Attrs.onto
          { value := some args.value, valueType := some args.valueType, group := args.group,
            isPublic := args.isPublic, description := args.description } old with
          updatedAt := now } : Setting) = args.row (some old) pk now := rfl
      have herrors : SettingViewSet.errors rows (args.row (some old) pk now) =
          (args.row (some old) pk now).errors := by
        rw [SettingViewSet.errors, show (args.row (some old) pk now).key = old.key from rfl, hkey,
          hfound]
        simp [Args.row]
      have hput : (rows.erase old.key).put (args.row (some old) pk now) =
          rows.put (args.row (some old) pk now) :=
        Table.put_erase rows (args.row (some old) pk now)
      simp only [SettingViewSet.Request.run, SettingViewSet.update, hfind, hrow, herrors]
      rw [if_neg (by simp)]
      split
      · rfl
      · exact hput

/-- A step keeps ids unique. -/
theorem uniqueIds_run (h : UniqueIds rows) {event : Event} {s : Store} (hrows : s.rows = rows)
    (hfresh : event.fresh rows = true) : UniqueIds (event.run now s).rows := by
  subst hrows
  have hset : ∀ pk args, (Event.set pk args).fresh s.rows = true →
      UniqueIds (if (args.row (s.rows.get? args.key) pk now).allErrors s.rows ≠ [] then s.rows
        else s.rows.put (args.row (s.rows.get? args.key) pk now)) := by
    intro pk args hfresh
    split
    · exact h
    · refine h.put ?_
      intro other hother hpk
      cases hfound : s.rows.get? args.key with
      | none =>
          -- a new row, whose id is fresh
          rw [hfound] at hpk
          have hpk : other.pk = pk := hpk
          rw [Event.fresh, ← hpk, find?_of_mem h hother] at hfresh
          cases hfresh
      | some old =>
          rw [hfound] at hpk
          have hsame : other = old := h other hother old (Table.mem_of_get? hfound) hpk
          rw [hsame]
          rfl
  cases event with
  | get key default publicOnly =>
      rw [Event.run, rows_get]
      exact h
  | set pk args =>
      rw [rows_set]
      exact hset pk args hfresh
  | setByRequest pk args =>
      show UniqueIds ((SettingViewSet.equivalent s.rows pk args).run now s.rows).2
      rw [rows_equivalent h]
      exact hset pk args hfresh
  | send request => exact uniqueIds_request h hfresh
  | evict cacheKey => exact h

/-- Two runs at one place, each with a cache that agrees with the rows. -/
structure Together (s s' : State) : Prop where
  clock : s'.clock = s.clock
  rows : s'.store.rows = s.store.rows
  unique : UniqueIds s.store.rows
  fst : Coherent s
  snd : Coherent s'

theorem rows_run_congr {event : Event} {s t : Store} (h : t.rows = s.rows) :
    (event.run now t).rows = (event.run now s).rows := by
  cases event with
  | get key default publicOnly => rw [Event.run, Event.run, rows_get, rows_get, h]
  | set pk args => rw [rows_set, rows_set, h]
  | setByRequest pk args => rw [Event.run, Event.run, h]
  | send request => rw [Event.run, Event.run, h]
  | evict cacheKey => exact h

theorem rows_replaced {e e' : Int × Event} (h : Replaced e e') {s t : Store}
    (hunique : UniqueIds s.rows) (hrows : t.rows = s.rows) :
    (e'.2.run e'.1 t).rows = (e.2.run e.1 s).rows := by
  cases h with
  | same e => exact rows_run_congr hrows
  | set now pk args =>
      have hcongr : ((Event.setByRequest pk args).run now t).rows =
          ((Event.setByRequest pk args).run now s).rows := rows_run_congr hrows
      rw [hcongr, rows_set]
      exact rows_equivalent hunique now pk args

theorem fresh_replaced {e e' : Int × Event} (h : Replaced e e') (rows : Table Setting) :
    e'.1 = e.1 ∧ e'.2.fresh rows = e.2.fresh rows := by
  cases h with
  | same e => exact ⟨rfl, rfl⟩
  | set now pk args => exact ⟨rfl, rfl⟩

theorem together_fires {s s' : State} {e e' : Int × Event} (h : Together s s')
    (he : Replaced e e') : (step s e).isSome = (step s' e').isSome := by
  obtain ⟨htime, hfresh⟩ := fresh_replaced he s.store.rows
  unfold step
  rw [h.clock, h.rows, htime, hfresh]
  split
  · rfl
  · rfl

/-- What is answered in a current step is what the rows have. -/
theorem answer?_replaced {s s' t t' : State} {e e' : Int × Event} (h : Together s s')
    (he : Replaced e e') (hcurrent : Current s e t) (hcurrent' : Current s' e' t') :
    answer? s e = answer? s' e' := by
  cases he with
  | set now pk args => rfl
  | same e =>
      obtain ⟨now, event⟩ := e
      cases event with
      | get key default publicOnly =>
          have hread := hcurrent.1 key default publicOnly rfl
          have hread' := hcurrent'.1 key default publicOnly rfl
          rw [h.rows] at hread'
          exact congrArg some (hread.trans hread'.symm)
      | set pk args => rfl
      | setByRequest pk args => rfl
      | send request => rfl
      | evict cacheKey => rfl

theorem together_step {s s' t t' : State} {e e' : Int × Event} (h : Together s s')
    (he : Replaced e e') (ht : step s e = some t) (ht' : step s' e' = some t')
    (hsettled : Settled s e t) (hsettled' : Settled s' e' t') :
    answer? s e = answer? s' e' ∧ Together t t' := by
  have hcurrent := (current_step_iff h.fst ht).mpr hsettled
  have hcurrent' := (current_step_iff h.snd ht').mpr hsettled'
  refine ⟨answer?_replaced h he hcurrent hcurrent', ?_⟩
  have hfst := coherent_step h.fst ht hcurrent
  have hsnd := coherent_step h.snd ht' hcurrent'
  obtain ⟨-, hfresh, rfl⟩ := step_eq_some ht
  obtain ⟨-, -, rfl⟩ := step_eq_some ht'
  exact ⟨(fresh_replaced he s.store.rows).1, rows_replaced he h.unique h.rows,
    uniqueIds_run h.unique rfl hfresh, hfst, hsnd⟩

/-! ### Runs

The first half is the step, repeated.  The second is a simulation between two settled runs.
-/

def State.start (clock : Int) (rows : Table Setting) : State :=
  { clock := clock, store := { rows := rows } }

theorem coherent_start (clock : Int) (rows : Table Setting) : Coherent (.start clock rows) :=
  fun _ _ _ hvalue => by cases hvalue

/-- **Readers see every write at once** in a run that is settled throughout, and in no other;
and two settled runs that differ in the way `set` is made answer alike. -/
theorem writes_alike_for_readers (clock : Int) {rows : Table Setting} (h : UniqueIds rows)
    (es : List (Int × Event)) :
    (Run.Steps step Current (.start clock rows) es ↔
      Run.Steps step Settled (.start clock rows) es) ∧
    ∀ es', List.Forall₂ Replaced es es' → Run.Steps step Settled (.start clock rows) es →
      Run.Steps step Settled (.start clock rows) es' →
      Run.collect step answer? (.start clock rows) es =
        Run.collect step answer? (.start clock rows) es' := by
  have hstart := coherent_start clock rows
  refine ⟨?_, ?_⟩
  · have hiff : ∀ s e s', Coherent s → step s e = some s' → (Current s e s' ↔ Settled s e s') :=
      fun s e s' => current_step_iff
    have hkeep : ∀ s e s', Coherent s → step s e = some s' → Current s e s' → Coherent s' :=
      fun s e s' => coherent_step
    exact Run.steps_iff_of_inv hiff hkeep hstart es
  · intro es' hes hsettled hsettled'
    have htogether : Together (State.start clock rows) (State.start clock rows) :=
      ⟨rfl, rfl, h, hstart, hstart⟩
    have hfire : ∀ s s' e e', Together s s' → Replaced e e' →
        (step s e).isSome = (step s' e').isSome := fun _ _ _ _ => together_fires
    have hstep : ∀ s s' e e' t t', Together s s' → Replaced e e' → step s e = some t →
        step s' e' = some t' → Settled s e t → Settled s' e' t' →
        answer? s e = answer? s' e' ∧ Together t t' := fun _ _ _ _ _ _ => together_step
    exact Run.collect_eq_of_rel hfire hstep htogether hes hsettled hsettled'

/-- Registration is closed. -/
def closing : Args := ⟨"site.registration_enabled", .bool false, .boolean, none, none, none⟩

def ask (now : Int) : Int × Event := (now, .get "site.registration_enabled" (.bool true) false)

theorem writes_alike_for_readers_expired :
    Run.collect step answer? (.start 0 ∅)
        [ask 0, (seconds 300, .set 7 closing), ask (seconds 301)] =
      Run.collect step answer? (.start 0 ∅)
        [ask 0, (seconds 300, .setByRequest 7 closing), ask (seconds 301)] :=
  (writes_alike_for_readers 0 (fun a ha => absurd ha (Table.not_mem_empty a)) _).2 _
    (.cons (.same _) (.cons (.set _ _ _) (.cons (.same _) .nil))) (by decide +kernel)
    (by decide +kernel)

/-- A visitor has asked whether registration is open, and the answer is still in the cache: when
it is closed by a request, the next one is told that it is open. -/
theorem closed_by_request_read_as_open :
    Run.collect step answer? (.start 0 ∅) [ask 0, (1, .set 7 closing), ask 2] =
        [.bool true, .bool false] ∧
      Run.collect step answer? (.start 0 ∅) [ask 0, (1, .setByRequest 7 closing), ask 2] =
        [.bool true, .bool true] := by
  decide +kernel

end SettingWrites

end DjangoFoundation
