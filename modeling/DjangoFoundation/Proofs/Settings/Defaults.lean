/-
`RuntimeSettingService.get` beside the lookup without a cache.

A default a call returned is kept under the key and handed to the next call, whatever its own
default is.  So while no row is there for the callers they are answered as without a cache only
if what is kept is each one's own default; a row that is there they always see.
-/
import Mathlib.Data.Bool.AllAny
import DjangoFoundation.Proofs.Settings.Readers

namespace DjangoFoundation

namespace SettingWrites

open RuntimeSettingService

variable {s s' : State} {e : Int × Event}

/-! ### Statement

`OwnDefault` looks at the cache before the call, so it is a condition on the state and not on
the answer.
-/

/-- A call of `RuntimeSettingService`, or the cache giving up an entry. -/
def Event.ofService : Event → Bool
  | .get _ _ _ | .set _ _ | .evict _ => true
  | .setByRequest _ _ | .send _ => false

/-- A `get` returns what the rows have for it at that moment. -/
def Transparent (s : State) (e : Int × Event) (_ : State) : Prop :=
  match e.2 with
  | .get key default publicOnly =>
      (get e.1 s.store key default publicOnly).1 = read s.store.rows key publicOnly default
  | _ => True

/-- Where no row is there for a `get`, the cache has nothing for it, or the default it passes. -/
def OwnDefault (s : State) (e : Int × Event) (_ : State) : Prop :=
  match e.2 with
  | .get key default publicOnly => visible s.store.rows key publicOnly = none →
      ∀ value ∈ cached s.store.cache e.1 key publicOnly, value = default
  | _ => True

instance decidableTransparent (s : State) :
    ∀ (e : Int × Event) (s' : State), Decidable (Transparent s e s')
  | (now, .get key default publicOnly), _ =>
      decEq (get now s.store key default publicOnly).1 (read s.store.rows key publicOnly default)
  | (_, .set _ _), _ | (_, .setByRequest _ _), _ | (_, .evict _), _ | (_, .send _), _ =>
      isTrue trivial

instance decidableOwnDefault (s : State) :
    ∀ (e : Int × Event) (s' : State), Decidable (OwnDefault s e s')
  | (now, .get key default publicOnly), _ =>
      decidable_of_iff (((visible s.store.rows key publicOnly).isSome ||
        (cached s.store.cache now key publicOnly).all fun value => value = default) = true) (by
          rw [Bool.or_eq_true, Option.all_eq_true, or_iff_not_imp_left, Option.not_isSome_iff_eq_none]
          simp only [decide_eq_true_eq]
          rfl)
  | (_, .set _ _), _ | (_, .setByRequest _ _), _ | (_, .evict _), _ | (_, .send _), _ =>
      isTrue trivial

/-! ### One step

`set` deletes what the cache has of its key, and an entry that is given up can only take a
difference away.  That leaves `get`.
-/

/-- The service's own writes show at once. -/
theorem current_iff_transparent (hservice : e.2.ofService = true) (hs : step s e = some s') :
    Current s e s' ↔ Transparent s e s' := by
  obtain ⟨now, event⟩ := e
  obtain ⟨-, -, rfl⟩ := step_eq_some hs
  cases event with
  | get key default publicOnly =>
      rw [current_iff_of_rows (rows_get now s.store key default publicOnly)]
      constructor
      · intro hget
        exact hget key default publicOnly rfl
      · rintro hget _ _ _ ⟨⟩
        exact hget
  | set pk args => exact iff_of_true (current_set now s pk args) trivial
  | evict cacheKey =>
      refine iff_of_true ?_ trivial
      rw [current_iff_of_rows (by rfl)]
      intro key default publicOnly h
      cases h
  | setByRequest pk args => cases hservice
  | send request => cases hservice

theorem transparent_step_iff (h : Coherent s) (hservice : e.2.ofService = true)
    (hs : step s e = some s') : Transparent s e s' ↔ OwnDefault s e s' := by
  rw [← current_iff_transparent hservice hs, current_step_iff h hs]
  obtain ⟨now, event⟩ := e
  cases event with
  | get key default publicOnly => exact Iff.rfl
  | set pk args => exact Iff.rfl
  | evict cacheKey => exact Iff.rfl
  | setByRequest pk args => cases hservice
  | send request => cases hservice

/-! ### Runs

What is not transparent is a single step, and no invariant is needed beyond those of the
readers.
-/

/-- **Reading is transparent** in a run of the service in which no call finds another's default,
and in no other. -/
theorem get_transparent_iff_own_default (clock : Int) (rows : Table Setting)
    {es : List (Int × Event)} (hes : ∀ e ∈ es, e.2.ofService = true) :
    Run.Steps step Transparent (.start clock rows) es ↔
      Run.Steps step OwnDefault (.start clock rows) es := by
  have hiff : ∀ s e s', e.2.ofService = true → Coherent s → step s e = some s' →
      (Transparent s e s' ↔ OwnDefault s e s') := fun s e s' he h hs => transparent_step_iff h he hs
  have hkeep : ∀ s e s', e.2.ofService = true → Coherent s → step s e = some s' →
      Transparent s e s' → Coherent s' := by
    intro s e s' he h hs htransparent
    exact coherent_step h hs ((current_iff_transparent he hs).mpr htransparent)
  exact Run.steps_iff_of_labels hiff hkeep hes (coherent_start clock rows)

/-- Asked for a key that has no row, with some default. -/
def askFor (now : Int) (default : Json) : Int × Event := (now, .get "site.name" default false)

theorem get_transparent_iff_own_default_expired :
    Run.Steps step Transparent (.start 0 ∅)
      [askFor 0 (.str "a"), askFor (seconds 299) (.str "a"), askFor (seconds 300) (.str "b")] :=
  (get_transparent_iff_own_default 0 ∅ (List.all_iff_forall_prop.mp (by decide))).mpr
    (by decide +kernel)

/-- The second call is told the default of the first. -/
theorem get_told_other_default :
    ¬ Run.Steps step Transparent (.start 0 ∅) [askFor 0 (.str "a"), askFor 1 (.str "b")] := by
  decide +kernel

/-! ### One default a key

`RegisterView` is the one caller of `get`, and always passes the same default for its key.
That is enough.
-/

/-- What the cache has for a caller is what a caller with this default would be told. -/
def Settles (ofKey : String → Bool → Json) (s : State) : Prop :=
  ∀ key publicOnly, ∀ value ∈ cached s.store.cache s.clock key publicOnly,
    value = read s.store.rows key publicOnly (ofKey key publicOnly)

/-- A call of the service that passes the default of its key. -/
def PassesOnly (ofKey : String → Bool → Json) (e : Int × Event) : Prop :=
  e.2.ofService = true ∧
    ∀ key default publicOnly, e.2 = .get key default publicOnly → default = ofKey key publicOnly

theorem settles_step {ofKey : String → Bool → Json} (h : Settles ofKey s)
    (he : PassesOnly ofKey e) (hs : step s e = some s') :
    Settles ofKey s' ∧ Transparent s e s' := by
  obtain ⟨now, event⟩ := e
  obtain ⟨hservice, hdefault⟩ := he
  obtain ⟨hclock, -, rfl⟩ := step_eq_some hs
  have hkept : ∀ key publicOnly, ∀ value ∈ cached s.store.cache now key publicOnly,
      value = read s.store.rows key publicOnly (ofKey key publicOnly) :=
    fun key publicOnly value hvalue => h key publicOnly value (cached_of_le hclock hvalue)
  cases event with
  | get key default publicOnly =>
      obtain rfl := hdefault key default publicOnly rfl
      refine ⟨?_, get_eq_read_iff.mpr (hkept key publicOnly)⟩
      intro other publicOnly' value hvalue
      show value = read (get now s.store key _ publicOnly).2.rows other publicOnly' _
      rw [rows_get]
      simp only [Event.run, RuntimeSettingService.get] at hvalue
      split at hvalue
      · exact hkept other publicOnly' value hvalue
      · rw [cached_fill] at hvalue
        split at hvalue
        · rename_i hsame
          obtain ⟨rfl, rfl⟩ := hsame
          split at hvalue
          · cases hvalue
            rfl
          · cases hvalue
        · exact hkept other publicOnly' value hvalue
  | set pk args =>
      refine ⟨?_, trivial⟩
      intro other publicOnly value hvalue
      rcases set_cases now s.store pk args with hsame | hset
      · simp only [hsame] at hvalue ⊢
        exact hkept other publicOnly value hvalue
      · simp only [hset, cached_clear] at hvalue ⊢
        split at hvalue
        · cases hvalue
        · rename_i hother
          rw [hkept other publicOnly value hvalue, RuntimeSettingService.read,
            RuntimeSettingService.read, visible_put, row_key, if_neg (Ne.symm hother)]
  | evict cacheKey =>
      refine ⟨?_, trivial⟩
      intro other publicOnly value hvalue
      exact hkept other publicOnly value (cached_of_delete hvalue)
  | setByRequest pk args => cases hservice
  | send request => cases hservice

/-- Where all calls for a key pass one default, none can tell that there is a cache. -/
theorem transparent_of_one_default {ofKey : String → Bool → Json} (clock : Int)
    (rows : Table Setting) {es : List (Int × Event)} (hes : ∀ e ∈ es, PassesOnly ofKey e) :
    Run.Steps step Transparent (.start clock rows) es := by
  have hstart : Settles ofKey (.start clock rows) := fun _ _ _ hvalue => by cases hvalue
  have hstep : ∀ s e s', Settles ofKey s → step s e = some s' → PassesOnly ofKey e →
      Settles ofKey s' ∧ Transparent s e s' := fun s e s' h hs he => settles_step h he hs
  exact Run.Steps.of_inv hstep hstart (Run.Steps.of_labels hes _)

end SettingWrites

end DjangoFoundation
