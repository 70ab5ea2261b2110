/-
Where the scope check of API keys fails open.

A view that declares its scopes for each method by itself is open to every key on the methods
it does not list: they have no entry, and the default of the lookup is to require nothing.  A
view that declares one requirement for all of them, or none at all, is not open to any.

Of the views that name scopes, the two of the profile and of the preferences have such a table,
and it lists `GET`, `PUT` and `PATCH`.  What they answer besides is `HEAD` and `OPTIONS`.
-/
import DjangoFoundation.ApiKeys.Permissions

namespace DjangoFoundation

namespace HasAPIKeyScope

variable {view : View} {method : String} {apiKey : APIKey}
  {table : List (String × List String)}

/-- A key is let in only by a requirement that is declared for the method, of whose scopes it has
all. -/
def Closed (view : View) (method : String) (apiKey : APIKey) : Prop :=
  hasPermission (some apiKey) method view = true →
    ∃ required, view.declares method = some required ∧ ∀ scope ∈ required, scope ∈ apiKey.scopes

/-- The view lists the method, or makes no difference between methods. -/
def Listed (view : View) (method : String) : Prop :=
  ∀ table, view.requiredAPIKeyScopesByMethod = some table → method ∈ table.map Prod.fst

theorem covers_iff {required : List String} :
    covers apiKey required = true ↔ ∀ scope ∈ required, scope ∈ apiKey.scopes := by
  simp only [covers, List.all_eq_true, decide_eq_true_eq]

/-! ### One requirement for all methods

Without a table the lookup by method is not made.  What is declared counts for each method, and
where nothing is declared no key is let in.
-/

/-- The check fails closed, whatever the method. -/
theorem closed_of_no_table (h : view.requiredAPIKeyScopesByMethod = none) :
    Closed view method apiKey := by
  intro hadmitted
  rw [View.declares, h]
  rw [hasPermission, h] at hadmitted
  cases hrequired : view.requiredAPIKeyScopes with
  | none => simp [hrequired] at hadmitted
  | some required =>
      simp only [hrequired, Option.isSome_some, Bool.true_or, Bool.not_true, Bool.false_eq_true,
        if_false, Option.getD_some] at hadmitted
      exact ⟨required, rfl, covers_iff.mp hadmitted⟩

/-! ### A table of methods

With one, the requirement is the entry of the method or, by the default, the empty list.  The
check reads a missing entry as it would read an entry that asks for nothing, so all turns on
whether the method is listed.
-/

section Table

variable (h : view.requiredAPIKeyScopesByMethod = some table)

include h

theorem listed_iff : Listed view method ↔ method ∈ table.map Prod.fst := by
  constructor
  · intro hlisted
    exact hlisted table h
  · intro hmem table' h'
    rw [h, Option.some.injEq] at h'
    exact h' ▸ hmem

theorem hasPermission_of_table :
    hasPermission (some apiKey) method view = covers apiKey ((table.lookup method).getD []) := by
  rw [hasPermission, h]
  simp

theorem not_listed_iff : ¬Listed view method ↔ table.lookup method = none := by
  rw [listed_iff h, List.lookup_eq_none_iff]
  constructor
  · intro hno entry hentry
    have hne : method ≠ entry.1 := fun heq => hno (List.mem_map.mpr ⟨entry, hentry, heq.symm⟩)
    simpa using hne
  · intro hno hmem
    obtain ⟨entry, hentry, rfl⟩ := List.mem_map.mp hmem
    simpa using hno entry hentry

theorem closed_of_table : Closed view method apiKey ↔ Listed view method := by
  have hdeclares : view.declares method = table.lookup method := by rw [View.declares, h]
  unfold Closed
  rw [hasPermission_of_table h, hdeclares]
  by_cases hlisted : Listed view method
  · refine iff_of_true ?_ hlisted
    obtain ⟨required, hrequired⟩ : ∃ required, table.lookup method = some required :=
      Option.ne_none_iff_exists'.mp fun hnone => (not_listed_iff h).mpr hnone hlisted
    rw [hrequired, Option.getD_some, covers_iff]
    intro hscopes
    exact ⟨required, rfl, hscopes⟩
  · -- no entry: the default requires nothing, and every key has that
    refine iff_of_false ?_ hlisted
    rw [(not_listed_iff h).mp hlisted]
    intro hclosed
    obtain ⟨required, hnone, -⟩ := hclosed rfl
    cases hnone

theorem denied_iff_listed (hasks : ∀ entry ∈ table, entry.2 ≠ []) (hscopes : apiKey.scopes = []) :
    hasPermission (some apiKey) method view = false ↔ Listed view method := by
  rw [hasPermission_of_table h]
  by_cases hlisted : Listed view method
  · refine iff_of_true ?_ hlisted
    obtain ⟨required, hrequired⟩ : ∃ required, table.lookup method = some required :=
      Option.ne_none_iff_exists'.mp fun hnone => (not_listed_iff h).mpr hnone hlisted
    obtain ⟨before, after, rfl, -⟩ := List.lookup_eq_some_iff.mp hrequired
    have hne : required ≠ [] :=
      hasks (method, required) (List.mem_append_right _ List.mem_cons_self)
    obtain ⟨scope, rest, rfl⟩ := List.exists_cons_of_ne_nil hne
    rw [hrequired]
    simp [covers, hscopes]
  · refine iff_of_false ?_ hlisted
    rw [(not_listed_iff h).mp hlisted]
    simp [covers]

end Table

/-- A key without scopes passes at the views of the profile and of the preferences, by the
methods they do not list, and at no other of these views. -/
theorem passes_unscoped {handlers : List String} (hscopes : apiKey.scopes = [])
    (hview : view ∈ [CurrentUserView, CurrentUserProfileView, CurrentUserPreferencesView,
      SecurityEventListView, NotificationViewSet handlers]) :
    hasPermission (some apiKey) method view = true ↔
      view.requiredAPIKeyScopesByMethod = some profileScopes ∧
        method ∉ profileScopes.map Prod.fst := by
  have htable : view.requiredAPIKeyScopesByMethod = some profileScopes →
      (hasPermission (some apiKey) method view = true ↔
        view.requiredAPIKeyScopesByMethod = some profileScopes ∧
          method ∉ profileScopes.map Prod.fst) := by
    intro h
    rw [and_iff_right h, ← listed_iff h, ← denied_iff_listed h (by decide) hscopes,
      Bool.not_eq_false]
  have hdenied : view.requiredAPIKeyScopesByMethod = none →
      view.requiredAPIKeyScopes ≠ some [] →
      (hasPermission (some apiKey) method view = true ↔
        view.requiredAPIKeyScopesByMethod = some profileScopes ∧
          method ∉ profileScopes.map Prod.fst) := by
    intro h hasks
    refine iff_of_false (fun hadmitted => ?_) fun hhas => by simp [h] at hhas
    obtain ⟨required, hrequired, hcovered⟩ := closed_of_no_table h hadmitted
    rw [View.declares, h] at hrequired
    cases required with
    | nil => exact hasks hrequired
    | cons scope rest =>
        have hhas := hcovered scope List.mem_cons_self
        rw [hscopes] at hhas
        exact absurd hhas List.not_mem_nil
  simp only [List.mem_cons, List.not_mem_nil, or_false] at hview
  rcases hview with rfl | rfl | rfl | rfl | rfl
  · exact hdenied rfl (by decide)
  · exact htable rfl
  · exact htable rfl
  · exact hdenied rfl (by decide)
  · exact hdenied rfl (by simp [NotificationViewSet])

/-- **The check fails closed on the methods a view lists**, and on no others of one that has a
list; so a key without scopes passes on exactly the others, if every entry asks for one. -/
theorem closed_iff_listed (view : View) (method : String) (apiKey : APIKey) :
    (Closed view method apiKey ↔ Listed view method) ∧
      ∀ table, view.requiredAPIKeyScopesByMethod = some table →
        (∀ entry ∈ table, entry.2 ≠ []) → apiKey.scopes = [] →
        (hasPermission (some apiKey) method view = false ↔ Listed view method) := by
  refine ⟨?_, fun table h hasks hscopes => denied_iff_listed h hasks hscopes⟩
  cases h : view.requiredAPIKeyScopesByMethod with
  | some table => exact closed_of_table h
  | none =>
      refine iff_of_true (closed_of_no_table h) ?_
      intro table htable
      rw [h] at htable
      cases htable

/-- A key without scopes. -/
def unscoped : APIKey where
  pk := 7
  keyPrefix := "0123456789ab"
  owner := 1
  name := "Unscoped"
  keyHash := ""
  scopes := []
  createdAt := 0
  expiresAt := none

theorem closed_iff_listed_get :
    (Closed CurrentUserProfileView "GET" unscoped ↔ Listed CurrentUserProfileView "GET") ∧
      (hasPermission (some unscoped) "GET" CurrentUserProfileView = false ↔
        Listed CurrentUserProfileView "GET") :=
  have h := closed_iff_listed CurrentUserProfileView "GET" unscoped
  ⟨h.1, h.2 profileScopes rfl (by decide) rfl⟩

/-- It may ask for the head of the profile, which is made by the handler of `GET`, though it
has the scopes of no entry. -/
theorem head_of_profile_unscoped :
    CurrentUserProfileView.answers "HEAD" = true ∧
      hasPermission (some unscoped) "HEAD" CurrentUserProfileView = true ∧
      (∀ entry ∈ profileScopes, covers unscoped entry.2 = false) ∧
      ¬Closed CurrentUserProfileView "HEAD" unscoped := by
  refine ⟨by decide, rfl, by decide, ?_⟩
  intro hclosed
  obtain ⟨required, hnone, -⟩ := hclosed rfl
  cases hnone

-- all it may ask for there
example : (["GET", "POST", "PUT", "PATCH", "DELETE", "HEAD", "OPTIONS", "TRACE"].filter
    fun method => CurrentUserProfileView.answers method &&
      hasPermission (some unscoped) method CurrentUserProfileView) = ["HEAD", "OPTIONS"] := by
  decide

end HasAPIKeyScope

end DjangoFoundation
