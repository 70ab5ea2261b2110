/-
Runs of a system that moves by labelled steps.

A system is a partial function `step : σ → ι → Option σ`: the state it moves to on
a label, or `none` where the label cannot fire.  A run is a start state and a list
of labels.  Two things are said of runs here: where they end (`exec`) and what
every transition they take looks like (`Steps`).  An invariant is a `Steps` whose
predicate looks at the state moved to, a condition on the environment one that
looks at the state left and the label.

What the rest of the development uses is the pair of rules `Steps.of_inv`, which
turns a condition met by every step into a property of every step by way of an
invariant, and `steps_iff_of_inv`, its two-sided form: where each step has the
property exactly when it meets the condition, whole runs do too.
-/
import Mathlib.Data.List.Basic

namespace Run

variable {σ ι : Type*} {step : σ → ι → Option σ}

/-- The state after a list of labels, if each of them could fire. -/
def exec (step : σ → ι → Option σ) : σ → List ι → Option σ
  | s, [] => some s
  | s, e :: es => (step s e).bind fun s' => exec step s' es

/-- Every transition the run takes satisfies `R`. -/
def Steps (step : σ → ι → Option σ) (R : σ → ι → σ → Prop) : σ → List ι → Prop
  | _, [] => True
  | s, e :: es => ∀ s', step s e = some s' → R s e s' ∧ Steps step R s' es

/-- Every state of the run, the first one included, satisfies `P`. -/
def Always (step : σ → ι → Option σ) (P : σ → Prop) (s : σ) (es : List ι) : Prop :=
  P s ∧ Steps step (fun _ _ s' => P s') s es

/-- The states some run from `init` ends in. -/
def Reachable (step : σ → ι → Option σ) (init s : σ) : Prop :=
  ∃ es, exec step init es = some s

@[simp] theorem exec_nil (s : σ) : exec step s [] = some s := rfl

@[simp] theorem exec_cons (s : σ) (e : ι) (es : List ι) :
    exec step s (e :: es) = (step s e).bind fun s' => exec step s' es := rfl

/-- A property of steps that can be decided can be checked along a run. -/
instance decidableSteps {R : σ → ι → σ → Prop} [∀ s e s', Decidable (R s e s')] :
    ∀ (s : σ) (es : List ι), Decidable (Steps step R s es)
  | _, [] => isTrue trivial
  | s, e :: es =>
      match h : step s e with
      | none => isTrue fun s' h' => by rw [h] at h'; cases h'
      | some t =>
          have : Decidable (Steps step R t es) := decidableSteps t es
          decidable_of_iff (R s e t ∧ Steps step R t es)
            ⟨fun ht s' h' => by rw [h, Option.some.injEq] at h'; exact h' ▸ ht, fun hs => hs t h⟩

theorem exec_append (s : σ) (es₁ es₂ : List ι) :
    exec step s (es₁ ++ es₂) = (exec step s es₁).bind fun s' => exec step s' es₂ := by
  induction es₁ generalizing s with
  | nil => rfl
  | cons e es ih =>
      simp only [List.cons_append, exec_cons]
      cases step s e with
      | none => rfl
      | some s' => exact ih s'

/-! ### The rules -/

theorem Steps.of_forall {R : σ → ι → σ → Prop} (h : ∀ s e s', step s e = some s' → R s e s')
    (s : σ) (es : List ι) : Steps step R s es := by
  induction es generalizing s with
  | nil => trivial
  | cons e es ih =>
      intro s' hs
      exact ⟨h s e s' hs, ih s'⟩

theorem Steps.imp {R Q : σ → ι → σ → Prop}
    (h : ∀ s e s', step s e = some s' → R s e s' → Q s e s') {s : σ} {es : List ι}
    (hR : Steps step R s es) : Steps step Q s es := by
  induction es generalizing s with
  | nil => trivial
  | cons e es ih =>
      intro s' hs
      obtain ⟨hr, hrest⟩ := hR s' hs
      exact ⟨h s e s' hs hr, ih hrest⟩

/-- What is said of every label is said of every step. -/
theorem Steps.of_labels {R : ι → Prop} {es : List ι} (h : ∀ e ∈ es, R e) (s : σ) :
    Steps step (fun _ e _ => R e) s es := by
  induction es generalizing s with
  | nil => trivial
  | cons e es ih =>
      intro s' _
      exact ⟨h e List.mem_cons_self, ih (fun e' he' => h e' (List.mem_cons_of_mem e he')) s'⟩

theorem Steps.and {R Q : σ → ι → σ → Prop} {s : σ} {es : List ι} (hR : Steps step R s es)
    (hQ : Steps step Q s es) : Steps step (fun s e s' => R s e s' ∧ Q s e s') s es := by
  induction es generalizing s with
  | nil => trivial
  | cons e es ih =>
      intro s' hs
      obtain ⟨hr, hr'⟩ := hR s' hs
      obtain ⟨hq, hq'⟩ := hQ s' hs
      exact ⟨⟨hr, hq⟩, ih hr' hq'⟩

/-- What holds of every step holds of the one taken after a prefix. -/
theorem Steps.mid {R : σ → ι → σ → Prop} {s t t' : σ} {e : ι} {es₁ es₂ : List ι}
    (h : Steps step R s (es₁ ++ e :: es₂)) (ht : exec step s es₁ = some t)
    (he : step t e = some t') : R t e t' := by
  induction es₁ generalizing s with
  | nil =>
      simp only [exec_nil, Option.some.injEq] at ht
      subst ht
      exact (h t' he).1
  | cons e₁ es₁ ih =>
      simp only [exec_cons, Option.bind_eq_some_iff] at ht
      obtain ⟨s₁, hs₁, hrest⟩ := ht
      exact ih (h s₁ hs₁).2 hrest

/-- The last step of a run has the property, seen through what can be observed of the
states it goes between. -/
theorem Steps.last {α β : Type*} {R : σ → ι → σ → Prop} {s : σ} {e : ι} {es : List ι}
    {f : σ → α} {g : σ → β} {a : α} {b : β} (h : Steps step R s (es ++ [e]))
    (ha : (exec step s es).map f = some a) (hb : (exec step s (es ++ [e])).map g = some b) :
    ∃ t t', f t = a ∧ g t' = b ∧ R t e t' := by
  obtain ⟨t, ht, hfa⟩ := Option.map_eq_some_iff.mp ha
  obtain ⟨t', ht', hgb⟩ := Option.map_eq_some_iff.mp hb
  rw [exec_append, ht, Option.bind_some, exec_cons, Option.bind_eq_some_iff] at ht'
  obtain ⟨t₁, he, hnil⟩ := ht'
  rw [exec_nil, Option.some.injEq] at hnil
  subst hnil
  exact ⟨t, t₁, hfa, hgb, h.mid ht he⟩

/-- What every step that meets `C` keeps holds where a run that meets it throughout ends. -/
theorem exec_of_inv {Inv : σ → Prop} {C : σ → ι → σ → Prop}
    (hstep : ∀ s e s', Inv s → step s e = some s' → C s e s' → Inv s') {s t : σ} {es : List ι}
    (hs : Inv s) (hC : Steps step C s es) (ht : exec step s es = some t) : Inv t := by
  induction es generalizing s with
  | nil =>
      simp only [exec_nil, Option.some.injEq] at ht
      exact ht ▸ hs
  | cons e es ih =>
      simp only [exec_cons, Option.bind_eq_some_iff] at ht
      obtain ⟨s', he, hrest⟩ := ht
      obtain ⟨hc, hC'⟩ := hC s' he
      exact ih (hstep s e s' hs he hc) hC' hrest

/-- What always holds holds where the run ends. -/
theorem Always.exec {P : σ → Prop} {s t : σ} {es : List ι} (h : Always step P s es)
    (ht : exec step s es = some t) : P t := by
  have hstep : ∀ s e s', P s → step s e = some s' → P s' → P s' := fun _ _ _ _ _ hp => hp
  exact exec_of_inv hstep h.1 h.2 ht

/-- **The invariant rule.**  Where the condition `C` on steps keeps `Inv` and gives
`R`, a run that meets `C` throughout satisfies `R` throughout. -/
theorem Steps.of_inv {Inv : σ → Prop} {C R : σ → ι → σ → Prop}
    (hstep : ∀ s e s', Inv s → step s e = some s' → C s e s' → Inv s' ∧ R s e s')
    {s : σ} {es : List ι} (hs : Inv s) (hC : Steps step C s es) : Steps step R s es := by
  induction es generalizing s with
  | nil => trivial
  | cons e es ih =>
      intro s' he
      obtain ⟨hc, hrest⟩ := hC s' he
      obtain ⟨hinv, hr⟩ := hstep s e s' hs he hc
      exact ⟨hr, ih hinv hrest⟩

/-- **The two-sided rule.**  Where, inside the invariant, a step has the property
exactly when it meets the condition, and the property keeps the invariant, a run
has the property throughout exactly when it meets the condition throughout.  `L` is
what is known of every label. -/
theorem steps_iff_of_labels {L : ι → Prop} {Inv : σ → Prop} {C R : σ → ι → σ → Prop}
    (hiff : ∀ s e s', L e → Inv s → step s e = some s' → (R s e s' ↔ C s e s'))
    (hkeep : ∀ s e s', L e → Inv s → step s e = some s' → R s e s' → Inv s')
    {s : σ} {es : List ι} (hL : ∀ e ∈ es, L e) (hs : Inv s) :
    Steps step R s es ↔ Steps step C s es := by
  induction es generalizing s with
  | nil => exact Iff.rfl
  | cons e es ih =>
      have he := hL e List.mem_cons_self
      have hes : ∀ e' ∈ es, L e' := fun e' he' => hL e' (List.mem_cons_of_mem e he')
      refine forall_congr' fun s' => forall_congr' fun hs' => ?_
      constructor
      · rintro ⟨hr, hrest⟩
        exact ⟨(hiff s e s' he hs hs').mp hr, (ih hes (hkeep s e s' he hs hs' hr)).mp hrest⟩
      · rintro ⟨hc, hrest⟩
        have hr := (hiff s e s' he hs hs').mpr hc
        exact ⟨hr, (ih hes (hkeep s e s' he hs hs' hr)).mpr hrest⟩

/-- The same rule, for any labels. -/
theorem steps_iff_of_inv {Inv : σ → Prop} {C R : σ → ι → σ → Prop}
    (hiff : ∀ s e s', Inv s → step s e = some s' → (R s e s' ↔ C s e s'))
    (hkeep : ∀ s e s', Inv s → step s e = some s' → R s e s' → Inv s')
    {s : σ} (hs : Inv s) (es : List ι) : Steps step R s es ↔ Steps step C s es := by
  have hfree : ∀ e ∈ es, (fun _ : ι => True) e := fun _ _ => trivial
  exact steps_iff_of_labels (fun s e s' _ => hiff s e s') (fun s e s' _ => hkeep s e s') hfree hs

/-! ### What a run leaves behind -/

/-- The observations `obs` makes of the transitions of a run, in order. -/
def collect {α : Type*} (step : σ → ι → Option σ) (obs : σ → ι → Option α) :
    σ → List ι → List α
  | _, [] => []
  | s, e :: es =>
      match step s e with
      | none => []
      | some s' => (obs s e).toList ++ collect step obs s' es

/-- The invariant rule for an invariant that speaks of the observations made so far. -/
theorem collect_of_inv {α : Type*} {obs : σ → ι → Option α} {Inv : σ → List α → Prop}
    {C : σ → ι → σ → Prop} {Q : List α → Prop}
    (hstep : ∀ s log e s', Inv s log → step s e = some s' → C s e s' →
      Inv s' (log ++ (obs s e).toList))
    (hQ : ∀ s log, Inv s log → Q log) {s : σ} {log : List α} {es : List ι}
    (hs : Inv s log) (hC : Steps step C s es) : Q (log ++ collect step obs s es) := by
  induction es generalizing s log with
  | nil =>
      rw [collect, List.append_nil]
      exact hQ s log hs
  | cons e es ih =>
      cases he : step s e with
      | none =>
          simp only [collect, he, List.append_nil]
          exact hQ s log hs
      | some s' =>
          obtain ⟨hc, hrest⟩ := hC s' he
          simp only [collect, he, ← List.append_assoc]
          exact ih (hstep s log e s' hs he hc) hrest

/-- The same, where the run ends. -/
theorem exec_collect_of_inv {α : Type*} {obs : σ → ι → Option α} {Inv : σ → List α → Prop}
    (hstep : ∀ s log e s', Inv s log → step s e = some s' → Inv s' (log ++ (obs s e).toList))
    {s t : σ} {log : List α} {es : List ι} (hs : Inv s log) (ht : exec step s es = some t) :
    Inv t (log ++ collect step obs s es) := by
  induction es generalizing s log with
  | nil =>
      rw [exec_nil, Option.some.injEq] at ht
      rw [collect, List.append_nil]
      exact ht ▸ hs
  | cons e es ih =>
      rw [exec_cons, Option.bind_eq_some_iff] at ht
      obtain ⟨s', he, hrest⟩ := ht
      simp only [collect, he, ← List.append_assoc]
      exact ih (hstep s log e s' hs he) hrest

/-- **The rule of two phases.**  While every step has `R` the run keeps `P`; the first step
without it brings the run into `Q`, where it stays. -/
theorem exec_phases {P Q : σ → Prop} {C R : σ → ι → σ → Prop}
    (hP : ∀ s e s', P s → step s e = some s' → C s e s' →
      (R s e s' → P s') ∧ (¬R s e s' → Q s'))
    (hQ : ∀ s e s', Q s → step s e = some s' → C s e s' → Q s') {s t : σ} {es : List ι}
    (hs : P s) (hC : Steps step C s es) (ht : exec step s es = some t) :
    (Steps step R s es → P t) ∧ (¬Steps step R s es → Q t) := by
  induction es generalizing s with
  | nil =>
      simp only [exec_nil, Option.some.injEq] at ht
      exact ⟨fun _ => ht ▸ hs, fun hno => absurd trivial hno⟩
  | cons e es ih =>
      simp only [exec_cons, Option.bind_eq_some_iff] at ht
      obtain ⟨s', he, hrest⟩ := ht
      obtain ⟨hc, hC'⟩ := hC s' he
      obtain ⟨hkeep, hleave⟩ := hP s e s' hs he hc
      by_cases hr : R s e s'
      · obtain ⟨hall, hsome⟩ := ih (hkeep hr) hC' hrest
        refine ⟨fun h => hall (h s' he).2, fun hno => hsome fun hsteps => hno ?_⟩
        intro t' ht'
        rw [he, Option.some.injEq] at ht'
        exact ht' ▸ ⟨hr, hsteps⟩
      · exact ⟨fun h => absurd (h s' he).1 hr, fun _ => exec_of_inv hQ (hleave hr) hC' hrest⟩

/-- An invariant every step keeps holds wherever a run ends. -/
theorem Reachable.inv {Inv : σ → Prop} {init s : σ} (h : Reachable step init s)
    (h0 : Inv init) (hstep : ∀ s e s', Inv s → step s e = some s' → Inv s') : Inv s := by
  obtain ⟨es, hes⟩ := h
  have hfree : Steps step (fun _ _ _ => True) init es := .of_forall (fun _ _ _ _ => trivial) init es
  exact exec_of_inv (fun s e s' hs he _ => hstep s e s' hs he) h0 hfree hes

/-! ### Two systems side by side -/

/-- What a system that answers every input answers to a list of them, and where it ends. -/
def answers {σ ι ω : Type*} (next : σ → ι → ω × σ) : σ → List ι → List ω × σ
  | s, [] => ([], s)
  | s, i :: is =>
      let (o, s') := next s i
      let (os, t) := answers next s' is
      (o :: os, t)

/-- **The rule of two runs.**  Where related states answer related inputs alike and stay
related, so do whole runs. -/
theorem answers_eq_of_rel {σ σ' ι ι' ω : Type*} {next : σ → ι → ω × σ} {next' : σ' → ι' → ω × σ'}
    {R : σ → σ' → Prop} {P : ι → ι' → Prop}
    (hstep : ∀ s s' i i', R s s' → P i i' →
      (next s i).1 = (next' s' i').1 ∧ R (next s i).2 (next' s' i').2)
    {s : σ} {s' : σ'} {is : List ι} {is' : List ι'} (hs : R s s') (his : List.Forall₂ P is is') :
    (answers next s is).1 = (answers next' s' is').1 ∧
      R (answers next s is).2 (answers next' s' is').2 := by
  induction his generalizing s s' with
  | nil => exact ⟨rfl, hs⟩
  | cons hi _ ih =>
      obtain ⟨ho, hs'⟩ := hstep _ _ _ _ hs hi
      obtain ⟨hos, ht⟩ := ih hs'
      exact ⟨congrArg₂ List.cons ho hos, ht⟩

/-- The same rule for two systems that may refuse: where one run goes, the other goes too. -/
theorem exec_of_rel {σ σ' ι ι' : Type*} {step : σ → ι → Option σ} {step' : σ' → ι' → Option σ'}
    {R : σ → σ' → Prop} {f : ι → ι'}
    (hstep : ∀ s s' i t, R s s' → step s i = some t → ∃ t', step' s' (f i) = some t' ∧ R t t')
    {s t : σ} {s' : σ'} {is : List ι} (hs : R s s') (ht : exec step s is = some t) :
    ∃ t', exec step' s' (is.map f) = some t' ∧ R t t' := by
  induction is generalizing s s' with
  | nil =>
      rw [exec_nil, Option.some.injEq] at ht
      exact ⟨s', rfl, ht ▸ hs⟩
  | cons i is ih =>
      rw [exec_cons, Option.bind_eq_some_iff] at ht
      obtain ⟨u, hu, hrest⟩ := ht
      obtain ⟨u', hu', hrel⟩ := hstep s s' i u hs hu
      obtain ⟨t', ht', hend⟩ := ih hrel hrest
      refine ⟨t', ?_, hend⟩
      rw [List.map_cons, exec_cons, hu', Option.bind_some]
      exact ht'

/-- **The rule of two runs, of what is observed.**  Where related labels fire together on related
states and, if both steps meet their condition, are observed alike and lead to related states,
whole runs that meet it are observed alike. -/
theorem collect_eq_of_rel {σ σ' ι ι' α : Type*} {step : σ → ι → Option σ}
    {step' : σ' → ι' → Option σ'} {obs : σ → ι → Option α} {obs' : σ' → ι' → Option α}
    {R : σ → σ' → Prop} {P : ι → ι' → Prop} {C : σ → ι → σ → Prop} {C' : σ' → ι' → σ' → Prop}
    (hfire : ∀ s s' i i', R s s' → P i i' → (step s i).isSome = (step' s' i').isSome)
    (hstep : ∀ s s' i i' t t', R s s' → P i i' → step s i = some t → step' s' i' = some t' →
      C s i t → C' s' i' t' → obs s i = obs' s' i' ∧ R t t')
    {s : σ} {s' : σ'} {is : List ι} {is' : List ι'} (hs : R s s') (his : List.Forall₂ P is is')
    (hC : Steps step C s is) (hC' : Steps step' C' s' is') :
    collect step obs s is = collect step' obs' s' is' := by
  induction his generalizing s s' with
  | nil => rfl
  | @cons i i' is is' hi _ ih =>
      have hsome := hfire s s' i i' hs hi
      cases ht : step s i with
      | none =>
          rw [ht, Option.isSome_none, eq_comm, Option.isSome_eq_false_iff,
            Option.isNone_iff_eq_none] at hsome
          simp only [collect, ht, hsome]
      | some t =>
          rw [ht, Option.isSome_some, eq_comm, Option.isSome_iff_exists] at hsome
          obtain ⟨t', ht'⟩ := hsome
          obtain ⟨hc, hrest⟩ := hC t ht
          obtain ⟨hc', hrest'⟩ := hC' t' ht'
          obtain ⟨hobs, hrel⟩ := hstep s s' i i' t t' hs hi ht ht' hc hc'
          simp only [collect, ht, ht', hobs, ih hrel hrest hrest']

/-! ### Steps nobody sees -/

/-- **The rule of silent steps.**  Two runs of one system, the second with silent steps put in:
where a silent step is always free to happen, is not observed and keeps the states related,
and any other step of the first run happens in the second too, observed alike, the second
run goes on to the end and is observed as the first.  `T` is what is known of the labels
still to come. -/
theorem exec_of_filter {α : Type*} {obs : σ → ι → Option α} {R : σ → σ → Prop}
    {silent : ι → Bool} {T : σ → List ι → Prop}
    (hT : ∀ t t' e es, T t (e :: es) → step t e = some t' → T t' es)
    (hsilent : ∀ s t e es, R s t → silent e = true → T t (e :: es) →
      ∃ t', step t e = some t' ∧ obs t e = none ∧ R s t')
    (hloud : ∀ s t s' e es, R s t → silent e = false → T t (e :: es) → step s e = some s' →
      ∃ t', step t e = some t' ∧ obs t e = obs s e ∧ R s' t')
    {s t s' : σ} {es : List ι} (hR : R s t) (hes : T t es)
    (hrun : exec step s (es.filter fun e => !silent e) = some s') :
    (∃ t', exec step t es = some t') ∧
      collect step obs t es = collect step obs s (es.filter fun e => !silent e) := by
  induction es generalizing s t with
  | nil => exact ⟨⟨t, rfl⟩, rfl⟩
  | cons e es ih =>
      cases he : silent e with
      | true =>
          rw [List.filter_cons_of_neg (by simp [he])] at hrun ⊢
          obtain ⟨t₁, ht₁, hobs, hR₁⟩ := hsilent s t e es hR he hes
          obtain ⟨⟨t', ht'⟩, hcollect⟩ := ih hR₁ (hT t t₁ e es hes ht₁) hrun
          refine ⟨⟨t', ?_⟩, ?_⟩
          · rw [exec_cons, ht₁, Option.bind_some]
            exact ht'
          · simp only [collect, ht₁, hobs, Option.toList_none, List.nil_append]
            exact hcollect
      | false =>
          rw [List.filter_cons_of_pos (by simp [he])] at hrun ⊢
          rw [exec_cons, Option.bind_eq_some_iff] at hrun
          obtain ⟨s₁, hs₁, hrest⟩ := hrun
          obtain ⟨t₁, ht₁, hobs, hR₁⟩ := hloud s t s₁ e es hR he hes hs₁
          obtain ⟨⟨t', ht'⟩, hcollect⟩ := ih hR₁ (hT t t₁ e es hes ht₁) hrest
          refine ⟨⟨t', ?_⟩, ?_⟩
          · rw [exec_cons, ht₁, Option.bind_some]
            exact ht'
          · simp only [collect, ht₁, hs₁, hobs, hcollect]

/-! ### A part of the system -/

/-- **The rule of projection.**  Where a step that is seen is a step of the projected state too,
observed alike, and one that is not seen leaves the projected state as it is, a run is, to who
sees only that, the run of the steps that are seen. -/
theorem exec_proj {σ' α : Type*} {step' : σ' → ι → Option σ'} {obs : σ → ι → Option α}
    {obs' : σ' → ι → Option α} {proj : σ → σ'} {sees : ι → Bool} {Inv : σ → Prop}
    {C : σ → ι → σ → Prop}
    (hkeep : ∀ s e t, Inv s → step s e = some t → C s e t → Inv t)
    (hseen : ∀ s e t, Inv s → step s e = some t → C s e t → sees e = true →
      step' (proj s) e = some (proj t) ∧ obs s e = obs' (proj s) e)
    (hunseen : ∀ s e t, Inv s → step s e = some t → C s e t → sees e = false → proj t = proj s)
    {s t : σ} {es : List ι} (hs : Inv s) (hC : Steps step C s es) (ht : exec step s es = some t) :
    exec step' (proj s) (es.filter sees) = some (proj t) ∧
      collect step (fun s e => if sees e then obs s e else none) s es =
        collect step' obs' (proj s) (es.filter sees) := by
  induction es generalizing s with
  | nil =>
      simp only [exec_nil, Option.some.injEq] at ht
      rw [ht]
      exact ⟨rfl, rfl⟩
  | cons e es ih =>
      simp only [exec_cons, Option.bind_eq_some_iff] at ht
      obtain ⟨s', he, hrest⟩ := ht
      obtain ⟨hc, hC'⟩ := hC s' he
      obtain ⟨hrun, hcollect⟩ := ih (hkeep s e s' hs he hc) hC' hrest
      by_cases hsees : sees e = true
      · obtain ⟨hstep, hobs⟩ := hseen s e s' hs he hc hsees
        rw [List.filter_cons_of_pos hsees, exec_cons, hstep, Option.bind_some]
        refine ⟨hrun, ?_⟩
        simp only [collect, he, hstep, if_pos hsees, hobs, hcollect]
      · rw [Bool.not_eq_true] at hsees
        have hsame := hunseen s e s' hs he hc hsees
        rw [hsame] at hrun hcollect
        rw [List.filter_cons_of_neg (by simp [hsees])]
        refine ⟨hrun, ?_⟩
        simp only [collect, he, hsees, Bool.false_eq_true, if_false, Option.toList_none,
          List.nil_append, hcollect]

end Run
