/-
What settings can be in the table, whoever writes them at once.

Every save writes a whole row that has passed `full_clean` in memory, so every row that is ever
committed is sound: no secret word in its key, and a value of its type.  Calls that are refused
have written nothing, with one exception: a request saves before its last `full_clean`, and when
its row has been renamed and its key taken in between, it is refused after the fact.

Calls are taken apart into their statements, and any two calls may alternate statement by
statement.  `Writer` has what a call knows between two of them.  That `full_clean` is run on
the row in memory, and that the row is saved whole, is all that soundness rests on; what other
calls write in between does not matter to it.
-/
import Mathlib.Data.Bool.AllAny
import DjangoFoundation.Api.SettingStore

namespace DjangoFoundation

namespace SettingStore

variable {now : Int} {s s' : State} {e : Int × Event} {w : Writer} {row : Setting}
  {rows rows' : Table Setting}

/-! ### Statement

`HasSecretSegment` says what the pattern of `Setting.clean` is for, without its alternation: a
secret word between two delimiters.
-/

def delimiters : List Char := ['.', '_', '-']

/-- Between delimiters, or the ends of the key, there is a secret word, in any case. -/
def HasSecretSegment (key : String) : Prop :=
  ∃ before word after, key.toList = before ++ (word ++ after) ∧
    word.map ignoreCase ∈ Setting.secretWords.map String.toList ∧
    (before = [] ∨ ∃ rest, ∃ c ∈ delimiters, before = rest ++ [c]) ∧
    (after = [] ∨ ∃ rest, ∃ c ∈ delimiters, after = c :: rest)

/-- The value is of the type. -/
def Typed : SettingValueType → Json → Prop
  | .string, value => ∃ text, value = .str text
  | .integer, value => ∃ n, value = .int n
  | .boolean, value => ∃ flag, value = .bool flag
  | .json, _ => True

structure Sound (row : Setting) : Prop where
  key : ¬HasSecretSegment row.key
  value : row.value ≠ .null
  typed : Typed row.valueType row.value

/-- Rows are sound after the step.  A call that is refused has not written, and as long as it has
not it leaves the rows and the cache as they are. -/
structure Clean (s : State) (e : Int × Event) (s' : State) : Prop where
  sound : ∀ row ∈ s'.rows, Sound row
  refused : ∀ w ∈ mover? s e, w.rejects e.1 s = true → w.stage.hasWritten = false
  unchanged : ∀ w ∈ mover? s e, (w.rejects e.1 s = true ∨
      ∃ w' ∈ s'.writers.get? w.id, w'.stage.hasWritten = false) →
    s'.rows = s.rows ∧ s'.cache = s.cache
  forward : ∀ w ∈ mover? s e, w.stage.hasWritten = true →
    ∀ w' ∈ s'.writers.get? w.id, w'.stage.hasWritten = true

/-- The row that a request has saved and is about to check. -/
def Stage.saved? : Stage → Option Setting
  | .saved row => some row
  | _ => none

/-- When a request checks what it has saved, no other row has taken the key. -/
def KeptKey (s : State) (e : Int × Event) (_ : State) : Prop :=
  ∀ w ∈ mover? s e, ∀ row ∈ w.stage.saved?, ∀ other ∈ s.rows.get? row.key, other.pk = row.pk

/-! ### What passes `full_clean`

The pattern looks for a word at every place of the key, from the left.  Each segment is at one
of these places.
-/

/-- Without its first character the text before a word still ends with a delimiter, or the first
was that one. -/
theorem ends_of_cons {c : Char} {before : List Char}
    (h : ∃ rest, ∃ d ∈ delimiters, c :: before = rest ++ [d]) :
    (before = [] ∧ c ∈ delimiters) ∨ ∃ rest, ∃ d ∈ delimiters, before = rest ++ [d] := by
  obtain ⟨rest, d, hd, hsplit⟩ := h
  cases rest with
  | nil =>
      rw [List.nil_append, List.cons.injEq] at hsplit
      exact Or.inl ⟨hsplit.2, hsplit.1 ▸ hd⟩
  | cons b rest =>
      rw [List.cons_append, List.cons.injEq] at hsplit
      exact Or.inr ⟨rest, d, hd, hsplit.2⟩

theorem secretFrom_of_segment {before word after : List Char} {starts : Bool}
    (hstarts : before = [] → starts = true)
    (hbefore : before = [] ∨ ∃ rest, ∃ c ∈ delimiters, before = rest ++ [c])
    (hword : word ∈ Setting.secretWords.map String.toList)
    (hafter : Setting.wordEnds after = true) :
    Setting.secretFrom starts (before ++ (word ++ after)) = true := by
  induction before generalizing starts with
  | nil =>
      obtain ⟨w, hw, rfl⟩ := List.mem_map.mp hword
      have hhere : (Setting.secretWords.any fun word =>
          word.toList.isPrefixOf (w.toList ++ after) &&
            Setting.wordEnds ((w.toList ++ after).drop word.length)) = true := by
        rw [List.any_eq_true]
        refine ⟨w, hw, ?_⟩
        rw [List.drop_left' String.length_toList, hafter, Bool.and_true,
          List.isPrefixOf_iff_prefix]
        exact List.prefix_append _ _
      rw [List.nil_append, Setting.secretFrom.eq_def, hstarts rfl, hhere]
      rfl
  | cons c before ih =>
      have hends := ends_of_cons (hbefore.resolve_left (List.cons_ne_nil c before))
      have hstart : before = [] → (decide (c ∈ ['.', '_', '-'])) = true := by
        intro hnil
        rcases hends with ⟨-, hc⟩ | ⟨rest, d, -, hsplit⟩
        · exact decide_eq_true hc
        · rw [hnil] at hsplit
          exact absurd hsplit (List.append_ne_nil_of_right_ne_nil rest (List.cons_ne_nil d [])).symm
      have hbefore' := hends.imp_left And.left
      rw [List.cons_append, Setting.secretFrom.eq_def]
      dsimp only
      rw [ih hstart hbefore', Bool.or_true]

theorem secretLike_of_segment {key : String} (h : HasSecretSegment key) :
    Setting.secretLike key = true := by
  obtain ⟨before, word, after, hkey, hword, hbefore, hafter⟩ := h
  have hdelimiter : ∀ c ∈ delimiters, ignoreCase c = c :=
    List.all_iff_forall_prop.mp (by decide)
  unfold Setting.secretLike
  rw [hkey, List.map_append, List.map_append]
  refine secretFrom_of_segment (fun _ => rfl) ?_ hword ?_
  · rcases hbefore with rfl | ⟨rest, c, hc, rfl⟩
    · exact Or.inl rfl
    · exact Or.inr ⟨rest.map ignoreCase, c, hc, by
        rw [List.map_append, List.map_singleton, hdelimiter c hc]⟩
  · rcases hafter with rfl | ⟨rest, c, hc, rfl⟩
    · rfl
    · have hmem : (decide (c ∈ ['.', '_', '-'])) = true := decide_eq_true hc
      rw [List.map_cons, hdelimiter c hc, Setting.wordEnds, List.head?_cons, Option.any_some, hmem,
        Bool.or_true]

theorem typed_of_valid {valueType : SettingValueType} {value : Json}
    (h : Setting.valid valueType value = true) : Typed valueType value := by
  cases valueType with
  | json => trivial
  | string =>
      cases value with
      | str text => exact ⟨text, rfl⟩
      | _ => cases h
  | integer =>
      cases value with
      | int n => exact ⟨n, rfl⟩
      | _ => cases h
  | boolean =>
      cases value with
      | bool flag => exact ⟨flag, rfl⟩
      | _ => cases h

/-- **A row without errors is sound.** -/
theorem sound_of_errors (h : row.errors = []) : Sound row := by
  obtain ⟨hfields, hclean⟩ := List.append_eq_nil_iff.mp h
  unfold Setting.cleanErrors at hclean
  by_cases hsecret : Setting.secretLike row.key = true
  · rw [if_pos hsecret] at hclean
    cases hclean
  rw [if_neg hsecret] at hclean
  refine ⟨fun hsegment => hsecret (secretLike_of_segment hsegment), ?_, ?_⟩
  · intro hnull
    unfold Setting.fieldErrors at hfields
    rw [if_pos hnull] at hfields
    simp at hfields
  · by_cases hvalid : Setting.valid row.valueType row.value = true
    · exact typed_of_valid hvalid
    · rw [Bool.not_eq_true] at hvalid
      rw [hvalid] at hclean
      cases hclean

/-! ### One statement

A call is a sequence of statements, and `Turn.Allowed` bounds what each may come to.  The bound
is proved for each kind of call, and once for all of them in `allowed_turn`.
-/

/-- A row that is to be saved, or has been, has no errors of its own. -/
def Stage.Valid : Stage → Prop
  | .checked row _ | .written row _ _ | .saved row => row.errors = []
  | _ => True

/-- Rows are those that were there, and rows without errors. -/
def Grown (rows rows' : Table Setting) : Prop :=
  ∀ row ∈ rows', row ∈ rows ∨ row.errors = []

theorem grown_self (rows : Table Setting) : Grown rows rows := fun _ hrow => Or.inl hrow

theorem grown_save {isNew : Bool} (hrow : row.errors = []) (h : save rows row isNew = some rows') :
    Grown rows rows' := by
  intro a ha
  unfold save at h
  split at h
  · cases h
  · rcases (Table.mem_insert? h).mp ha with hold | rfl
    · exact Or.inl (Table.mem_delete.mp hold).1
    · exact Or.inr hrow

theorem grown_commit (hrow : row.errors = []) (isNew : Bool) :
    Grown rows ((save rows row isNew).getD rows) := by
  cases hsave : save rows row isNew with
  | none => exact grown_self rows
  | some rows' => exact grown_save hrow hsave

theorem errors_of_allErrors (h : row.allErrors rows = []) : row.errors = [] :=
  (List.append_eq_nil_iff.mp h).1

/-- Where a row has no errors of its own, a check finds one exactly where its key is taken. -/
theorem allErrors_eq_nil_iff (hrow : row.errors = []) :
    row.allErrors rows = [] ↔ ∀ other ∈ rows.get? row.key, other.pk = row.pk := by
  unfold Setting.allErrors Setting.uniqueErrors
  rw [hrow]
  cases rows.get? row.key with
  | none => simp
  | some other => simp

theorem errors_registrationSetting (pk : UUID) (now : Int) :
    (Bootstrap.registrationSetting pk now).errors = [] := by
  have hclosed : (Bootstrap.registrationSetting 0 0).errors = [] := by decide +kernel
  exact hclosed

/-- What a statement may come to. -/
def Turn.Allowed (s : State) (w : Writer) : Turn → Prop
  | .wait => True
  | .reject => w.stage.hasWritten = false ∨ ∃ row, w.stage = .saved row ∧ row.allErrors s.rows ≠ []
  | .next stage rows cache => stage.Valid ∧ Grown s.rows rows ∧
      (stage.hasWritten = false → rows = s.rows ∧ cache = s.cache) ∧
      (w.stage.hasWritten = true → stage.hasWritten = true)
  | .finish rows => Grown s.rows rows

theorem allowed_go {stage : Stage} (hstage : stage.Valid)
    (hforward : w.stage.hasWritten = true → stage.hasWritten = true) :
    (Writer.go s stage).Allowed s w :=
  ⟨hstage, grown_self s.rows, fun _ => ⟨rfl, rfl⟩, hforward⟩

/-- A call that has not written may go to any valid stage. -/
theorem allowed_go_of_fresh {stage : Stage} (hstage : stage.Valid)
    (hfresh : w.stage.hasWritten = false) : (Writer.go s stage).Allowed s w := by
  refine allowed_go hstage fun hwritten => ?_
  rw [hfresh] at hwritten
  cases hwritten

theorem allowed_turnSet (h : w.stage.Valid) (args : SetArgs) :
    (w.turnSet now s args).Allowed s w := by
  unfold Writer.turnSet
  cases hstage : w.stage with
  | begun =>
      dsimp only
      split
      · trivial
      · exact allowed_go_of_fresh trivial (by rw [hstage]; rfl)
  | found found =>
      have hfresh : w.stage.hasWritten = false := by rw [hstage]; rfl
      dsimp only
      cases hargs : args.typed? with
      | none => exact Or.inl hfresh
      | some args =>
          dsimp only
          split
          · exact Or.inl hfresh
          · rename_i herrors
            exact allowed_go_of_fresh (errors_of_allErrors (not_not.mp herrors)) hfresh
  | checked row isNew =>
      rw [hstage] at h
      dsimp only
      split
      · trivial
      · split
        · exact Or.inl (by rw [hstage]; rfl)
        · exact allowed_go h fun _ => rfl
  | written row isNew entries =>
      rw [hstage] at h
      cases entries with
      | nil => exact grown_commit h isNew
      | cons publicOnly entries =>
          exact ⟨h, grown_self s.rows, fun hwritten => (by cases hwritten), fun _ => rfl⟩
  | saved row => exact grown_self s.rows

theorem allowed_validate {attrs : SettingViewSet.Attrs} {all isNew : Bool}
    (hstage : w.stage.hasWritten = false) :
    (Writer.validate s attrs all row isNew).Allowed s w := by
  unfold Writer.validate
  split
  · exact Or.inl hstage
  · rename_i hvalid
    have herrors : SettingViewSet.errors s.rows row = [] := by
      by_contra hne
      exact hvalid (by simp [hne])
    refine allowed_go_of_fresh ?_ hstage
    unfold SettingViewSet.errors at herrors
    split at herrors
    · cases herrors
    · exact herrors

theorem allowed_turnSave {isNew : Bool} (hrow : row.errors = [])
    (hstage : w.stage.hasWritten = false) : (w.turnSave now s row isNew).Allowed s w := by
  unfold Writer.turnSave
  split
  · trivial
  · have hstamped : { row with updatedAt := now }.errors = [] := hrow
    cases hsave : save s.rows { row with updatedAt := now } isNew with
    | none => exact Or.inl hstage
    | some rows =>
        exact ⟨hstamped, grown_save hstamped hsave, fun hwritten => (by cases hwritten),
          fun _ => rfl⟩

theorem allowed_turnCreate (h : w.stage.Valid) (body : Body) :
    (w.turnCreate now s body).Allowed s w := by
  unfold Writer.turnCreate
  cases hstage : w.stage with
  | begun =>
      have hfresh : w.stage.hasWritten = false := by rw [hstage]; rfl
      dsimp only
      cases body.attrs? with
      | none => exact Or.inl hfresh
      | some attrs => exact allowed_validate hfresh
  | checked row isNew =>
      rw [hstage] at h
      exact allowed_turnSave h (by rw [hstage]; rfl)
  | found row => exact grown_self s.rows
  | written row isNew entries => exact grown_self s.rows
  | saved row => exact grown_self s.rows

theorem allowed_turnUpdate (h : w.stage.Valid) (pk : UUID) (body : Body) (isPartial : Bool) :
    (w.turnUpdate now s pk body isPartial).Allowed s w := by
  unfold Writer.turnUpdate
  cases hstage : w.stage with
  | begun =>
      have hfresh : w.stage.hasWritten = false := by rw [hstage]; rfl
      dsimp only
      cases SettingViewSet.find? s.rows pk with
      | none => exact Or.inl hfresh
      | some old => exact allowed_go_of_fresh trivial hfresh
  | found found =>
      have hfresh : w.stage.hasWritten = false := by rw [hstage]; rfl
      cases found with
      | none => exact grown_self s.rows
      | some old =>
          dsimp only
          cases body.attrs? with
          | none => exact Or.inl hfresh
          | some attrs => exact allowed_validate hfresh
  | checked row isNew =>
      rw [hstage] at h
      exact allowed_turnSave h (by rw [hstage]; rfl)
  | written row isNew entries => exact grown_self s.rows
  | saved row => exact grown_self s.rows

theorem allowed_turnBootstrap (h : w.stage.Valid) : (w.turnBootstrap now s).Allowed s w := by
  unfold Writer.turnBootstrap
  cases hstage : w.stage with
  | begun =>
      dsimp only
      split
      · exact grown_self s.rows
      · exact allowed_go_of_fresh (errors_registrationSetting w.pk now) (by rw [hstage]; rfl)
  | checked row isNew =>
      rw [hstage] at h
      dsimp only
      split
      · trivial
      · split
        · exact grown_self s.rows
        · exact allowed_go h fun _ => rfl
  | written row isNew entries =>
      rw [hstage] at h
      exact grown_commit h isNew
  | found row => exact grown_self s.rows
  | saved row => exact grown_self s.rows

/-- **Every statement of every call**, inside the invariant. -/
theorem allowed_turn (h : w.stage.Valid) (now : Int) (s : State) : (w.turn now s).Allowed s w := by
  unfold Writer.turn
  split
  · rename_i row hstage
    unfold Writer.turnCheck
    split
    · rename_i herrors
      exact Or.inr ⟨row, hstage, herrors⟩
    · exact grown_self s.rows
  · exact allowed_turnSet h _
  · exact allowed_turnCreate h _
  · exact allowed_turnUpdate h _ _ _
  · exact allowed_turnBootstrap h

/-! ### One step

`Outcome` has four cases: no call moves, or one is rejected, goes on, or comes to its end.
-/

/-- Rows are sound, and what is about to be saved, or has been, has passed its check. -/
structure Inv (s : State) : Prop where
  rows : ∀ row ∈ s.rows, Sound row
  stages : ∀ w ∈ s.writers, w.stage.Valid

theorem sound_of_grown (h : ∀ row ∈ rows, Sound row) (hgrown : Grown rows rows') :
    ∀ row ∈ rows', Sound row := by
  intro row hrow
  rcases hgrown row hrow with hold | herrors
  · exact h row hold
  · exact sound_of_errors herrors

/-- What a step leaves, of the rows, the cache and the calls. -/
inductive Outcome (now : Int) (s : State) : Event → State → Prop
  | idle {event : Event} {t : State} (hmover : ∀ id, event ≠ .go id) (hrows : t.rows = s.rows)
      (hwriters : ∀ w ∈ t.writers, w ∈ s.writers ∨ w.stage = .begun) : Outcome now s event t
  | rejected {a : Writer} (ha : s.writers.get? a.id = some a) (hturn : a.turn now s = .reject) :
      Outcome now s (.go a.id) { s with clock := now, writers := s.writers.erase a.id }
  | next {a : Writer} {stage : Stage} {written : Table Setting} {cache : Memo String Json}
      (ha : s.writers.get? a.id = some a) (hturn : a.turn now s = .next stage written cache) :
      Outcome now s (.go a.id) ⟨now, written, cache, s.writers.put { a with stage := stage }⟩
  | finished {a : Writer} {written : Table Setting} (ha : s.writers.get? a.id = some a)
      (hturn : a.turn now s = .finish written) :
      Outcome now s (.go a.id)
        { s with clock := now, rows := written, writers := s.writers.erase a.id }

theorem outcome_of_step {event : Event} (h : step s (now, event) = some s') :
    Outcome now s event s' := by
  unfold step at h
  split at h
  · cases event with
    | start id pk call =>
        obtain ⟨writers, hwriters, rfl⟩ := Option.map_eq_some_iff.mp h
        refine .idle (fun id h => by cases h) rfl ?_
        intro w hw
        rcases (Table.mem_insert? hwriters).mp hw with hold | rfl
        · exact Or.inl hold
        · exact Or.inr rfl
    | go id =>
        obtain ⟨w, hw, htake⟩ := Option.bind_eq_some_iff.mp h
        have hid : w.id = id := Table.pk_of_get? hw
        subst hid
        have hturn : w.turn now { s with clock := now } = w.turn now s := rfl
        unfold State.take at htake
        rw [hturn] at htake
        cases hcase : w.turn now s with
        | wait =>
            rw [hcase] at htake
            cases htake
        | reject =>
            rw [hcase] at htake
            cases htake
            exact .rejected hw hcase
        | next stage rows cache =>
            rw [hcase] at htake
            cases htake
            exact .next hw hcase
        | finish rows =>
            rw [hcase] at htake
            cases htake
            exact .finished hw hcase
    | drop id =>
        obtain ⟨w, hw, rfl⟩ := Option.map_eq_some_iff.mp h
        exact .idle (fun id h => by cases h) rfl fun w hw => Or.inl (Table.mem_erase.mp hw).1
    | fill cacheKey value =>
        cases h
        exact .idle (fun id h => by cases h) rfl fun w hw => Or.inl hw
    | evict cacheKey =>
        cases h
        exact .idle (fun id h => by cases h) rfl fun w hw => Or.inl hw
  · cases h

theorem mover?_eq_some {event : Event} (h : w ∈ mover? s (now, event)) :
    event = .go w.id ∧ s.writers.get? w.id = some w := by
  cases event with
  | go id =>
      have hget : s.writers.get? id = some w := h
      have hid : w.id = id := Table.pk_of_get? hget
      subst hid
      exact ⟨rfl, hget⟩
  | _ => cases h

theorem turn_of_rejects (h : w.rejects now s = true) : w.turn now s = .reject := by
  unfold Writer.rejects at h
  split at h
  · assumption
  · cases h

theorem eq_saved {stage : Stage} (h : row ∈ stage.saved?) : stage = .saved row := by
  cases stage with
  | saved saved => exact congrArg Stage.saved (Option.some.inj h)
  | _ => cases h

/-- Every step keeps rows sound. -/
theorem inv_step (hinv : Inv s) (h : step s e = some s') : Inv s' := by
  obtain ⟨now, event⟩ := e
  cases outcome_of_step h with
  | idle _ hrows hwriters =>
      refine ⟨hrows ▸ hinv.rows, ?_⟩
      intro w hw
      rcases hwriters w hw with hold | hbegun
      · exact hinv.stages w hold
      · rw [hbegun]
        trivial
  | rejected ha hturn =>
      exact ⟨hinv.rows, fun w hw => hinv.stages w (Table.mem_erase.mp hw).1⟩
  | next ha hturn =>
      have hallowed := allowed_turn (hinv.stages _ (Table.mem_of_get? ha)) now s
      rw [hturn] at hallowed
      obtain ⟨hstage, hgrown, -, -⟩ := hallowed
      refine ⟨sound_of_grown hinv.rows hgrown, ?_⟩
      intro w hw
      rcases Table.mem_put.mp hw with rfl | ⟨hold, -⟩
      · exact hstage
      · exact hinv.stages w hold
  | finished ha hturn =>
      have hallowed := allowed_turn (hinv.stages _ (Table.mem_of_get? ha)) now s
      rw [hturn] at hallowed
      exact ⟨sound_of_grown hinv.rows hallowed,
        fun w hw => hinv.stages w (Table.mem_erase.mp hw).1⟩

/-- A call that is refused has not written, unless a request finds the key of its row taken. -/
theorem refused_iff (hinv : Inv s) (hw : w ∈ mover? s e) :
    (w.rejects e.1 s = true → w.stage.hasWritten = false) ↔
      ∀ row ∈ w.stage.saved?, ∀ other ∈ s.rows.get? row.key, other.pk = row.pk := by
  have hvalid : w.stage.Valid := hinv.stages w (Table.mem_of_get? (mover?_eq_some hw).2)
  constructor
  · intro hrefused row hrow other hother
    by_contra hne
    have hstage := eq_saved hrow
    have herrors : row.allErrors s.rows ≠ [] := by
      rw [hstage] at hvalid
      exact fun hnil => hne ((allErrors_eq_nil_iff hvalid).mp hnil other hother)
    have hturn : w.turn e.1 s = .reject := by
      rw [Writer.turn, hstage]
      exact if_pos herrors
    have hfresh := hrefused (by rw [Writer.rejects, hturn])
    rw [hstage] at hfresh
    cases hfresh
  · intro hkept hrejects
    have hallowed := allowed_turn hvalid e.1 s
    rw [turn_of_rejects hrejects] at hallowed
    rcases hallowed with hfresh | ⟨row, hstage, herrors⟩
    · exact hfresh
    · rw [hstage] at hvalid hkept
      exact absurd ((allErrors_eq_nil_iff hvalid).mpr (hkept row rfl)) herrors

/-- What a call does to the rows and the cache before it has written, and that it stays written. -/
theorem moved_step (hinv : Inv s) (h : step s e = some s') (hw : w ∈ mover? s e) :
    ((w.rejects e.1 s = true ∨ ∃ w' ∈ s'.writers.get? w.id, w'.stage.hasWritten = false) →
      s'.rows = s.rows ∧ s'.cache = s.cache) ∧
    (w.stage.hasWritten = true → ∀ w' ∈ s'.writers.get? w.id, w'.stage.hasWritten = true) := by
  obtain ⟨now, event⟩ := e
  obtain ⟨rfl, hget⟩ := mover?_eq_some hw
  have hallowed := allowed_turn (hinv.stages w (Table.mem_of_get? hget)) now s
  have hgone : (s.writers.erase w.id).get? w.id = none := by rw [Table.get?_erase, if_pos rfl]
  have hput (stage : Stage) :
      (s.writers.put { w with stage := stage }).get? w.id = some { w with stage := stage } := by
    rw [Table.get?_put]
    exact if_pos rfl
  generalize hid : w.id = id at h
  cases outcome_of_step h with
  | idle hmover => exact absurd rfl (hmover id)
  | rejected ha hturn =>
      rw [← hid, hget, Option.some.injEq] at ha
      subst ha
      refine ⟨fun _ => ⟨rfl, rfl⟩, ?_⟩
      intro _ w' hw'
      rw [hgone] at hw'
      cases hw'
  | next ha hturn =>
      rw [← hid, hget, Option.some.injEq] at ha
      subst ha
      rw [hturn] at hallowed
      obtain ⟨-, -, hquiet, hforward⟩ := hallowed
      constructor
      · rintro (hrejects | ⟨w', hw', hfresh⟩)
        · rw [Writer.rejects, hturn] at hrejects
          cases hrejects
        · rw [hput] at hw'
          cases hw'
          exact hquiet hfresh
      · intro hwritten w' hw'
        rw [hput] at hw'
        cases hw'
        exact hforward hwritten
  | finished ha hturn =>
      rw [← hid, hget, Option.some.injEq] at ha
      subst ha
      constructor
      · rintro (hrejects | ⟨w', hw', _⟩)
        · rw [Writer.rejects, hturn] at hrejects
          cases hrejects
        · rw [hgone] at hw'
          cases hw'
      · intro _ w' hw'
        rw [hgone] at hw'
        cases hw'

/-- **A step is clean** exactly when no key is lost between a request's save and its check. -/
theorem clean_step_iff (hinv : Inv s) (h : step s e = some s') :
    Clean s e s' ↔ KeptKey s e s' := by
  have hrefused : (∀ w ∈ mover? s e, w.rejects e.1 s = true → w.stage.hasWritten = false) ↔
      KeptKey s e s' := forall₂_congr fun w hw => refused_iff hinv hw
  rw [← hrefused]
  refine ⟨Clean.refused, fun hclean => ⟨(inv_step hinv h).rows, hclean, ?_, ?_⟩⟩
  · exact fun w hw => (moved_step hinv h hw).1
  · exact fun w hw => (moved_step hinv h hw).2

/-! ### Runs

Soundness needs no condition.  The refusal after a save needs the one that `KeptKey` states.
-/

instance decidableKeptKey (s : State) (e : Int × Event) (s' : State) :
    Decidable (KeptKey s e s') :=
  inferInstanceAs (Decidable (∀ w ∈ mover? s e, ∀ row ∈ w.stage.saved?,
    ∀ other ∈ s.rows.get? row.key, other.pk = row.pk))

/-- **Whatever is committed is sound**, in every run; and a call that is refused has written
nothing exactly in the runs in which no key is lost between a request's save and its check. -/
theorem store_sound (clock : Int) (h : ∀ row ∈ rows, Sound row) (cache : Memo String Json)
    (es : List (Int × Event)) :
    Run.Always step (fun s => ∀ row ∈ s.rows, Sound row) ⟨clock, rows, cache, ∅⟩ es ∧
    (Run.Steps step Clean ⟨clock, rows, cache, ∅⟩ es ↔
      Run.Steps step KeptKey ⟨clock, rows, cache, ∅⟩ es) := by
  have hstart : Inv ⟨clock, rows, cache, ∅⟩ :=
    ⟨h, fun w hw => absurd hw (Table.not_mem_empty w)⟩
  have hstep : ∀ s e s', Inv s → step s e = some s' → True → Inv s' ∧ ∀ row ∈ s'.rows, Sound row :=
    fun s e s' hinv hs _ => ⟨inv_step hinv hs, (inv_step hinv hs).rows⟩
  have hfree : Run.Steps step (fun _ _ _ => True) ⟨clock, rows, cache, ∅⟩ es :=
    Run.Steps.of_forall (fun _ _ _ _ => trivial) _ es
  refine ⟨⟨h, Run.Steps.of_inv hstep hstart hfree⟩, ?_⟩
  exact Run.steps_iff_of_inv (fun s e s' => clean_step_iff)
    (fun s e s' hinv hs _ => inv_step hinv hs) hstart es

/-- Three calls one after the other: a setting is made, a request gives it another type with a
value of that type, and a secret is refused. -/
def oneByOne : List (Int × Event) :=
  [(0, .start 0 7 (.set ⟨"site.limit", .str "10", "string", none, none, none⟩)),
    (0, .go 0), (0, .go 0), (0, .go 0), (0, .go 0), (0, .go 0), (1, .go 0),
    (2, .start 1 8 (.update 7 { value := some (.int 10), valueType := some "integer" } true)),
    (2, .go 1), (2, .go 1), (2, .go 1), (3, .go 1),
    (4, .start 2 9 (.set ⟨"smtp.password", .str "hunter2", "string", none, none, none⟩)),
    (4, .go 2), (4, .go 2)]

theorem store_sound_one_by_one :
    Run.Always step (fun s => ∀ row ∈ s.rows, Sound row)
        ⟨0, {Bootstrap.registrationSetting 1 0}, ∅, ∅⟩ oneByOne ∧
      Run.Steps step Clean ⟨0, {Bootstrap.registrationSetting 1 0}, ∅, ∅⟩ oneByOne := by
  have hrows : ∀ row ∈ ({Bootstrap.registrationSetting 1 0} : Table Setting), Sound row := by
    intro row hrow
    rw [List.mem_singleton.mp (Table.mem_rows.mpr hrow)]
    exact sound_of_errors (errors_registrationSetting 1 0)
  exact ⟨(store_sound 0 hrows ∅ oneByOne).1,
    (store_sound 0 hrows ∅ oneByOne).2.mpr (by decide +kernel)⟩

def made (key : String) : Body :=
  { key := some key, value := some (.int 1), valueType := some "integer" }

def renamed (key : String) : Body := { key := some key }

/-- Two requests rename the setting `a.x`, the first to `b.x`, and before that one checks what it
has saved, a third makes another setting `b.x`. -/
def keyTaken : List (Int × Event) :=
  [(0, .start 0 1 (.create (made "a.x"))), (0, .go 0), (0, .go 0), (0, .go 0),
    (1, .start 1 0 (.update 1 (renamed "b.x") true)), (1, .go 1), (1, .go 1), (1, .go 1),
    (2, .start 2 0 (.update 1 (renamed "c.x") true)), (2, .go 2), (2, .go 2), (2, .go 2),
    (2, .go 2),
    (3, .start 3 2 (.create (made "b.x"))), (3, .go 3), (3, .go 3), (3, .go 3)]

/-- The first renaming is refused after it has been committed. -/
theorem refused_after_commit :
    ¬Run.Steps step Clean ⟨0, ∅, ∅, ∅⟩ (keyTaken ++ [(4, .go 1)]) := by
  intro hclean
  obtain ⟨t, t', ht, -, hstep⟩ := Run.Steps.last hclean
    (f := fun t => (t.writers.get? 1).map fun w => (w.id, w.rejects 4 t, w.stage.hasWritten))
    (g := fun _ => ()) (a := some (1, true, true)) (b := ()) (by decide +kernel) (by decide +kernel)
  obtain ⟨w, hw, hseen⟩ := Option.map_eq_some_iff.mp ht
  simp only [Prod.mk.injEq] at hseen
  have hfresh := hstep.refused w hw hseen.2.1
  rw [hseen.2.2] at hfresh
  cases hfresh

end SettingStore

end DjangoFoundation
