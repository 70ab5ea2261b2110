/-
Records and the values they are of.

The image of a field is the value the row stores in it, as an instance shows it.  A record of
an update is true where each of its `before` values is the image of the field before the update
and each of its `after` values the image after it.  What a record has instead is read from an
instance, from a dictionary of the database or from the data of the request: each of these is
compared with the image, field by field, and an update is recorded truly exactly where they
agree on every field recorded.

The values recorded by one update and by the next are both compared with what is stored between
them, so true records of updates of one row agree with each other.

Two kinds of updates are followed, those through a viewset and those through a form of the
admin, since they take their values from different places.
-/
import DjangoFoundation.Common.Admin
import DjangoFoundation.Proofs.Audit.Atomic
import Mathlib.Data.List.Chain

namespace DjangoFoundation.Audited

/-! ### Images

What is stored is not what an instance shows: a many-to-many field shows a manager, and a
sensitive field a mask.  Where the two agree is worked out here once, by the kind of column.
-/

/-- The value stored: of a foreign key the row it is to, of a many-to-many field all of them. -/
def Column.image (rows : Table Row) : Column → Item
  | .manyToMany _ shown => .json (.list (shown.map .str))
  | column => column.attribute rows

/-- What is stored for a field, or nothing. -/
def Store.image (store : Store) (key : Model × UUID) (field : String) : Item :=
  (((store.rows.get? key).bind fun row => row.column? field).map
    (Column.image store.rows)).getD (.json .null)

/-- The record shows what was stored, and what is stored now. -/
structure Images (key : Model × UUID) (store store' : Store) (log : Log) : Prop where
  before : ∀ item ∈ log.before, item.2 = shown item.1 (store.image key item.1)
  after : ∀ item ∈ log.after, item.2 = shown item.1 (store'.image key item.1)

/-- A record of a list of fields is true where it is of each of them. -/
theorem images_iff {α : Type} {key : Model × UUID} {store store' : Store} {log : Log} {l : List α}
    {name : α → String} {before after : α → Item}
    (hbefore : log.before = sanitize (l.map fun x => (name x, before x)))
    (hafter : log.after = sanitize (l.map fun x => (name x, after x))) :
    Images key store store' log ↔ ∀ x ∈ l,
      shown (name x) (before x) = shown (name x) (store.image key (name x)) ∧
        shown (name x) (after x) = shown (name x) (store'.image key (name x)) := by
  unfold sanitize at hbefore hafter
  rw [List.map_map] at hbefore hafter
  constructor
  · intro himages x hx
    refine ⟨himages.before (name x, _) ?_, himages.after (name x, _) ?_⟩
    · rw [hbefore]
      exact List.mem_map_of_mem hx
    · rw [hafter]
      exact List.mem_map_of_mem hx
  · intro hall
    refine ⟨fun item hitem => ?_, fun item hitem => ?_⟩
    · rw [hbefore] at hitem
      obtain ⟨x, hx, rfl⟩ := List.mem_map.mp hitem
      exact (hall x hx).1
    · rw [hafter] at hitem
      obtain ⟨x, hx, rfl⟩ := List.mem_map.mp hitem
      exact (hall x hx).2

/-- The column is not of a foreign key that holds one, and not many-to-many. -/
def Column.plain : Column → Bool
  | .foreignKey _ (some _) => false
  | .manyToMany _ _ => false
  | _ => true

theorem concrete_of_plain {column : Column} (h : column.plain = true) :
    column.kind.concrete = true := by
  cases column with
  | manyToMany name related => cases h
  | _ => rfl

theorem image_of_column {store : Store} {key : Model × UUID} {row : Row} {field : String}
    {column : Column} (hrow : store.rows.get? key = some row)
    (hcolumn : row.column? field = some column) :
    store.image key field = column.image store.rows := by
  unfold Store.image
  rw [hrow, Option.bind_some, hcolumn]
  rfl

theorem attribute_of_column {rows : Table Row} {row : Row} {field : String} {column : Column}
    (hcolumn : row.column? field = some column) :
    row.attribute rows field = column.attribute rows := by
  unfold Row.attribute
  rw [hcolumn]
  rfl

/-- An instance shows what is stored, but for many-to-many fields. -/
theorem image_eq_attribute {column : Column} (h : column.kind.concrete = true) (rows : Table Row) :
    column.image rows = column.attribute rows := by
  cases column with
  | manyToMany name related => cases h
  | _ => rfl

/-- A manager shows nothing of what is stored. -/
theorem shown_manager {column : Column} (h : column.kind.concrete = false) {field : String}
    (hfield : sensitiveKey field = false) (rows rows' : Table Row) :
    shown field (column.attribute rows) ≠ shown field (column.image rows') := by
  cases column with
  | manyToMany name related =>
      unfold shown
      rw [hfield]
      intro heq
      cases heq
  | _ => cases h

theorem shown_sensitive {field : String} (h : sensitiveKey field = true) (item item' : Item) :
    shown field item = shown field item' := by
  unfold shown
  rw [if_pos h, if_pos h]

theorem value_of_column {row : Row} {field : String} {column : Column}
    (hcolumn : row.column? field = some column) (rows : Table Row) :
    row.value field = if column.plain then column.image rows else .json .null := by
  unfold Row.value
  rw [hcolumn]
  cases column with
  | json value => rfl
  | instant value => cases value <;> rfl
  | foreignKey related pk => cases pk <;> rfl
  | manyToMany name related => rfl

/-- Where the database has no entry for a field, what it stores is not nothing. -/
theorem shown_image_ne {column : Column} (h : column.plain = false) {field : String}
    (hfield : sensitiveKey field = false) (rows : Table Row) :
    shown field (.json .null) ≠ shown field (column.image rows) := by
  unfold shown
  rw [hfield]
  cases column with
  | json value => cases h
  | instant value => cases h
  | foreignKey related pk =>
      cases pk with
      | none => cases h
      | some pk =>
          intro heq
          cases heq
  | manyToMany name related =>
      intro heq
      cases heq

/-! ### Related rows

A foreign key shows as the text of the row it is to.  Storing a row could change that text for
others, and the first lemma rules it out for the models there are.
-/

/-- Foreign keys are to other models, and to none whose text is that of a third. -/
theorem foreignKey_ne {model : Model} {field : String × Kind} (h : field ∈ model.fields) :
    field.2 ≠ .foreignKey model ∧ field.2 ≠ .foreignKey .userBan := by
  have hfields : ∀ model : Model, ∀ field ∈ model.fields,
      field.2 ≠ .foreignKey model ∧ field.2 ≠ .foreignKey .userBan := by
    intro model
    cases model <;> decide
  exact hfields model field h

theorem str_congr {row : Row} (h : row.model ≠ .userBan) (rows rows' : Table Row) :
    row.str rows = row.str rows' := by
  unfold Row.str
  split
  case h_8 hban => exact absurd hban h
  all_goals rfl

/-- Storing a row changes nothing of how its instances show. -/
theorem attribute_put {row : Row} {field : String} {column : Column}
    (h : (field, column.kind) ∈ row.model.fields) (rows : Table Row) :
    column.attribute (rows.put row) = column.attribute rows := by
  obtain ⟨hown, hban⟩ := foreignKey_ne h
  cases column with
  | foreignKey related pk =>
      cases pk with
      | none => rfl
      | some pk =>
          have hget : (rows.put row).get? (related, pk) = rows.get? (related, pk) := by
            rw [Table.get?_put, if_neg]
            exact fun hkey => hown (congrArg Kind.foreignKey (Prod.mk.inj hkey).1.symm)
          show Item.object (((_ : Table Row).get? (related, pk)).map _ |>.getD "") =
            .object (((_ : Table Row).get? (related, pk)).map _ |>.getD "")
          rw [hget]
          cases hrelated : rows.get? (related, pk) with
          | none => rfl
          | some other =>
              have hother : other.model ≠ .userBan := by
                rw [(Row.of_get? hrelated).1]
                exact fun hmodel => hban (congrArg Kind.foreignKey hmodel)
              exact congrArg Item.object (str_congr hother _ _)
  | instant value => cases value <;> rfl
  | _ => rfl

/-! ### The admin

Of the fields that have changed the form records what they were from a dictionary of the
database, and what they are from the instance.  For a foreign key the dictionary has an id,
under another name, and an instance shows the row; a field that is many-to-many the dictionary
does not have.
-/

namespace Form

variable (unicode : Unicode) (now : Int) {form : Form}

theorem mem_changed {field : String} (h : field ∈ form.changed) :
    field = "id" ∨ ∃ kind, (field, kind) ∈ form.model.fields := by
  unfold changed at h
  split at h
  · rcases List.mem_cons.mp h with rfl | h
    · exact Or.inl rfl
    · obtain ⟨⟨name, kind⟩, hmem, rfl⟩ := List.mem_map.mp h
      exact Or.inr ⟨kind, (List.mem_filter.mp hmem).1⟩
  · obtain ⟨⟨name, column⟩, hmem, rfl⟩ := List.mem_map.mp h
    exact Or.inr ⟨column.kind, form.attrs.fits _ hmem⟩

theorem object?_some {rows : Table Row} {row : Row} (h : form.object? now rows = some row) :
    (row.model = form.model ∧ row.pk = form.pk) ∧
      (form.change = true ∧ rows.get? form.key = some row ∨
        form.change = false ∧ rows.get? form.key = none ∧ row = Row.new form.model form.pk now) := by
  unfold object? at h
  cases hget : rows.get? form.key with
  | some stored =>
      rw [hget] at h
      cases hchange : form.change with
      | true =>
          rw [hchange] at h
          cases h
          exact ⟨Row.of_get? hget, Or.inl ⟨rfl, rfl⟩⟩
      | false =>
          rw [hchange] at h
          cases h
  | none =>
      rw [hget] at h
      cases hchange : form.change with
      | true =>
          rw [hchange] at h
          cases h
      | false =>
          rw [hchange] at h
          cases h
          exact ⟨⟨rfl, rfl⟩, Or.inr ⟨rfl, rfl, rfl⟩⟩

/-- Saving replaces columns by columns of their kind. -/
theorem saved_column {row : Row} (hmodel : row.model = form.model) {field : String}
    (h : field ∈ form.changed) :
    ∃ column saved, row.column? field = some column ∧
      (form.obj unicode now row).column? field = some saved ∧
      saved.kind = column.kind := by
  rcases mem_changed h with rfl | ⟨kind, hfield⟩
  · exact ⟨_, _, if_pos rfl, if_pos rfl, rfl⟩
  · obtain ⟨column, hcolumn, -⟩ := Row.exists_column (hmodel ▸ hfield)
    have hid := Row.ne_id hfield
    refine ⟨column, _, hcolumn, Row.column?_rewrite hid (Row.column?_rewrite hid hcolumn _) _, ?_⟩
    rw [Column.kind_assign, Column.kind_assign]

/-- A new instance holds no foreign keys. -/
theorem plain_new {model : Model} {pk : UUID} {field : String} {column : Column}
    (h : (Row.new model pk now).column? field = some column) :
    column.plain = column.kind.concrete := by
  have hdefaults : ((model.defaults now).all fun item =>
      item.2.plain == item.2.kind.concrete) = true := by
    cases model <;> rfl
  by_cases hid : field = "id"
  · rw [hid] at h
    cases h
    rfl
  · rw [Row.column?_of_lookup hid] at h
    exact eq_of_beq (List.all_eq_true.mp hdefaults _ (Row.mem_of_lookup h))

/-- One field is recorded truly where it is hidden, or holds neither a foreign key nor many. -/
theorem field_images {store : Store} {row : Row} (hrow : form.object? now store.rows = some row)
    {field : String} (hfield : field ∈ form.changed) :
    (shown field (form.before row field) = shown field (store.image form.key field) ∧
      shown field ((form.obj unicode now row).attribute
          (form.saveModel unicode now store row).rows field) =
        shown field ((form.saveModel unicode now store row).image form.key field)) ↔
      (sensitiveKey field = true ∨ ∀ column ∈ row.column? field, column.plain = true) := by
  obtain ⟨⟨hmodel, hpk⟩, hstored⟩ := object?_some now hrow
  obtain ⟨column, saved, hcolumn, hsaved, hkind⟩ := saved_column unicode now hmodel hfield
  have hget : (form.saveModel unicode now store row).rows.get? form.key =
      some (form.obj unicode now row) := by
    show (store.rows.put _).get? _ = _
    rw [Table.get?_put]
    exact if_pos (Prod.ext hmodel hpk)
  rw [image_of_column hget hsaved, attribute_of_column hsaved]
  cases hsensitive : sensitiveKey field with
  | true =>
      exact iff_of_true ⟨shown_sensitive hsensitive _ _, shown_sensitive hsensitive _ _⟩
        (Or.inl rfl)
  | false =>
      rw [hcolumn]
      simp only [Bool.false_eq_true, false_or, Option.mem_some_iff, forall_eq']
      rcases hstored with ⟨hchange, hold⟩ | ⟨hchange, hnone, rfl⟩
      · have hbefore : form.before row field = row.value field := if_pos hchange
        rw [hbefore, image_of_column hold hcolumn, value_of_column hcolumn store.rows]
        cases hplain : column.plain with
        | true =>
            refine iff_of_true ⟨rfl, ?_⟩ rfl
            rw [image_eq_attribute (hkind ▸ concrete_of_plain hplain)]
        | false =>
            exact iff_of_false (fun h => shown_image_ne hplain hsensitive _ h.1) Bool.false_ne_true
      · have hbefore : form.before (Row.new form.model form.pk now) field = .json .null :=
          if_neg (by rw [hchange]; exact Bool.false_ne_true)
        have himage : store.image form.key field = .json .null := by
          unfold Store.image
          rw [hnone]
          rfl
        rw [hbefore, himage, plain_new now hcolumn, ← hkind]
        cases hconcrete : saved.kind.concrete with
        | true =>
            refine iff_of_true ⟨rfl, ?_⟩ rfl
            rw [image_eq_attribute hconcrete]
        | false =>
            exact iff_of_false (fun h => shown_manager hconcrete hsensitive _ _ h.2)
              Bool.false_ne_true

/-- **The record of a change in the admin is true exactly where every field of it is.** -/
theorem log_images {store : Store} {row : Row} (hrow : form.object? now store.rows = some row) :
    Images form.key store (form.saveModel unicode now store row)
        (form.log unicode now (form.saveModel unicode now store row).rows row) ↔
      ∀ field ∈ form.changed,
        sensitiveKey field = true ∨ ∀ column ∈ row.column? field, column.plain = true := by
  rw [images_iff rfl rfl]
  exact forall₂_congr fun field hfield => field_images unicode now hrow hfield

end Form

/-! ### The viewsets

A viewset takes the values of before from the instance it has read and those of after from the
data that were validated.  Validation may have put something on the instance by then, and
saving may still change a value on its way, as cleaning a user does.
-/

namespace View

variable {view : View}

theorem mem_fields {field : String × Kind} (h : field ∈ view.fields) : field ∈ view.model.fields :=
  (List.mem_filter.mp h).1

/-- No serializer writes a many-to-many field. -/
theorem concrete_of_mem {field : String × Kind} (h : field ∈ view.fields) :
    field.2.concrete = true := by
  have hfields : ∀ view : View, ∀ field ∈ view.fields, field.2.concrete = true := by
    intro view
    cases view <;> decide +kernel
  exact hfields view field h

/-- Of the fields a serializer writes, saving changes those of users alone. -/
theorem presave_of_mem (unicode : Unicode) (now : Int) {name : String} {kind : Kind}
    (h : (name, kind) ∈ view.fields) (column : Column) :
    presave unicode now view.model name column =
      if view = .userAdmin then cleanedUser unicode name column else column := by
  have hwritable : ∀ view : View, "updated_at" ∉ view.writable := by
    intro view
    cases view <;> decide
  have hname : name ≠ "updated_at" := by
    rintro rfl
    exact hwritable view (of_decide_eq_true (List.mem_filter.mp h).2)
  unfold presave
  rw [if_neg hname]
  cases view <;> rfl

end View

theorem kind_cleanedUser (unicode : Unicode) (name : String) (column : Column) :
    (cleanedUser unicode name column).kind = column.kind := by
  unfold cleanedUser
  split
  · split
    · exact Column.kind_text _
    · split
      · exact Column.kind_text _
      · rfl
  · rfl

theorem text_of_shown {name : String} (h : sensitiveKey name = false) {value value' : String}
    (heq : shown name (.json (.str value)) = shown name (.json (.str value'))) : value = value' := by
  simpa only [shown, h, Bool.false_eq_true, if_false, sanitizeItem, sanitizeJson, Item.json.injEq,
    Json.str.injEq] using heq

/-- What cleaning changes shows. -/
theorem shown_cleanedUser (unicode : Unicode) (name : String) (column : Column) (rows : Table Row) :
    shown name (column.attribute rows) =
        shown name ((cleanedUser unicode name column).attribute rows) ↔
      cleanedUser unicode name column = column := by
  refine ⟨fun h => ?_, fun h => by rw [h]⟩
  cases column with
  | json value =>
      cases value with
      | str value =>
          by_cases hemail : name = "email"
          · have hcleaned : cleanedUser unicode name (.json (.str value)) =
                .text (unicode.normalizeEmailAddress value) := if_pos hemail
            rw [hcleaned] at h ⊢
            exact congrArg Column.text (text_of_shown (by rw [hemail]; decide) h).symm
          · by_cases husername : name = "username"
            · have hcleaned : cleanedUser unicode name (.json (.str value)) =
                  .text (unicode.stripped value) := (if_neg hemail).trans (if_pos husername)
              rw [hcleaned] at h ⊢
              exact congrArg Column.text (text_of_shown (by rw [husername]; decide) h).symm
            · exact (if_neg hemail).trans (if_neg husername)
      | _ => rfl
  | _ => rfl

namespace Request

variable (unicode : Unicode) (now : Int) (request : Request)

/-- An update with these data is recorded. -/
def Records (attrs : Attrs request.view.fields) : Prop :=
  request.Passes .select ∧ request.Passes .validate ∧
    if request.view = .userAdmin then request.Commits attrs
    else request.Passes .save ∧ request.Recorded

/-- The row it stores. -/
def updated (attrs : Attrs request.view.fields) (row : Row) : Row :=
  (attrs.onto row).saved unicode now

/-- The record, of a row among `rows`. -/
def updateLog (rows : Table Row) (attrs : Attrs request.view.fields) (row : Row) : Log :=
  request.log (rows.put (request.updated unicode now attrs row)) "updated"
    (request.updated unicode now attrs row) (attrs.before rows (request.validatedInstance attrs row))
    (attrs.after rows)

variable {request}

/-- What is added to the log by an update that is recorded, and by one that is not. -/
theorem performUpdate_logs {store : Store} {row : Row} (attrs : Attrs request.view.fields)
    (hselect : request.Passes .select) (hvalid : request.Passes .validate) :
    let store' := ((request.performUpdate unicode now (request.validatedInstance attrs row)
      attrs).run store).2
    (request.Records attrs → store'.rows = store.rows.put (request.updated unicode now attrs row) ∧
      ∃ revoked, store'.auditLogs =
          store.auditLogs ++ (revoked ++ [request.updateLog unicode now store.rows attrs row]) ∧
        ∀ log ∈ revoked, request.describes .updated log = false) ∧
    (¬request.Records attrs → store'.auditLogs = store.auditLogs) := by
  unfold Records updateLog updated
  have hinstance := onto_validatedInstance attrs row
  by_cases huser : request.view = .userAdmin
  · rw [if_pos huser]
    by_cases hcommits : request.Commits attrs
    · refine ⟨fun _ => ?_, fun h => absurd ⟨hselect, hvalid, hcommits⟩ h⟩
      obtain ⟨hrows, revoked, hlogs, hrevoked⟩ :=
        userUpdate_commits unicode now huser hcommits (request.validatedInstance attrs row) store
      rw [hinstance] at hrows hlogs
      exact ⟨hrows, revoked, hlogs, hrevoked .updated⟩
    · rw [performUpdate_user unicode now huser, userUpdate_snd, if_neg hcommits]
      exact ⟨fun h => absurd h.2.2 hcommits, fun _ => rfl⟩
  · rw [performUpdate_snd unicode now huser, hinstance, if_neg huser]
    by_cases hsave : request.Passes .save
    · rw [if_pos hsave]
      dsimp only
      by_cases hrecorded : request.Recorded
      · rw [if_pos hrecorded]
        refine ⟨fun _ => ⟨rfl, [], rfl, fun log hlog => absurd hlog List.not_mem_nil⟩, fun h => ?_⟩
        exact absurd ⟨hselect, hvalid, hsave, hrecorded⟩ h
      · rw [if_neg hrecorded]
        exact ⟨fun h => absurd h.2.2.2 hrecorded, fun _ => rfl⟩
    · rw [if_neg hsave]
      exact ⟨fun h => absurd h.2.2.1 hsave, fun _ => rfl⟩

/-- What an update that is recorded stores and adds. -/
theorem update_recorded {attrs : Attrs request.view.fields} (haction : request.action = .update attrs)
    {store : Store} {row : Row} (hrow : store.rows.get? request.key = some row)
    (hrecords : request.Records (request.validated unicode attrs)) :
    let store' := ((request.dispatch unicode now).run store).2
    store'.rows = store.rows.put (request.updated unicode now (request.validated unicode attrs) row) ∧
      (store'.auditLogs.drop store.auditLogs.length).find? (request.describes .updated) =
        some (request.updateLog unicode now store.rows (request.validated unicode attrs) row) := by
  rw [dispatch_update unicode now haction hrow, if_pos ⟨hrecords.1, hrecords.2.1⟩]
  obtain ⟨hrows, revoked, hlogs, hrevoked⟩ := (performUpdate_logs unicode now
    (request.validated unicode attrs) hrecords.1 hrecords.2.1).1 hrecords
  refine ⟨hrows, ?_⟩
  rw [hlogs, List.drop_left, List.find?_append, List.find?_eq_none.mpr]
  · refine List.find?_cons_of_pos (describes_log ?_)
    exact key_saved unicode now _ (Table.pk_of_get? hrow)
  · intro log hlog
    rw [hrevoked log hlog]
    exact Bool.false_ne_true

theorem update_unrecorded {attrs : Attrs request.view.fields}
    (haction : request.action = .update attrs) {store : Store}
    (h : ∀ row, store.rows.get? request.key = some row →
      ¬request.Records (request.validated unicode attrs)) :
    (((request.dispatch unicode now).run store).2.auditLogs.drop store.auditLogs.length).find?
      (request.describes .updated) = none := by
  have hlogs : ((request.dispatch unicode now).run store).2.auditLogs = store.auditLogs := by
    cases hrow : store.rows.get? request.key with
    | none => rw [dispatch_update_none unicode now haction hrow]
    | some row =>
        rw [dispatch_update unicode now haction hrow]
        by_cases hgo : request.Passes .select ∧ request.Passes .validate
        · rw [if_pos hgo]
          exact (performUpdate_logs unicode now _ hgo.1 hgo.2).2 (h row hrow)
        · rw [if_neg hgo]
  rw [hlogs, List.drop_length]
  rfl

/-- What it takes to record a field truly: of a setting that it keeps its value, and of a user
that the value is clean. -/
def Keeps (request : Request) (rows : Table Row) (row : Row) (item : String × Column) : Prop :=
  (request.view = .setting →
    shown item.1 (item.2.attribute rows) = shown item.1 (row.attribute rows item.1)) ∧
  (request.view = .userAdmin → cleanedUser unicode item.1 item.2 = item.2)

/-- The column an update leaves. -/
theorem updated_column {attrs : Attrs request.view.fields} {row : Row}
    (hmodel : row.model = request.view.model) {item : String × Column} (hitem : item ∈ attrs.items) :
    (request.updated unicode now attrs row).column? item.1 =
      some (if request.view = .userAdmin then cleanedUser unicode item.1 item.2 else item.2) := by
  have hfield := attrs.fits item hitem
  have hid := Row.ne_id (View.mem_fields hfield)
  have hset : (attrs.onto row).column? item.1 = some item.2 :=
    Attrs.column?_onto (fun field h => hmodel ▸ View.mem_fields h) hitem
  unfold updated Row.saved
  rw [Row.column?_rewrite hid hset, Attrs.model_onto, hmodel, View.presave_of_mem unicode now hfield]
  split
  · rw [Column.assign_of_kind (kind_cleanedUser unicode _ _)]
  · rw [Column.assign_self]

/-- What is stored before an update of a field it sets. -/
theorem image_stored {attrs : Attrs request.view.fields} {store : Store} {row : Row}
    (hrow : store.rows.get? request.key = some row) {item : String × Column}
    (hitem : item ∈ attrs.items) :
    store.image request.key item.1 = row.attribute store.rows item.1 := by
  have hfield := attrs.fits item hitem
  obtain ⟨column, hcolumn, hkind⟩ :=
    Row.exists_column ((Row.of_get? hrow).1 ▸ View.mem_fields hfield)
  rw [image_of_column hrow hcolumn, attribute_of_column hcolumn]
  exact image_eq_attribute (by rw [hkind]; exact View.concrete_of_mem hfield) _

/-- What is stored after it. -/
theorem image_updated {attrs : Attrs request.view.fields} {store store' : Store} {row : Row}
    (hrow : store.rows.get? request.key = some row)
    (hrows : store'.rows = store.rows.put (request.updated unicode now attrs row))
    {item : String × Column} (hitem : item ∈ attrs.items) :
    store'.image request.key item.1 =
      Column.attribute store.rows
        (if request.view = .userAdmin then cleanedUser unicode item.1 item.2 else item.2) := by
  obtain ⟨hmodel, hpk⟩ := Row.of_get? hrow
  have hfield := attrs.fits item hitem
  have hget : store'.rows.get? request.key = some (request.updated unicode now attrs row) := by
    rw [hrows, Table.get?_put]
    exact if_pos (Prod.ext hmodel hpk)
  have hupdated := updated_column unicode now hmodel hitem
  have hkind : (if request.view = .userAdmin then cleanedUser unicode item.1 item.2
      else item.2).kind = item.2.kind := by
    split
    · exact kind_cleanedUser unicode _ _
    · rfl
  generalize (if request.view = .userAdmin then cleanedUser unicode item.1 item.2
    else item.2) = new at hupdated hkind ⊢
  have hmem : (item.1, new.kind) ∈ (request.updated unicode now attrs row).model.fields := by
    rw [hkind]
    exact hmodel ▸ View.mem_fields hfield
  have hconcrete : new.kind.concrete = true := by
    rw [hkind]
    exact View.concrete_of_mem hfield
  rw [image_of_column hget hupdated, image_eq_attribute hconcrete, hrows, attribute_put hmem]

/-- One field is recorded truly where the update keeps to it. -/
theorem item_images {attrs : Attrs request.view.fields} {store store' : Store} {row : Row}
    (hrow : store.rows.get? request.key = some row)
    (hrows : store'.rows = store.rows.put (request.updated unicode now attrs row))
    {item : String × Column} (hitem : item ∈ attrs.items) :
    (shown item.1 ((request.validatedInstance attrs row).attribute store.rows item.1) =
        shown item.1 (store.image request.key item.1) ∧
      shown item.1 (item.2.attribute store.rows) =
        shown item.1 (store'.image request.key item.1)) ↔
      request.Keeps unicode store.rows row item := by
  unfold Keeps
  rw [image_stored hrow hitem, image_updated unicode now hrow hrows hitem]
  by_cases huser : request.view = .userAdmin
  · have hsetting : request.view ≠ .setting := by rw [huser]; decide
    have hinstance : request.validatedInstance attrs row = row := if_neg hsetting
    rw [if_pos huser, hinstance, shown_cleanedUser]
    exact ⟨fun h => ⟨fun h' => absurd h' hsetting, fun _ => h.2⟩, fun h => ⟨rfl, h.2 huser⟩⟩
  · rw [if_neg huser]
    by_cases hsetting : request.view = .setting
    · -- validation has the new value on the instance already
      have hset : (request.validatedInstance attrs row).column? item.1 = some item.2 := by
        rw [show request.validatedInstance attrs row = attrs.onto row from if_pos hsetting]
        have hmodel := (Row.of_get? hrow).1
        exact Attrs.column?_onto (fun field h => hmodel ▸ View.mem_fields h) hitem
      rw [attribute_of_column hset]
      exact ⟨fun h => ⟨fun _ => h.1, fun h' => absurd h' huser⟩, fun h => ⟨h.1 hsetting, rfl⟩⟩
    · have hinstance : request.validatedInstance attrs row = row := if_neg hsetting
      rw [hinstance]
      exact iff_of_true ⟨rfl, rfl⟩ ⟨fun h => absurd h hsetting, fun h => absurd h huser⟩

/-- **The record of an update through a viewset is true exactly where every field keeps to it.** -/
theorem updateLog_images {attrs : Attrs request.view.fields} {store store' : Store} {row : Row}
    (hrow : store.rows.get? request.key = some row)
    (hrows : store'.rows = store.rows.put (request.updated unicode now attrs row)) :
    Images request.key store store' (request.updateLog unicode now store.rows attrs row) ↔
      ∀ item ∈ attrs.items, request.Keeps unicode store.rows row item := by
  rw [images_iff rfl rfl]
  exact forall₂_congr fun item hitem => item_images unicode now hrow hrows hitem

end Request

/-! ### Updates

Both kinds are put together, and a record is judged by comparing every field in it with the
store before and after.
-/

namespace Update

variable (unicode : Unicode)

/-- When the record of an update is true: a setting keeps the values named, a user is given
clean ones, and the admin records no foreign key that was held and nothing many-to-many. -/
def Truthful (store : Store) (now : Int) : Update → Prop
  | .viewset request attrs _ =>
      ∀ row ∈ store.rows.get? request.key, request.Records (request.validated unicode attrs) →
        ∀ item ∈ (request.validated unicode attrs).items, request.Keeps unicode store.rows row item
  | .admin form =>
      ∀ row ∈ form.object? now store.rows, ∀ field ∈ form.changed,
        sensitiveKey field = true ∨ ∀ column ∈ row.column? field, column.plain = true

/-- The record an update adds is true. -/
def Recorded (store : Store) (e : Int × Update) (store' : Store) : Prop :=
  ∀ log ∈ record? unicode store e, Images e.2.key store store' log

theorem viewset_recorded {request : Request} {attrs : Attrs request.view.fields}
    (haction : request.action = .update attrs) (store : Store) (now : Int) :
    Recorded unicode store (now, .viewset request attrs haction)
        ((request.dispatch unicode now).run store).2 ↔
      (Update.viewset request attrs haction).Truthful unicode store now := by
  show (∀ log ∈ List.find? (request.describes .updated) _, _) ↔ ∀ row ∈ _, _ → _
  by_cases hrecords : ∃ row, store.rows.get? request.key = some row ∧
      request.Records (request.validated unicode attrs)
  · obtain ⟨row, hrow, hrecords⟩ := hrecords
    obtain ⟨hrows, hfind⟩ := Request.update_recorded unicode now haction hrow hrecords
    rw [hfind, hrow]
    simp only [Option.mem_some_iff, forall_eq', forall_prop_of_true hrecords]
    exact Request.updateLog_images unicode now hrow hrows
  · have hnot : ∀ row, store.rows.get? request.key = some row →
        ¬request.Records (request.validated unicode attrs) :=
      fun row hrow hr => hrecords ⟨row, hrow, hr⟩
    rw [Request.update_unrecorded unicode now haction hnot]
    exact iff_of_true (fun log h => absurd h (Option.not_mem_none log))
      fun row hrow hr => absurd hr (hnot row hrow)

/-- The record of a change in the admin is found. -/
theorem records_log {form : Form} {rows rows' : Table Row} {row : Row} {now : Int}
    (hrow : form.object? now rows = some row) :
    (Update.admin form).records (form.log unicode now rows' row) = true := by
  obtain ⟨⟨hmodel, hpk⟩, -⟩ := Form.object?_some now hrow
  exact decide_eq_true ⟨rfl, congrArg Model.label hmodel, congrArg UUID.str hpk⟩

theorem recorded_iff {store store' : Store} {e : Int × Update}
    (h : step unicode store e = some store') :
    Recorded unicode store e store' ↔ e.2.Truthful unicode store e.1 := by
  obtain ⟨now, update⟩ := e
  cases update with
  | viewset request attrs haction =>
      obtain rfl := Option.some.inj h
      exact viewset_recorded unicode haction store now
  | admin form =>
      obtain ⟨row, hrow, rfl⟩ := Option.map_eq_some_iff.mp h
      have hrecord : record? unicode store (now, .admin form) =
          some (form.log unicode now (form.saveModel unicode now store row).rows row) := by
        unfold record?
        rw [h, Option.bind_some]
        show List.find? _ ((store.auditLogs ++ [_]).drop _) = _
        rw [List.drop_left]
        exact List.find?_cons_of_pos (records_log unicode hrow)
      unfold Recorded Truthful
      dsimp only at hrow ⊢
      rw [hrecord, hrow]
      simp only [Option.mem_some_iff, forall_eq']
      exact Form.log_images unicode now hrow

/-! ### Updates of one row

If every record is true, the value an update left is the one the next update found.  So
agreement along the records of a row is a consequence, and not another condition.
-/

/-- What one record says a field became is what the next says it was. -/
def Agree (first second : Option Log) : Prop :=
  ∀ a ∈ first, ∀ b ∈ second, ∀ field item item', (field, item) ∈ a.after →
    (field, item') ∈ b.before → item = item'

/-- The records so far agree, and the last of them says what is stored. -/
structure Agreed (key : Model × UUID) (store : Store) (records : List (Option Log)) : Prop where
  chain : records.IsChain Agree
  last : ∀ record ∈ records.getLast?, ∀ log ∈ record, ∀ item ∈ log.after,
    item.2 = shown item.1 (store.image key item.1)

theorem Agreed.concat {key : Model × UUID} {store store' : Store} {records : List (Option Log)}
    {record : Option Log} (h : Agreed key store records)
    (himages : ∀ log ∈ record, Images key store store' log) :
    Agreed key store' (records ++ [record]) := by
  refine ⟨h.chain.append (List.isChain_singleton record) ?_, ?_⟩
  · intro first hfirst second hsecond a ha b hb field item item' hafter hbefore
    rw [List.head?_singleton, Option.mem_some_iff] at hsecond
    subst hsecond
    exact (h.last first hfirst a ha _ hafter).trans ((himages b hb).before _ hbefore).symm
  · intro last hlast log hlog item hitem
    rw [List.getLast?_concat, Option.mem_some_iff] at hlast
    subst hlast
    exact (himages log hlog).after item hitem

/-- **In a run of updates each record is true exactly where each update records truly, and then
the records of updates of one row agree, each with the next.** -/
theorem records_true (unicode : Unicode) (store : Store) (es : List (Int × Update)) :
    (Run.Steps (step unicode) (Recorded unicode) store es ↔
      Run.Steps (step unicode) (fun store e _ => e.2.Truthful unicode store e.1) store es) ∧
    ∀ key, (∀ e ∈ es, e.2.key = key) →
      Run.Steps (step unicode) (fun store e _ => e.2.Truthful unicode store e.1) store es →
        (Run.collect (step unicode) (fun store e => some (record? unicode store e)) store es).IsChain
          Agree := by
  have hiff : ∀ store e store', True → step unicode store e = some store' →
      (Recorded unicode store e store' ↔ e.2.Truthful unicode store e.1) :=
    fun store e store' _ h => recorded_iff unicode h
  have htruthful : Run.Steps (step unicode) (Recorded unicode) store es ↔
      Run.Steps (step unicode) (fun store e _ => e.2.Truthful unicode store e.1) store es :=
    Run.steps_iff_of_inv hiff (fun _ _ _ _ _ _ => trivial) trivial es
  refine ⟨htruthful, fun key hkey htrue => ?_⟩
  have hsteps := (htruthful.mpr htrue).and (Run.Steps.of_labels hkey store)
  have hstep : ∀ s records e s', Agreed key s records → step unicode s e = some s' →
      Recorded unicode s e s' ∧ e.2.key = key →
        Agreed key s' (records ++ (some (record? unicode s e)).toList) := by
    rintro s records e s' hagreed he ⟨hrecorded, rfl⟩
    exact hagreed.concat hrecorded
  have hinit : Agreed key store [] :=
    ⟨List.isChain_nil, fun record h => absurd h (Option.not_mem_none record)⟩
  have hchain : ∀ s records, Agreed key s records → records.IsChain Agree := fun _ _ h => h.chain
  have hrun := Run.collect_of_inv hstep hchain hinit hsteps
  exact hrun

/-! ### A flag, and a setting -/

/-- Turns a flag on or off. -/
def flip (enabled : Bool) : Update :=
  .viewset { view := .featureFlag, pk := 1, actor := 3,
             action := .update ⟨[("enabled", .flag enabled)], by revert enabled; decide,
               by revert enabled; decide +kernel⟩ } _ rfl

/-- Updates of a flag record what it was and what it becomes, and agree. -/
theorem flips_agree :
    let es : List (Int × Update) := [(1, flip true), (2, flip false)]
    let store : Store := { rows := {Row.new .featureFlag 1 0} }
    let records := Run.collect (step Environment.plain.unicode)
      (fun store e => some (record? Environment.plain.unicode store e)) store es
    records.map (fun record => record.map fun log => (log.before, log.after)) =
        [some ([("enabled", .json (.bool false))], [("enabled", .json (.bool true))]),
          some ([("enabled", .json (.bool true))], [("enabled", .json (.bool false))])] ∧
      records.IsChain Agree := by
  have htrue : ∀ enabled store now,
      (flip enabled).Truthful Environment.plain.unicode store now := by
    intro enabled store now row _ _ item _
    show (View.featureFlag = .setting → _) ∧ (View.featureFlag = .userAdmin → _)
    exact ⟨fun h => absurd h (by decide), fun h => absurd h (by decide)⟩
  refine ⟨by decide +kernel, (records_true _ _ _).2 (.featureFlag, 1) ?_ ?_⟩
  · decide
  · exact fun s _ => ⟨htrue true _ _, fun _ _ => ⟨htrue false _ _, trivial⟩⟩

/-- A setting that is on. -/
def openSetting : Row :=
  (Row.new .setting 1 0).rewrite fun name column =>
    if name = "key" then .text "registration.open"
    else if name = "value" then .flag true
    else if name = "value_type" then .text "boolean"
    else column

def opened : Store := { rows := {openSetting} }

/-- Turns it off. -/
def close : Update :=
  .viewset { view := .setting, pk := 1, actor := 3,
             action := .update ⟨[("value", .flag false)], by decide, by decide +kernel⟩ } _ rfl

/-- It is recorded as off before, too. -/
theorem open_setting_recorded_closed :
    ((record? Environment.plain.unicode opened (1, close)).map fun log => (log.before, log.after)) =
        some ([("value", .json (.bool false))], [("value", .json (.bool false))]) ∧
      opened.image (.setting, 1) "value" = .json (.bool true) ∧
      ¬Run.Steps (step Environment.plain.unicode) (Recorded Environment.plain.unicode) opened
        [(1, close)] := by
  refine ⟨by decide +kernel, by decide +kernel, fun h => ?_⟩
  have htrue := (recorded_iff Environment.plain.unicode rfl).mp (h _ rfl).1
  have hkeeps := htrue openSetting (by decide +kernel)
    ⟨rfl, rfl, rfl, fun _ => rfl, rfl⟩ ("value", .flag false) List.mem_cons_self
  have hshown := hkeeps.1 rfl
  revert hshown
  decide +kernel

end Update

end DjangoFoundation.Audited
