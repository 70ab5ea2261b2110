/-
The models whose writes are audited, and their rows as instances carry them.

A row has one column for each field of its model and no others: the table of defaults, which
is also what a new instance starts from, says which fields those are and what kind of value
each takes.  Columns of text, numbers, booleans, addresses, files and JSON are all JSON here.
-/
import DjangoFoundation.Lib.Table
import DjangoFoundation.Common.Json
import DjangoFoundation.Common.Text

namespace DjangoFoundation.Audited

inductive Model
  | user
  | userBan
  | permission
  | role
  | rolePermission
  | userRole
  | userPermissionOverride
  | setting
  | featureFlag
  | apiKey
  | webhookEndpoint
  | notification
  | storedFile
  deriving DecidableEq, Repr

/-- `_meta.label_lower`, which is `f"{_meta.app_label}.{_meta.model_name}"`. -/
def Model.label : Model → String
  | .user => "accounts.user"
  | .userBan => "accounts.userban"
  | .permission => "authorization.permission"
  | .role => "authorization.role"
  | .rolePermission => "authorization.rolepermission"
  | .userRole => "authorization.userrole"
  | .userPermissionOverride => "authorization.userpermissionoverride"
  | .setting => "core.setting"
  | .featureFlag => "core.featureflag"
  | .apiKey => "api_keys.apikey"
  | .webhookEndpoint => "webhooks.webhookendpoint"
  | .notification => "notifications.notification"
  | .storedFile => "files.storedfile"

/-- `__class__.__name__`. -/
def Model.className : Model → String
  | .user => "User"
  | .userBan => "UserBan"
  | .permission => "Permission"
  | .role => "Role"
  | .rolePermission => "RolePermission"
  | .userRole => "UserRole"
  | .userPermissionOverride => "UserPermissionOverride"
  | .setting => "Setting"
  | .featureFlag => "FeatureFlag"
  | .apiKey => "APIKey"
  | .webhookEndpoint => "WebhookEndpoint"
  | .notification => "Notification"
  | .storedFile => "StoredFile"

inductive Kind
  | json
  | instant
  | foreignKey (related : Model)
  /-- To the model of that name. -/
  | manyToMany (name : String)
  deriving DecidableEq, Repr

inductive Column
  | json (value : Json)
  | instant (value : Option Int)
  | foreignKey (related : Model) (pk : Option UUID)
  /-- The related objects, as they are shown. -/
  | manyToMany (name : String) (shown : List String)
  deriving DecidableEq, Repr

namespace Column

def kind : Column → Kind
  | .json _ => .json
  | .instant _ => .instant
  | .foreignKey related _ => .foreignKey related
  | .manyToMany name _ => .manyToMany name

def text (value : String) : Column := .json (.str value)

def flag (value : Bool) : Column := .json (.bool value)

theorem kind_text (value : String) : (text value).kind = .json := rfl

/-- A column keeps its kind. -/
def assign (old new : Column) : Column := if new.kind = old.kind then new else old

theorem kind_assign (old new : Column) : (old.assign new).kind = old.kind := by
  unfold assign
  split
  · rename_i h
    exact h
  · rfl

theorem assign_of_kind {old new : Column} (h : new.kind = old.kind) : old.assign new = new :=
  if_pos h

theorem assign_self (c : Column) : c.assign c = c := ite_self c

end Column

open Column in
/-- The fields but `id`, with what a new instance has in them.  Where no default is declared
that is the empty string, or `None`. -/
def Model.defaults (now : Int) : Model → List (String × Column)
  | .user =>
      [("password", text ""), ("last_login", .instant none), ("is_superuser", flag false),
        ("email", text ""), ("username", text ""), ("first_name", text ""),
        ("last_name", text ""), ("avatar", text ""), ("phone", text ""),
        ("status", text "pending"), ("email_verified_at", .instant none),
        ("phone_verified_at", .instant none), ("is_active", flag true), ("is_staff", flag false),
        ("date_joined", .instant (some now)), ("last_login_ip", .json .null),
        ("created_at", .instant (some now)), ("updated_at", .instant (some now)),
        ("groups", .manyToMany "auth.Group" []),
        ("user_permissions", .manyToMany "auth.Permission" [])]
  | .userBan =>
      [("user", .foreignKey .user none), ("reason", text ""),
        ("banned_by", .foreignKey .user none), ("starts_at", .instant (some now)),
        ("expires_at", .instant none), ("created_at", .instant (some now)),
        ("revoked_at", .instant none)]
  | .permission =>
      [("created_at", .instant (some now)), ("updated_at", .instant (some now)),
        ("codename", text ""), ("description", text ""), ("is_system", flag false)]
  | .role =>
      [("created_at", .instant (some now)), ("updated_at", .instant (some now)),
        ("name", text ""), ("slug", text ""), ("description", text ""),
        ("priority", .json (.int 0)), ("is_system", flag false)]
  | .rolePermission =>
      [("role", .foreignKey .role none), ("permission", .foreignKey .permission none),
        ("created_at", .instant (some now))]
  | .userRole =>
      [("user", .foreignKey .user none), ("role", .foreignKey .role none),
        ("granted_by", .foreignKey .user none), ("valid_from", .instant (some now)),
        ("valid_until", .instant none), ("created_at", .instant (some now))]
  | .userPermissionOverride =>
      [("created_at", .instant (some now)), ("updated_at", .instant (some now)),
        ("user", .foreignKey .user none), ("permission", .foreignKey .permission none),
        ("effect", text ""), ("reason", text ""), ("granted_by", .foreignKey .user none)]
  | .setting =>
      [("created_at", .instant (some now)), ("updated_at", .instant (some now)),
        ("key", text ""), ("value", .json .null), ("value_type", text "string"),
        ("group", text "general"), ("is_public", flag false), ("description", text "")]
  | .featureFlag =>
      [("created_at", .instant (some now)), ("updated_at", .instant (some now)),
        ("key", text ""), ("enabled", flag false), ("description", text "")]
  | .apiKey =>
      [("owner", .foreignKey .user none), ("name", text ""), ("prefix", text ""),
        ("key_hash", text ""), ("scopes", .json (.list [])), ("created_at", .instant (some now)),
        ("last_used_at", .instant none), ("last_used_ip", .json .null),
        ("expires_at", .instant none), ("revoked_at", .instant none)]
  | .webhookEndpoint =>
      [("created_at", .instant (some now)), ("updated_at", .instant (some now)),
        ("owner", .foreignKey .user none), ("name", text ""), ("url", text ""),
        ("event_types", .json (.list [])), ("secret_hash", text ""),
        ("encrypted_secret", text ""), ("is_active", flag true)]
  | .notification =>
      [("user", .foreignKey .user none), ("type", text ""), ("title", text ""),
        ("message", text ""), ("data", .json (.dict [])), ("read_at", .instant none),
        ("created_at", .instant (some now)), ("expires_at", .instant none)]
  | .storedFile =>
      [("owner", .foreignKey .user none), ("file", text ""), ("original_name", text ""),
        ("content_type", text ""), ("size", .json .null), ("checksum_sha256", text ""),
        ("status", text "pending"), ("metadata", .json (.dict [])),
        ("created_at", .instant (some now)), ("last_accessed_at", .instant none),
        ("deleted_at", .instant none)]

/-- The fields but `id`, with the kind of each. -/
def Model.fields (model : Model) : List (String × Kind) :=
  (model.defaults 0).map fun field => (field.1, field.2.kind)

theorem Model.fields_defaults (model : Model) (now : Int) :
    ((model.defaults now).map fun field => (field.1, field.2.kind)) = model.fields := by
  cases model <;> rfl

/-- A stored row, or an instance of its class. -/
structure Row where
  model : Model
  pk : UUID
  columns : List (String × Column)
  fits : (columns.map fun column => (column.1, column.2.kind)) = model.fields
  deriving DecidableEq

instance : Keyed Row (Model × UUID) := ⟨fun row => (row.model, row.pk)⟩

theorem Row.of_get? {rows : Table Row} {row : Row} {model : Model} {pk : UUID}
    (h : rows.get? (model, pk) = some row) : row.model = model ∧ row.pk = pk :=
  Prod.mk.inj (Table.pk_of_get? h)

namespace Row

/-- `Model(pk=pk)`. -/
def new (model : Model) (pk : UUID) (now : Int) : Row where
  model := model
  pk := pk
  columns := model.defaults now
  fits := model.fields_defaults now

/-- Gives every column the value `f` has for it, if it takes it. -/
def rewrite (row : Row) (f : String → Column → Column) : Row where
  model := row.model
  pk := row.pk
  columns := row.columns.map fun (name, column) => (name, column.assign (f name column))
  fits := by
    rw [← row.fits, List.map_map]
    exact List.map_congr_left fun column _ => congrArg _ (column.2.kind_assign _)

/-- The column of a field, `id` among them. -/
def column? (row : Row) (field : String) : Option Column :=
  if field = "id" then some (.text (UUID.str row.pk)) else row.columns.lookup field

/-! ### Columns by name -/

theorem lookup_map (f : String → Column → Column) (columns : List (String × Column))
    (field : String) :
    (columns.map fun (name, column) => (name, f name column)).lookup field =
      (columns.lookup field).map (f field) := by
  induction columns with
  | nil => rfl
  | cons column columns ih =>
      rw [List.map_cons, List.lookup_cons, List.lookup_cons, ih]
      cases h : field == column.1 with
      | true =>
          rw [eq_of_beq h]
          rfl
      | false => rfl

theorem lookup_of_mem {columns : List (String × Column)} (hnodup : (columns.map Prod.fst).Nodup)
    {name : String} {column : Column} (h : (name, column) ∈ columns) :
    columns.lookup name = some column := by
  induction columns with
  | nil => cases h
  | cons head columns ih =>
      rw [List.map_cons, List.nodup_cons] at hnodup
      rcases List.mem_cons.mp h with rfl | h
      · exact List.lookup_cons_self
      · have hne : (name == head.1) = false := by
          rw [beq_eq_false_iff_ne]
          rintro rfl
          exact hnodup.1 (List.mem_map.mpr ⟨_, h, rfl⟩)
        rw [List.lookup_cons, hne]
        exact ih hnodup.2 h

theorem mem_of_lookup {columns : List (String × Column)} {name : String} {column : Column}
    (h : columns.lookup name = some column) : (name, column) ∈ columns := by
  obtain ⟨before, after, rfl, -⟩ := List.lookup_eq_some_iff.mp h
  exact List.mem_append_right _ List.mem_cons_self

/-- A model has a field of a name once, and none of them is `id`. -/
theorem fields_nodup (model : Model) : ("id" :: model.fields.map Prod.fst).Nodup := by
  cases model <;> decide

theorem column?_of_lookup {row : Row} {field : String} (h : field ≠ "id") :
    row.column? field = row.columns.lookup field := if_neg h

theorem ne_id {model : Model} {field : String} {kind : Kind} (h : (field, kind) ∈ model.fields) :
    field ≠ "id" := by
  rintro rfl
  exact (List.nodup_cons.mp (fields_nodup model)).1 (List.mem_map_of_mem h)

/-- A row has a column for every field, of its kind. -/
theorem exists_column {row : Row} {field : String} {kind : Kind}
    (h : (field, kind) ∈ row.model.fields) :
    ∃ column, row.column? field = some column ∧ column.kind = kind := by
  have hnodup := (List.nodup_cons.mp (fields_nodup row.model)).2
  rw [column?_of_lookup (ne_id h)]
  rw [← row.fits] at h hnodup
  obtain ⟨⟨name, column⟩, hmem, heq⟩ := List.mem_map.mp h
  obtain ⟨rfl, rfl⟩ := Prod.mk.inj heq
  rw [List.map_map] at hnodup
  exact ⟨column, lookup_of_mem hnodup hmem, rfl⟩

theorem column?_rewrite {row : Row} {field : String} {column : Column} (h : field ≠ "id")
    (hcolumn : row.column? field = some column) (f : String → Column → Column) :
    (row.rewrite f).column? field = some (column.assign (f field column)) := by
  rw [column?_of_lookup h] at hcolumn
  rw [column?_of_lookup h]
  show (List.lookup field (row.columns.map _)) = _
  rw [lookup_map (fun name column => column.assign (f name column)), hcolumn, Option.map_some]

/-! ### Text -/

/-- The text in a column of text. -/
def text (row : Row) (field : String) : String :=
  match row.columns.lookup field with
  | some (.json (.str value)) => value
  | _ => ""

/-- `row.is_system`, or `False` where the model has no such field. -/
def isSystem (row : Row) : Bool := row.columns.lookup "is_system" = some (.flag true)

/-- `str(row)`, which of a ban shows its user. -/
def str (rows : Table Row) (row : Row) : String :=
  match row.model with
  | .user => row.text "email"
  | .permission => row.text "codename"
  | .role | .webhookEndpoint => row.text "name"
  | .setting | .featureFlag => row.text "key"
  | .apiKey => row.text "name" ++ " (" ++ row.text "prefix" ++ ")"
  | .userBan =>
      match row.columns.lookup "user" with
      | some (.foreignKey related (some pk)) =>
          "Ban for " ++ ((rows.get? (related, pk)).map fun user => user.text "email").getD ""
      | _ => "Ban for None"
  | model => model.className ++ " object (" ++ UUID.str row.pk ++ ")"

/-- A foreign key of the row is to this one. -/
def refersTo (row : Row) (model : Model) (pk : UUID) : Bool :=
  row.columns.any fun column => column.2 = .foreignKey model (some pk)

/-- No model has a foreign key to itself. -/
theorem refersTo_own (row : Row) (pk : UUID) : row.refersTo row.model pk = false := by
  have hfields : ∀ model : Model, ∀ field ∈ model.fields, field.2 ≠ .foreignKey model := by
    intro model
    cases model <;> decide
  rw [refersTo, List.any_eq_false]
  intro column hmem hrefers
  have hfield := List.mem_map_of_mem (f := fun c : String × Column => (c.1, c.2.kind)) hmem
  rw [row.fits] at hfield
  refine hfields row.model _ hfield ?_
  rw [of_decide_eq_true hrefers, Column.kind]

end Row

/-- New values for some fields, each of the field's kind. -/
structure Attrs (fields : List (String × Kind)) where
  items : List (String × Column)
  nodup : (items.map Prod.fst).Nodup
  fits : ∀ item ∈ items, (item.1, item.2.kind) ∈ fields

namespace Attrs

variable {fields : List (String × Kind)}

/-- The values `f` has for the fields. -/
def rewrite (attrs : Attrs fields) (f : String → Column → Column) : Attrs fields where
  items := attrs.items.map fun (name, column) => (name, column.assign (f name column))
  nodup := by
    rw [List.map_map]
    exact attrs.nodup
  fits := by
    intro item hitem
    obtain ⟨old, hold, rfl⟩ := List.mem_map.mp hitem
    rw [old.2.kind_assign]
    exact attrs.fits old hold

/-- `setattr(row, field, value)`, for each of them. -/
def onto (attrs : Attrs fields) (row : Row) : Row :=
  row.rewrite fun name column => (attrs.items.lookup name).getD column

@[simp] theorem model_onto (attrs : Attrs fields) (row : Row) :
    (attrs.onto row).model = row.model := rfl

/-- Setting the attributes again changes nothing. -/
theorem onto_onto (attrs : Attrs fields) (row : Row) :
    attrs.onto (attrs.onto row) = attrs.onto row := by
  simp only [onto, Row.rewrite, List.map_map, Row.mk.injEq, true_and]
  refine List.map_congr_left fun column _ => Prod.ext rfl ?_
  show (column.2.assign _).assign ((attrs.items.lookup column.1).getD (column.2.assign _)) =
    column.2.assign ((attrs.items.lookup column.1).getD column.2)
  cases attrs.items.lookup column.1 with
  | none => simp only [Option.getD_none, Column.assign_self]
  | some new =>
      simp only [Option.getD_some]
      unfold Column.assign
      by_cases hkind : new.kind = column.2.kind
      · simp only [hkind, if_true]
      · simp only [hkind, if_false]

/-- What is set is there. -/
theorem column?_onto {attrs : Attrs fields} {row : Row} (hfields : ∀ field ∈ fields,
    field ∈ row.model.fields) {name : String} {column : Column}
    (h : (name, column) ∈ attrs.items) : (attrs.onto row).column? name = some column := by
  have hfield := hfields _ (attrs.fits _ h)
  obtain ⟨old, hold, hkind⟩ := Row.exists_column hfield
  unfold onto
  rw [Row.column?_rewrite (Row.ne_id hfield) hold, Row.lookup_of_mem attrs.nodup h,
    Option.getD_some, Column.assign_of_kind hkind.symm]

end Attrs

/-! ### Saving -/

/-- `validate_email` and `validate_username` of the user serializer, where they raise nothing,
and what `User.save` does to the same fields. -/
def cleanedUser (unicode : Unicode) (name : String) (column : Column) : Column :=
  match column with
  | .json (.str value) =>
      if name = "email" then .text (unicode.normalizeEmailAddress value)
      else if name = "username" then .text (unicode.stripped value)
      else column
  | _ => column

/-- What `save()` makes of a column: `auto_now`, and `User.save`. -/
def presave (unicode : Unicode) (now : Int) (model : Model) (name : String) (column : Column) :
    Column :=
  if name = "updated_at" then .instant (some now)
  else if model = .user then cleanedUser unicode name column
  else column

/-- The instance after `save()`, and the row it stores. -/
def Row.saved (unicode : Unicode) (now : Int) (row : Row) : Row :=
  row.rewrite (presave unicode now row.model)

end DjangoFoundation.Audited
