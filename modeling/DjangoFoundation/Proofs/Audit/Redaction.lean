/-
Nothing kept under a sensitive key shows in what `sanitize` returns, or in an audit record.

Two values that agree but for what is under such keys, at any depth, have one image; and
the image is the value itself as far as no such key is on the way, with tuples made lists and
with the text of a scalar JSON does not have.
-/
import DjangoFoundation.Audit.Records

namespace DjangoFoundation

/-! ### Statement -/

/-- Equal but for what stands under sensitive keys. -/
def Value.Alike (v w : Value) : Prop := DataTree.Agree Scalar.isSensitive v w

/-- No step of the path goes under a sensitive key. -/
def Clean (path : List (DataTree.Step Scalar)) : Prop :=
  ∀ step ∈ path, step.isHidden Scalar.isSensitive = false

/-- Two calls of `record` with alike dictionaries, and the same arguments else. -/
structure AuditService.Call.Alike (call call' : AuditService.Call) : Prop where
  before : (orEmpty call.before).Alike (orEmpty call'.before)
  after : (orEmpty call.after).Alike (orEmpty call'.after)
  metadata : (orEmpty call.metadata).Alike (orEmpty call'.metadata)
  rest : call' = { call with
    before := call'.before, after := call'.after, metadata := call'.metadata }

namespace Value

/-! ### `sanitize`

`sanitize` is the generic redaction of trees at the type of values, and everything but the
reading of keys and scalars is the library's.
-/

theorem sanitize_eq_of_alike {v w : Value} (h : v.Alike w) : sanitize v = sanitize w := by
  rw [sanitize_eq_redact, sanitize_eq_redact]
  exact DataTree.redact_eq_of_agree h

theorem sanitize_same {v w : Value} (h : v.Same w) : (sanitize v).Same (sanitize w) := by
  rw [sanitize_eq_redact, sanitize_eq_redact]
  exact DataTree.redact_same h

theorem sanitize_sanitize (v : Value) : sanitize (sanitize v) = sanitize v := by
  rw [sanitize_eq_redact, sanitize_eq_redact]
  exact DataTree.redact_redact Scalar.kept_kept v

theorem node_sanitize (v : Value) : (sanitize v).node = v.node.plain Scalar.kept := by
  rw [sanitize_eq_redact]
  exact DataTree.node_redact v

theorem at?_sanitize (v : Value) {path : List (DataTree.Step Scalar)} (hpath : Clean path) :
    (sanitize v).at? path = (v.at? path).map sanitize := by
  have hredact : sanitize = DataTree.redact Scalar.isSensitive (.str "[REDACTED]") Scalar.kept :=
    funext sanitize_eq_redact
  rw [hredact]
  exact DataTree.at?_redact v hpath

/-- On a clean path there is in the image what there is in the value. -/
theorem at?_sanitize_node (v : Value) {path : List (DataTree.Step Scalar)} (hpath : Clean path) :
    ((sanitize v).at? path).map DataTree.node =
      (v.at? path).map fun w => w.node.plain Scalar.kept := by
  rw [at?_sanitize v hpath, Option.map_map]
  refine Option.map_congr fun w _ => ?_
  exact node_sanitize w

/-! ### JSON

Records of single requests are made of JSON, for which there is a `sanitize` of its own.  Here
the two are seen to be one.
-/

mutual

/-- On JSON it is what records of single requests are made with. -/
theorem sanitize_ofJson : ∀ value : Json,
    sanitize (ofJson value) = ofJson (Audited.sanitizeJson value)
  | .null => rfl
  | .bool _ => rfl
  | .int _ => rfl
  | .float _ => rfl
  | .str _ => rfl
  | .list items => by
      rw [ofJson, sanitize, Audited.sanitizeJson, ofJson, sanitizeList_ofJsonList items]
  | .dict items => by
      rw [ofJson, sanitize, Audited.sanitizeJson, ofJson, sanitizeItems_ofJsonItems items]

theorem sanitizeList_ofJsonList : ∀ items : List Json,
    sanitizeList (ofJsonList items) = ofJsonList (Audited.sanitizeList items)
  | [] => rfl
  | item :: items => by
      rw [ofJsonList, sanitizeList, Audited.sanitizeList, ofJsonList, sanitize_ofJson item,
        sanitizeList_ofJsonList items]

theorem sanitizeItems_ofJsonItems : ∀ items : List (String × Json),
    sanitizeItems (ofJsonItems items) = ofJsonItems (Audited.sanitizeItems items)
  | [] => rfl
  | (key, item) :: items => by
      rw [ofJsonItems, sanitizeItems, Audited.sanitizeItems, ofJsonItems,
        sanitizeItems_ofJsonItems items, Scalar.text]
      by_cases hkey : sensitiveKey key = true
      · rw [if_pos hkey, if_pos hkey]
        rfl
      · rw [if_neg hkey, if_neg hkey, sanitize_ofJson item]

end

end Value

/-! ### Records -/

theorem AuditService.record_eq_of_alike {call call' : Call} (h : call.Alike call') (now : Int)
    (pk : UUID) : record now pk call = record now pk call' := by
  have hbefore := Value.sanitize_eq_of_alike h.before
  have hafter := Value.sanitize_eq_of_alike h.after
  have hmetadata := Value.sanitize_eq_of_alike h.metadata
  rw [h.rest]
  unfold record
  dsimp only
  rw [hbefore, hafter, hmetadata]
  rfl

/-- **Redaction is noninterferent.**  Alike values have one image, up to the order of entries
if that differs too; on clean paths the image is the value in plain data, under a sensitive key
it is the mask, and it is its own image; and alike calls make one record. -/
theorem sanitize_noninterferent :
    (∀ v w : Value, v.Alike w →
      v.sanitize = w.sanitize ∧ ∀ u : Value, u.Same v → u.sanitize.Same w.sanitize) ∧
    (∀ (v : Value) path, Clean path →
      (v.sanitize.at? path).map DataTree.node =
          (v.at? path).map (fun w => w.node.plain Scalar.kept) ∧
        ∀ key : Scalar, key.isSensitive = true →
          v.sanitize.at? (path ++ [.key key]) =
            (v.at? (path ++ [.key key])).map fun _ => .leaf (.str "[REDACTED]")) ∧
    (∀ v : Value, v.sanitize.sanitize = v.sanitize) ∧
    ∀ now pk call call', AuditService.Call.Alike call call' →
      AuditService.record now pk call = AuditService.record now pk call' := by
  refine ⟨?_, ?_, Value.sanitize_sanitize, ?_⟩
  · intro v w h
    have himage := Value.sanitize_eq_of_alike h
    refine ⟨himage, ?_⟩
    intro u hu
    rw [← himage]
    exact Value.sanitize_same hu
  · intro v path hpath
    refine ⟨Value.at?_sanitize_node v hpath, ?_⟩
    intro key hkey
    rw [Value.sanitize_eq_redact]
    exact DataTree.at?_redact_hidden v hpath hkey
  · intro now pk call call' h
    exact AuditService.record_eq_of_alike h now pk

/-- Another password, two levels down. -/
def changed (password : String) : Value :=
  .dict [(.str "body", .tuple [.leaf (.date "2024-01-31"),
    .dict [(.str "newPassword", .leaf (.str password))]])]

theorem sanitize_noninterferent_nested :
    (changed "a").Alike (changed "b") ∧ (changed "a").sanitize = (changed "b").sanitize ∧
      (changed "a").sanitize.at? [.key (.str "body"), .index 0] =
        some (.leaf (.str "2024-01-31")) := by
  have halike : (changed "a").Alike (changed "b") :=
    ⟨rfl, Or.inr ⟨rfl, ⟨rfl, Or.inl (by decide +kernel), trivial⟩, trivial⟩, trivial⟩
  exact ⟨halike, (sanitize_noninterferent.1 _ _ halike).1, rfl⟩

end DjangoFoundation
