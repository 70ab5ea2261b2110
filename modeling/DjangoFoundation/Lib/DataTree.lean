/-
Nested data: leaves, lists and tuples, and dictionaries, each its entries in order.

`redact` puts a mask in the place of whatever stands under a hidden key, at any depth, and
makes plain data of the rest.  What comes out is fixed by what is not hidden: trees that agree
there have one image (`redact_eq_of_agree`), and along a path without a hidden key the image is
what the tree is (`at?_redact`, `node_redact`).
-/
import Mathlib.Data.List.Basic

universe u v

inductive DataTree (κ : Type u) (α : Type v)
  | leaf (value : α)
  | list (items : List (DataTree κ α))
  | tuple (items : List (DataTree κ α))
  | dict (items : List (κ × DataTree κ α))

namespace DataTree

variable {κ : Type u} {α : Type v}

/-! ### Comparing -/

mutual

/-- Equal but for what stands under hidden keys. -/
def Agree (hidden : κ → Bool) : DataTree κ α → DataTree κ α → Prop
  | .leaf a, .leaf b => a = b
  | .list as, .list bs => AgreeList hidden as bs
  | .tuple as, .tuple bs => AgreeList hidden as bs
  | .dict as, .dict bs => AgreeItems hidden as bs
  | _, _ => False

def AgreeList (hidden : κ → Bool) : List (DataTree κ α) → List (DataTree κ α) → Prop
  | [], [] => True
  | a :: as, b :: bs => Agree hidden a b ∧ AgreeList hidden as bs
  | _, _ => False

def AgreeItems (hidden : κ → Bool) : List (κ × DataTree κ α) → List (κ × DataTree κ α) → Prop
  | [], [] => True
  | (key, a) :: as, (key', b) :: bs =>
      key = key' ∧ (hidden key = true ∨ Agree hidden a b) ∧ AgreeItems hidden as bs
  | _, _ => False

end

mutual

/-- Equal but for the order of entries in dictionaries. -/
def Same : DataTree κ α → DataTree κ α → Prop
  | .leaf a, .leaf b => a = b
  | .list as, .list bs => SameList as bs
  | .tuple as, .tuple bs => SameList as bs
  | .dict as, .dict bs => SameItems as bs ∧ ∀ e ∈ bs, ∃ e' ∈ as, e'.1 = e.1
  | _, _ => False

def SameList : List (DataTree κ α) → List (DataTree κ α) → Prop
  | [], [] => True
  | a :: as, b :: bs => Same a b ∧ SameList as bs
  | _, _ => False

/-- Each entry of the first is there among the others. -/
def SameItems : List (κ × DataTree κ α) → List (κ × DataTree κ α) → Prop
  | [], _ => True
  | (key, a) :: as, bs => (∃ b, (key, b) ∈ bs ∧ Same a b) ∧ SameItems as bs

end

/-! ### Looking inside -/

inductive Step (κ : Type u)
  | key (k : κ)
  | index (n : Nat)

/-- It goes into a hidden entry. -/
def Step.isHidden (hidden : κ → Bool) : Step κ → Bool
  | .key k => hidden k
  | .index _ => false

/-- A tree without what is below it. -/
inductive Node (κ : Type u) (α : Type v)
  | leaf (value : α)
  | list (length : Nat)
  | tuple (length : Nat)
  | dict (keys : List κ)

def node : DataTree κ α → Node κ α
  | .leaf a => .leaf a
  | .list items => .list items.length
  | .tuple items => .tuple items.length
  | .dict items => .dict (items.map Prod.fst)

/-- A tuple made a list, and a leaf by `f`. -/
def Node.plain (f : α → α) : Node κ α → Node κ α
  | .leaf a => .leaf (f a)
  | .tuple length => .list length
  | node => node

def child? [DecidableEq κ] : DataTree κ α → Step κ → Option (DataTree κ α)
  | .dict items, .key key => (items.find? fun e => e.1 = key).map Prod.snd
  | .list items, .index n => items[n]?
  | .tuple items, .index n => items[n]?
  | _, _ => none

def at? [DecidableEq κ] : DataTree κ α → List (Step κ) → Option (DataTree κ α)
  | a, [] => some a
  | a, step :: path => (a.child? step).bind fun b => b.at? path

/-! ### Redacting -/

section Redact

variable (hidden : κ → Bool) (mask : α) (f : α → α)

mutual

def redact : DataTree κ α → DataTree κ α
  | .leaf a => .leaf (f a)
  | .list items => .list (redactList items)
  | .tuple items => .list (redactList items)
  | .dict items => .dict (redactItems items)

def redactList : List (DataTree κ α) → List (DataTree κ α)
  | [] => []
  | a :: as => redact a :: redactList as

def redactItems : List (κ × DataTree κ α) → List (κ × DataTree κ α)
  | [] => []
  | (key, a) :: as => (key, if hidden key then .leaf mask else redact a) :: redactItems as

end

/-- What becomes of an entry. -/
def shown (e : κ × DataTree κ α) : κ × DataTree κ α :=
  (e.1, if hidden e.1 then .leaf mask else redact hidden mask f e.2)

theorem redactList_eq_map (as : List (DataTree κ α)) :
    redactList hidden mask f as = as.map (redact hidden mask f) := by
  induction as with
  | nil => rfl
  | cons a as ih => rw [redactList, ih, List.map_cons]

theorem redactItems_eq_map (as : List (κ × DataTree κ α)) :
    redactItems hidden mask f as = as.map (shown hidden mask f) := by
  induction as with
  | nil => rfl
  | cons e as ih =>
      obtain ⟨key, a⟩ := e
      rw [redactItems, ih, List.map_cons, shown]

variable {hidden mask f}

mutual

theorem redact_eq_of_agree : ∀ {a b : DataTree κ α}, Agree hidden a b →
    redact hidden mask f a = redact hidden mask f b
  | .leaf a, b, h => by
      cases b with
      | leaf b => rw [show a = b from h]
      | list bs => exact absurd h id
      | tuple bs => exact absurd h id
      | dict bs => exact absurd h id
  | .list as, b, h => by
      cases b with
      | list bs => rw [redact, redact, redactList_eq_of_agree h]
      | leaf b => exact absurd h id
      | tuple bs => exact absurd h id
      | dict bs => exact absurd h id
  | .tuple as, b, h => by
      cases b with
      | tuple bs => rw [redact, redact, redactList_eq_of_agree h]
      | leaf b => exact absurd h id
      | list bs => exact absurd h id
      | dict bs => exact absurd h id
  | .dict as, b, h => by
      cases b with
      | dict bs => rw [redact, redact, redactItems_eq_of_agree h]
      | leaf b => exact absurd h id
      | list bs => exact absurd h id
      | tuple bs => exact absurd h id

theorem redactList_eq_of_agree : ∀ {as bs : List (DataTree κ α)}, AgreeList hidden as bs →
    redactList hidden mask f as = redactList hidden mask f bs
  | [], bs, h => by
      cases bs with
      | nil => rfl
      | cons b bs => exact absurd h id
  | a :: as, bs, h => by
      cases bs with
      | nil => exact absurd h id
      | cons b bs => rw [redactList, redactList, redact_eq_of_agree h.1, redactList_eq_of_agree h.2]

theorem redactItems_eq_of_agree : ∀ {as bs : List (κ × DataTree κ α)}, AgreeItems hidden as bs →
    redactItems hidden mask f as = redactItems hidden mask f bs
  | [], bs, h => by
      cases bs with
      | nil => rfl
      | cons b bs => exact absurd h id
  | (key, a) :: as, bs, h => by
      cases bs with
      | nil => exact absurd h id
      | cons e bs =>
          obtain ⟨key', b⟩ := e
          obtain ⟨hkey, hvalue, hrest⟩ := h
          subst hkey
          rw [redactItems, redactItems, redactItems_eq_of_agree hrest]
          by_cases hhidden : hidden key = true
          · rw [if_pos hhidden, if_pos hhidden]
          · -- only an entry that is seen has to agree
            rw [redact_eq_of_agree (hvalue.resolve_left hhidden)]

end

mutual

theorem redact_same : ∀ {a b : DataTree κ α}, Same a b →
    Same (redact hidden mask f a) (redact hidden mask f b)
  | .leaf a, b, h => by
      cases b with
      | leaf b => exact congrArg f h
      | list bs => exact absurd h id
      | tuple bs => exact absurd h id
      | dict bs => exact absurd h id
  | .list as, b, h => by
      cases b with
      | list bs => exact redactList_same h
      | leaf b => exact absurd h id
      | tuple bs => exact absurd h id
      | dict bs => exact absurd h id
  | .tuple as, b, h => by
      cases b with
      | tuple bs => exact redactList_same h
      | leaf b => exact absurd h id
      | list bs => exact absurd h id
      | dict bs => exact absurd h id
  | .dict as, b, h => by
      cases b with
      | dict bs =>
          refine ⟨redactItems_same h.1, ?_⟩
          intro e he
          rw [redactItems_eq_map] at he ⊢
          obtain ⟨e₁, he₁, rfl⟩ := List.mem_map.mp he
          obtain ⟨e₂, he₂, hkey⟩ := h.2 e₁ he₁
          exact ⟨_, List.mem_map_of_mem he₂, hkey⟩
      | leaf b => exact absurd h id
      | list bs => exact absurd h id
      | tuple bs => exact absurd h id

theorem redactList_same : ∀ {as bs : List (DataTree κ α)}, SameList as bs →
    SameList (redactList hidden mask f as) (redactList hidden mask f bs)
  | [], bs, h => by
      cases bs with
      | nil => trivial
      | cons b bs => exact absurd h id
  | a :: as, bs, h => by
      cases bs with
      | nil => exact absurd h id
      | cons b bs => exact ⟨redact_same h.1, redactList_same h.2⟩

theorem redactItems_same : ∀ {as bs : List (κ × DataTree κ α)}, SameItems as bs →
    SameItems (redactItems hidden mask f as) (redactItems hidden mask f bs)
  | [], _, _ => trivial
  | (key, a) :: as, bs, h => by
      obtain ⟨⟨b, hb, hsame⟩, hrest⟩ := h
      refine ⟨⟨if hidden key then .leaf mask else redact hidden mask f b, ?_, ?_⟩,
        redactItems_same hrest⟩
      · rw [redactItems_eq_map]
        exact List.mem_map_of_mem (f := shown hidden mask f) hb
      · by_cases hhidden : hidden key = true
        · rw [if_pos hhidden, if_pos hhidden]
          rfl
        · rw [if_neg hhidden, if_neg hhidden]
          exact redact_same hsame

end

mutual

/-- What is redacted already stays as it is. -/
theorem redact_redact (hf : ∀ a, f (f a) = f a) : ∀ a : DataTree κ α,
    redact hidden mask f (redact hidden mask f a) = redact hidden mask f a
  | .leaf a => by rw [redact, redact, hf]
  | .list as => by rw [redact, redact, redactList_redactList hf as]
  | .tuple as => by rw [redact, redact, redactList_redactList hf as]
  | .dict as => by rw [redact, redact, redactItems_redactItems hf as]

theorem redactList_redactList (hf : ∀ a, f (f a) = f a) : ∀ as : List (DataTree κ α),
    redactList hidden mask f (redactList hidden mask f as) = redactList hidden mask f as
  | [] => rfl
  | a :: as => by
      rw [redactList, redactList, redact_redact hf a, redactList_redactList hf as]

theorem redactItems_redactItems (hf : ∀ a, f (f a) = f a) : ∀ as : List (κ × DataTree κ α),
    redactItems hidden mask f (redactItems hidden mask f as) = redactItems hidden mask f as
  | [] => rfl
  | (key, a) :: as => by
      rw [redactItems, redactItems, redactItems_redactItems hf as]
      by_cases hhidden : hidden key = true
      · rw [if_pos hhidden, if_pos hhidden]
      · rw [if_neg hhidden, if_neg hhidden, redact_redact hf a]

end

/-! ### What is left of the shape -/

theorem node_redact (a : DataTree κ α) : (redact hidden mask f a).node = a.node.plain f := by
  cases a with
  | leaf a => rfl
  | list as =>
      rw [redact, redactList_eq_map, node, List.length_map]
      rfl
  | tuple as =>
      rw [redact, redactList_eq_map, node, List.length_map]
      rfl
  | dict as =>
      rw [redact, redactItems_eq_map, node, List.map_map]
      rfl

variable [DecidableEq κ]

theorem find?_redactItems (as : List (κ × DataTree κ α)) (key : κ) :
    ((redactItems hidden mask f as).find? fun e => e.1 = key) =
      (as.find? fun e => e.1 = key).map (shown hidden mask f) := by
  rw [redactItems_eq_map, List.find?_map]
  rfl

theorem child?_redact (a : DataTree κ α) {step : Step κ} (hstep : step.isHidden hidden = false) :
    (redact hidden mask f a).child? step = (a.child? step).map (redact hidden mask f) := by
  cases a with
  | leaf a => cases step <;> rfl
  | list as =>
      cases step with
      | key key => rfl
      | index n => rw [redact, child?, child?, redactList_eq_map, List.getElem?_map]
  | tuple as =>
      cases step with
      | key key => rfl
      | index n => rw [redact, child?, child?, redactList_eq_map, List.getElem?_map]
  | dict as =>
      cases step with
      | index n => rfl
      | key key =>
          rw [redact, child?, child?, find?_redactItems, Option.map_map, Option.map_map]
          refine Option.map_congr fun e he => ?_
          -- the entry found is the one asked for, so it is not hidden
          have hkey : e.1 = key := by simpa using List.find?_some he
          show (if hidden e.1 then DataTree.leaf mask else redact hidden mask f e.2) = _
          rw [hkey, show hidden key = false from hstep]
          rfl

/-- Along a path without a hidden key the image is the image of what is there. -/
theorem at?_redact (a : DataTree κ α) {path : List (Step κ)}
    (hpath : ∀ step ∈ path, step.isHidden hidden = false) :
    (redact hidden mask f a).at? path = (a.at? path).map (redact hidden mask f) := by
  induction path generalizing a with
  | nil => rfl
  | cons step path ih =>
      have hrest : ∀ step ∈ path, step.isHidden hidden = false :=
        fun step hstep => hpath step (List.mem_cons_of_mem _ hstep)
      rw [at?, at?, child?_redact a (hpath step List.mem_cons_self)]
      cases a.child? step with
      | none => rfl
      | some b => exact ih b hrest

/-- Under a hidden key there is the mask, if there is anything. -/
theorem at?_redact_hidden (a : DataTree κ α) {path : List (Step κ)}
    (hpath : ∀ step ∈ path, step.isHidden hidden = false) {key : κ} (hkey : hidden key = true) :
    (redact hidden mask f a).at? (path ++ [.key key]) =
      (a.at? (path ++ [.key key])).map fun _ => .leaf mask := by
  induction path generalizing a with
  | nil =>
      show ((redact hidden mask f a).child? (.key key)).bind some =
        ((a.child? (.key key)).bind some).map fun _ => .leaf mask
      rw [Option.bind_fun_some, Option.bind_fun_some]
      cases a with
      | dict as =>
          rw [redact, child?, child?, find?_redactItems, Option.map_map, Option.map_map]
          refine Option.map_congr fun e he => ?_
          have hfound : e.1 = key := by simpa using List.find?_some he
          show (if hidden e.1 then DataTree.leaf mask else redact hidden mask f e.2) = _
          rw [hfound, if_pos hkey]
          rfl
      | leaf a => rfl
      | list as => rfl
      | tuple as => rfl
  | cons step path ih =>
      have hrest : ∀ step ∈ path, step.isHidden hidden = false :=
        fun step hstep => hpath step (List.mem_cons_of_mem _ hstep)
      rw [List.cons_append, at?, at?, child?_redact a (hpath step List.mem_cons_self)]
      cases a.child? step with
      | none => rfl
      | some b => exact ih b hrest

end Redact

end DataTree
