/-
JSON values, as columns, caches and audit records hold them.

A dictionary is its items in order.  What arithmetic there is on numbers nothing here asks
for: an integer is told from a float, and a float is the text it is written as.
-/
import Mathlib.Data.List.Basic

namespace DjangoFoundation

inductive Json
  /-- `None`. -/
  | null
  | bool (value : Bool)
  | int (value : Int)
  | float (repr : String)
  | str (value : String)
  | list (items : List Json)
  | dict (items : List (String × Json))
  deriving Repr

namespace Json

mutual

/-- `a == b`, of values of one type. -/
def same : Json → Json → Bool
  | .null, .null => true
  | .bool a, .bool b => a == b
  | .int a, .int b => a == b
  | .float a, .float b => a == b
  | .str a, .str b => a == b
  | .list as, .list bs => sameList as bs
  | .dict as, .dict bs => sameItems as bs
  | _, _ => false

def sameList : List Json → List Json → Bool
  | [], [] => true
  | a :: as, b :: bs => same a b && sameList as bs
  | _, _ => false

def sameItems : List (String × Json) → List (String × Json) → Bool
  | [], [] => true
  | (key, a) :: as, (key', b) :: bs => key == key' && same a b && sameItems as bs
  | _, _ => false

end

mutual

theorem same_iff : ∀ a b : Json, same a b = true ↔ a = b
  | .list as, b => by
      cases b with
      | list bs => rw [same, sameList_iff as bs, Json.list.injEq]
      | _ => simp [same]
  | .dict as, b => by
      cases b with
      | dict bs => rw [same, sameItems_iff as bs, Json.dict.injEq]
      | _ => simp [same]
  | .null, b => by cases b <;> simp [same]
  | .bool _, b => by cases b <;> simp [same]
  | .int _, b => by cases b <;> simp [same]
  | .float _, b => by cases b <;> simp [same]
  | .str _, b => by cases b <;> simp [same]

theorem sameList_iff : ∀ as bs : List Json, sameList as bs = true ↔ as = bs
  | [], bs => by cases bs <;> simp [sameList]
  | a :: as, bs => by
      cases bs with
      | nil => simp [sameList]
      | cons b bs => rw [sameList, Bool.and_eq_true, same_iff a b, sameList_iff as bs,
          List.cons.injEq]

theorem sameItems_iff : ∀ as bs : List (String × Json), sameItems as bs = true ↔ as = bs
  | [], bs => by cases bs <;> simp [sameItems]
  | (key, a) :: as, bs => by
      cases bs with
      | nil => simp [sameItems]
      | cons b bs =>
          obtain ⟨key', b⟩ := b
          rw [sameItems, Bool.and_eq_true, Bool.and_eq_true, beq_iff_eq, same_iff a b,
            sameItems_iff as bs, List.cons.injEq, Prod.mk.injEq]

end

instance : DecidableEq Json := fun a b => decidable_of_iff (same a b = true) (same_iff a b)

end Json

end DjangoFoundation
