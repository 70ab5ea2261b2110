/-
`RuntimeSettingService` (`apps/core/services.py`): settings read through the cache.

The audit record of a write is left out here, as no reader of settings sees it.
-/
import DjangoFoundation.Lib.Memo
import DjangoFoundation.Common.Exceptions
import DjangoFoundation.Core.Models

namespace DjangoFoundation

namespace RuntimeSettingService

/-- The rows of `Setting`, and the cache. -/
structure Store where
  rows : Table Setting := ∅
  cache : Memo String Json := ∅

def cacheTimeout : Int := seconds 300

/-- `f"runtime-setting:{key}:{int(public_only)}"`. -/
def cacheKey (key : String) (publicOnly : Bool) : String :=
  "runtime-setting:" ++ key ++ ":" ++ if publicOnly then "1" else "0"

/-- The value of the row, if it is there for the reader. -/
def visible (rows : Table Setting) (key : String) (publicOnly : Bool) : Option Json :=
  ((rows.get? key).filter fun row => !publicOnly || row.isPublic).map Setting.value

/-- `row.value if row else default`. -/
def read (rows : Table Setting) (key : String) (publicOnly : Bool) (default : Json) : Json :=
  (visible rows key publicOnly).getD default

/-- What the cache has for the reader; a `None` in it is nothing. -/
def cached (cache : Memo String Json) (now : Int) (key : String) (publicOnly : Bool) :
    Option Json :=
  (cache.get now (cacheKey key publicOnly)).filter fun value => value ≠ .null

/-- `cache.set(cache_key, value, cls.cache_timeout)`. -/
def fill (cache : Memo String Json) (now : Int) (key : String) (publicOnly : Bool) (value : Json) :
    Memo String Json :=
  cache.set now (cacheKey key publicOnly) value cacheTimeout

def get (now : Int) (s : Store) (key : String) (default : Json) (publicOnly : Bool) :
    Json × Store :=
  match cached s.cache now key publicOnly with
  | some value => (value, s)
  | none =>
      let value := read s.rows key publicOnly default
      (value, { s with cache := fill s.cache now key publicOnly value })

/-- The arguments of `set`; of the other fields those that are given. -/
structure Args where
  key : String
  value : Json
  valueType : SettingValueType
  group : Option String := none
  isPublic : Option Bool := none
  description : Option String := none
  deriving DecidableEq, Repr

/-- The row `set` makes of the one it finds, or of a new one. -/
def Args.row (args : Args) (found : Option Setting) (pk : UUID) (now : Int) : Setting :=
  let row := found.getD
    { pk := pk, key := args.key, value := .null, createdAt := now, updatedAt := now }
  { row with
    value := args.value
    valueType := args.valueType
    group := args.group.getD row.group
    isPublic := args.isPublic.getD row.isPublic
    description := args.description.getD row.description
    updatedAt := now }

/-- The two deletes. -/
def clear (cache : Memo String Json) (key : String) : Memo String Json :=
  (cache.delete (cacheKey key false)).delete (cacheKey key true)

/-- `pk` is the id of a row that is created. -/
def set (now : Int) (s : Store) (pk : UUID) (args : Args) : Except Exception Store :=
  let row := args.row (s.rows.get? args.key) pk now
  if row.allErrors s.rows ≠ [] then .error .validation
  else .ok { rows := s.rows.put row, cache := clear s.cache args.key }

/-! ### Lemmas -/

private theorem toList_cacheKey (key : String) (publicOnly : Bool) :
    (cacheKey key publicOnly).toList = "runtime-setting:".toList ++
      (key.toList ++ (":".toList ++ (if publicOnly then "1" else "0" : String).toList)) := by
  show ("runtime-setting:" ++ key ++ ":" ++ if publicOnly then "1" else "0").toList = _
  rw [String.toList_append, String.toList_append, String.toList_append, List.append_assoc,
    List.append_assoc]

theorem cacheKey_inj {key key' : String} {publicOnly publicOnly' : Bool} :
    cacheKey key publicOnly = cacheKey key' publicOnly' ↔
      key = key' ∧ publicOnly = publicOnly' := by
  constructor
  · intro h
    have hlist := congrArg String.toList h
    rw [toList_cacheKey, toList_cacheKey] at hlist
    have hlength : ∀ flag : Bool, (":".toList ++
        (if flag then "1" else "0" : String).toList).length = 2 := by decide
    obtain ⟨hkey, hflag⟩ := List.append_inj' (List.append_cancel_left hlist)
      ((hlength publicOnly).trans (hlength publicOnly').symm)
    refine ⟨String.toList_injective hkey, ?_⟩
    have hdigit := List.append_cancel_left hflag
    clear hlist hlength hkey hflag h
    revert publicOnly publicOnly'
    decide
  · rintro ⟨rfl, rfl⟩
    rfl

theorem cached_fill (cache : Memo String Json) (now : Int) (key other : String)
    (publicOnly publicOnly' : Bool) (value : Json) :
    cached (fill cache now key publicOnly value) now other publicOnly' =
      if other = key ∧ publicOnly' = publicOnly then if value ≠ .null then some value else none
      else cached cache now other publicOnly' := by
  have htimeout : 0 < cacheTimeout := by decide
  unfold cached fill
  simp only [Memo.get_set cache htimeout, cacheKey_inj]
  by_cases hsame : other = key ∧ publicOnly' = publicOnly
  · rw [if_pos hsame, if_pos hsame, Option.filter_some]
    simp only [decide_eq_true_eq]
  · rw [if_neg hsame, if_neg hsame]

theorem cached_delete (cache : Memo String Json) (now : Int) (key other : String)
    (publicOnly publicOnly' : Bool) :
    cached (cache.delete (cacheKey key publicOnly)) now other publicOnly' =
      if other = key ∧ publicOnly' = publicOnly then none
      else cached cache now other publicOnly' := by
  unfold cached
  simp only [Memo.get_delete, cacheKey_inj]
  split
  · rfl
  · rfl

theorem cached_clear (cache : Memo String Json) (now : Int) (key other : String)
    (publicOnly : Bool) :
    cached (clear cache key) now other publicOnly =
      if other = key then none else cached cache now other publicOnly := by
  unfold clear
  rw [cached_delete, cached_delete]
  by_cases hsame : other = key
  · cases publicOnly
    · simp [hsame]
    · simp [hsame]
  · simp [hsame]

theorem cached_of_le {cache : Memo String Json} {now later : Int} {key : String}
    {publicOnly : Bool} {value : Json} (hle : now ≤ later)
    (h : cached cache later key publicOnly = some value) :
    cached cache now key publicOnly = some value := by
  rw [cached, Option.filter_eq_some_iff] at h ⊢
  exact ⟨Memo.get_of_le hle h.1, h.2⟩

theorem cached_of_delete {cache : Memo String Json} {now : Int} {cacheKey key : String}
    {publicOnly : Bool} {value : Json}
    (h : value ∈ cached (cache.delete cacheKey) now key publicOnly) :
    value ∈ cached cache now key publicOnly := by
  rw [Option.mem_def, cached, Option.filter_eq_some_iff, Memo.get_delete] at h
  rw [Option.mem_def, cached, Option.filter_eq_some_iff]
  refine ⟨?_, h.2⟩
  by_cases hkey : RuntimeSettingService.cacheKey key publicOnly = cacheKey
  · rw [if_pos hkey] at h
    cases h.1
  · rw [if_neg hkey] at h
    exact h.1

/-! ### Agreement of cache and rows -/

section Agreement

variable {rows : Table Setting} {key : String} {publicOnly : Bool} {value : Json}

/-- The value is that of the row, if the row is visible to the reader. -/
def Agrees (rows : Table Setting) (key : String) (publicOnly : Bool) (value : Json) : Prop :=
  ∀ current ∈ visible rows key publicOnly, value = current

instance : Decidable (Agrees rows key publicOnly value) :=
  inferInstanceAs (Decidable (∀ current ∈ visible rows key publicOnly, value = current))

theorem agrees_read (rows : Table Setting) (key : String) (publicOnly : Bool) (default : Json) :
    Agrees rows key publicOnly (read rows key publicOnly default) := by
  intro current hcurrent
  rw [read, Option.mem_def.mp hcurrent, Option.getD_some]

theorem get?_put (rows : Table Setting) (row : Setting) (key : String) :
    (rows.put row).get? key = if row.key = key then some row else rows.get? key :=
  Table.get?_put rows row key

theorem visible_put (rows : Table Setting) (row : Setting) (key : String) (publicOnly : Bool) :
    visible (rows.put row) key publicOnly =
      if row.key = key then if !publicOnly || row.isPublic then some row.value else none
      else visible rows key publicOnly := by
  unfold visible
  rw [get?_put]
  by_cases hkey : row.key = key
  · rw [if_pos hkey, if_pos hkey, Option.filter_some]
    split
    · rfl
    · rfl
  · rw [if_neg hkey, if_neg hkey]

end Agreement

end RuntimeSettingService

end DjangoFoundation
