/-
What is hashed of a recovery code, when it is drawn and when it is entered.

A code is capital hexadecimal, which neither `strip` nor `upper` changes, so what is hashed at
its creation is the code itself.  Entered in any letter case, with hyphens in it and blanks
around it, it is hashed as the same.
-/
import Mathlib.Data.Bool.AllAny
import Mathlib.Data.List.TakeWhile
import DjangoFoundation.Authentication.TwoFactor

namespace DjangoFoundation

namespace TwoFactorService

variable {env : Environment} {twoFactor : TwoFactor}

/-- A character that is left alone by `strip` and `upper`. -/
theorem hex_char {unicode : Unicode} {c : Char} (h : c ∈ "0123456789ABCDEF".toList) :
    unicode.charIsSpace c = false ∧ Unicode.isAscii c = true ∧ c.toUpper = c ∧ c ≠ '-' := by
  have hall : ("0123456789ABCDEF".toList.all fun c => Unicode.isAscii c = true ∧ c.toUpper = c ∧
      c ≠ '-' ∧ ¬((9 ≤ c.toNat ∧ c.toNat ≤ 13) ∨ (28 ≤ c.toNat ∧ c.toNat ≤ 32))) = true := by
    decide
  obtain ⟨hascii, hupper, hhyphen, hspace⟩ := List.all_iff_forall_prop.mp hall c h
  refine ⟨?_, hascii, hupper, hhyphen⟩
  rw [Unicode.charIsSpace, if_pos hascii]
  exact decide_eq_false hspace

theorem upper_ascii {s : List Char} (h : ∀ c ∈ s, Unicode.isAscii c = true) :
    upper twoFactor s = s.map Char.toUpper := by
  induction s with
  | nil => rfl
  | cons c s ih =>
      rw [upper, List.flatMap_cons, if_pos (h c List.mem_cons_self)]
      exact congrArg (c.toUpper :: ·) (ih fun d hd => h d (List.mem_cons_of_mem c hd))

theorem dropWhile_ink {unicode : Unicode} {s : List Char}
    (h : ∀ c ∈ s, unicode.charIsSpace c = false) : s.dropWhile unicode.charIsSpace = s := by
  cases s with
  | nil => rfl
  | cons c s =>
      rw [List.dropWhile_cons, h c List.mem_cons_self]
      rfl

theorem strip_ink {unicode : Unicode} {s : List Char}
    (h : ∀ c ∈ s, unicode.charIsSpace c = false) : unicode.strip s = s :=
  Unicode.strip_of_trimmed
    ⟨fun c hc => h c (List.mem_of_head? hc), fun c hc => h c (List.mem_of_getLast? hc)⟩

/-- Blanks around text without blanks are all that `strip` takes. -/
theorem strip_surrounded {unicode : Unicode} {before body after : List Char}
    (hbefore : ∀ c ∈ before, unicode.charIsSpace c = true)
    (hbody : ∀ c ∈ body, unicode.charIsSpace c = false)
    (hafter : ∀ c ∈ after, unicode.charIsSpace c = true) :
    unicode.strip (before ++ body ++ after) = body := by
  unfold Unicode.strip
  rw [List.append_assoc, List.dropWhile_append_of_pos hbefore]
  cases body with
  | nil => rw [List.nil_append, List.dropWhile_eq_nil_iff.mpr hafter, List.reverse_nil]; rfl
  | cons c body =>
      have hhead : ((c :: body) ++ after).dropWhile unicode.charIsSpace = (c :: body) ++ after := by
        rw [List.cons_append, List.dropWhile_cons, hbody c List.mem_cons_self]
        rfl
      have hreverse : ∀ d ∈ after.reverse, unicode.charIsSpace d = true :=
        fun d hd => hafter d (List.mem_reverse.mp hd)
      rw [hhead, List.reverse_append, List.dropWhile_append_of_pos hreverse,
        dropWhile_ink fun d hd => hbody d (List.mem_reverse.mp hd), List.reverse_reverse]

theorem hashed_code {code : String} (h : IsRecoveryCode code) :
    String.ofList (upper twoFactor (env.unicode.strip code.toList)) = code := by
  have hstrip : env.unicode.strip code.toList = code.toList :=
    strip_ink fun c hc => (hex_char (h.2 c hc)).1
  have hupper : upper twoFactor code.toList = code.toList := by
    rw [upper_ascii fun c hc => (@hex_char env.unicode c (h.2 c hc)).2.1]
    refine (List.map_congr_left fun c hc => ?_).trans (List.map_id _)
    exact (@hex_char env.unicode c (h.2 c hc)).2.2.1
  rw [hstrip, hupper, String.ofList_toList]

/-- What is hashed of a code at its creation. -/
theorem recoveryHash_code {code : String} (h : IsRecoveryCode code) :
    recoveryHash env twoFactor code = env.keyring.keyedHash "recovery-code" code := by
  rw [recoveryHash, hashed_code h]

/-- Codes drawn go in where their credential has none. -/
theorem exists_insertCodes (env : Environment) (twoFactor : TwoFactor) {credential : UUID}
    (codes : RecoveryCodes) {rows : Table RecoveryCode}
    (hfree : ∀ row ∈ rows, row.credential ≠ credential) :
    ∃ rows' : Table RecoveryCode, insertCodes env twoFactor credential codes rows = some rows' ∧
      rows'.rows = rows.rows ++ codes.values.map (newCode env twoFactor credential) := by
  refine Table.exists_foldlM_insert? _ _ _ (fun code _ row hrow hpk => ?_) ?_
  · exact hfree row hrow (congrArg Prod.fst hpk)
  · refine codes.nodup.map_on fun a ha b hb hpk => ?_
    have hhash : recoveryHash env twoFactor a = recoveryHash env twoFactor b :=
      congrArg Prod.snd hpk
    rw [recoveryHash_code (codes.code a ha), recoveryHash_code (codes.code b hb)] at hhash
    exact env.keyring.keyedHash_injective _ hhash

/-! ### Entered codes

`consume_recovery_code` takes hyphens and blanks out and turns letters to capitals before it
hashes.
-/

/-- The code in any letter case, with hyphens in it and blanks around it. -/
def Spells (unicode : Unicode) (raw code : String) : Prop :=
  ∃ before body after, raw.toList = before ++ body ++ after ∧
    (∀ c ∈ before, unicode.charIsSpace c = true) ∧
    (∀ c ∈ after, unicode.charIsSpace c = true) ∧
    (body.filter fun c => c ≠ '-').map Char.toUpper = code.toList

/-- A letter or digit of a code, in either case. -/
theorem hex_of_toUpper {unicode : Unicode} {c : Char}
    (h : c.toUpper ∈ "0123456789ABCDEF".toList) :
    unicode.charIsSpace c = false ∧ Unicode.isAscii c = true := by
  unfold Char.toUpper at h
  split at h
  · rename_i hlower
    have hge : 97 ≤ c.toNat := UInt32.le_iff_toNat_le.mp hlower.1
    have hle : c.toNat ≤ 122 := UInt32.le_iff_toNat_le.mp hlower.2
    have hascii : Unicode.isAscii c = true := decide_eq_true (by omega)
    refine ⟨?_, hascii⟩
    rw [Unicode.charIsSpace, if_pos hascii]
    exact decide_eq_false (by omega)
  · obtain ⟨hspace, hascii, _⟩ := @hex_char unicode c h
    exact ⟨hspace, hascii⟩

/-- **A code is itself again however it is spelt.** -/
theorem normalized_of_spells {raw code : String} (h : IsRecoveryCode code)
    (hraw : Spells env.unicode raw code) : normalized env twoFactor raw = code := by
  obtain ⟨before, body, after, hsplit, hbefore, hafter, hbody⟩ := hraw
  have hink : ∀ c ∈ body.filter fun c => c ≠ '-',
      env.unicode.charIsSpace c = false ∧ Unicode.isAscii c = true := by
    intro c hc
    refine hex_of_toUpper (h.2 c.toUpper ?_)
    rw [← hbody]
    exact List.mem_map_of_mem hc
  have hstrip : env.unicode.strip raw.toList = body := by
    rw [hsplit]
    refine strip_surrounded hbefore (fun c hc => ?_) hafter
    by_cases hhyphen : c = '-'
    · rw [hhyphen, Unicode.charIsSpace, if_pos (by decide)]
      decide
    · exact (hink c (List.mem_filter.mpr ⟨hc, by simpa using hhyphen⟩)).1
  rw [normalized, hstrip, upper_ascii fun c hc => (hink c hc).2, hbody, String.ofList_toList]

end TwoFactorService

end DjangoFoundation
