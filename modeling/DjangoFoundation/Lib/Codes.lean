/-
Texts that show where they end.

A code writes values as lists of symbols.  It `Reads` a value back when its text, with anything
of `stop` behind it, is the text of no other value with anything of `stop` behind that: then
both the value and what is behind it are fixed by the whole.  Codes that read back can be put
one after the other, and what is made of them is read back in turn.

Such a code is injective; nothing here asks for a decoder, though having one is a way to show
that a code reads back.
-/
import Mathlib.Algebra.Group.Nat.Defs
import Mathlib.Data.List.Basic

namespace Codes

variable {α σ : Type*} {enc : α → List σ} {P : α → Prop} {stop : List σ → Prop} {a b : α}

/-- The text of `a` is told from those of the values of `P`. -/
def Reads (enc : α → List σ) (P : α → Prop) (stop : List σ → Prop) (a : α) : Prop :=
  ∀ b r r', P b → stop r → stop r' → enc a ++ r = enc b ++ r' → a = b ∧ r = r'

/-- Anything may follow. -/
def anything : List σ → Prop := fun _ => True

/-- No symbol of `p` follows. -/
def Ends (p : σ → Bool) (r : List σ) : Prop := ∀ c ∈ r.head?, p c = false

theorem ends_nil (p : σ → Bool) : Ends p [] := fun _ hc => by cases hc

theorem ends_cons {p : σ → Bool} {c : σ} (hc : p c = false) (r : List σ) : Ends p (c :: r) := by
  rintro _ ⟨⟩
  exact hc

theorem Reads.eq (h : Reads enc P stop a) (hstop : stop []) (hb : P b) (heq : enc a = enc b) :
    a = b :=
  (h b [] [] hb hstop hstop (by rw [heq])).1

/-! ### Ways to read back -/

theorem reads_of_decoder {dec : List σ → Option (α × List σ)}
    (h : ∀ b r, P b → stop r → dec (enc b ++ r) = some (b, r)) (ha : P a) :
    Reads enc P stop a := by
  intro b r r' hb hr hr' heq
  have hdec := h a r ha hr
  rw [heq, h b r' hb hr', Option.some.injEq, Prod.mk.injEq] at hdec
  exact ⟨hdec.1.symm, hdec.2.symm⟩

theorem takeWhile_append_ends {p : σ → Bool} {s r : List σ} (hs : ∀ c ∈ s, p c = true)
    (hr : Ends p r) : (s ++ r).takeWhile p = s := by
  have hnone : r.takeWhile p = [] := by
    cases r with
    | nil => rfl
    | cons c r => rw [List.takeWhile_cons, hr c rfl, if_neg Bool.false_ne_true]
  rw [List.takeWhile_append_of_pos hs, hnone, List.append_nil]

/-- Texts of symbols of `p`, with none behind. -/
theorem reads_of_span {p : σ → Bool} (hall : ∀ b, P b → ∀ c ∈ enc b, p c = true)
    (hinj : ∀ b, P b → enc a = enc b → a = b) (ha : P a) : Reads enc P (Ends p) a := by
  intro b r r' hb hr hr' heq
  have htake := congrArg (List.takeWhile p) heq
  rw [takeWhile_append_ends (hall a ha) hr, takeWhile_append_ends (hall b hb) hr'] at htake
  refine ⟨hinj b hb htake, ?_⟩
  rw [htake] at heq
  exact List.append_cancel_left heq

/-- Texts of one length. -/
theorem reads_of_length {n : Nat} (hlength : ∀ b, P b → (enc b).length = n)
    (hinj : ∀ b, P b → enc a = enc b → a = b) (ha : P a) : Reads enc P anything a := by
  intro b r r' hb _ _ heq
  obtain ⟨hsame, hrest⟩ := List.append_inj heq ((hlength a ha).trans (hlength b hb).symm)
  exact ⟨hinj b hb hsame, hrest⟩

/-- Values written one after the other up to a symbol that none of them starts with. -/
theorem flatMap_reads {t : σ} (hcode : ∀ a, P a → Reads enc P anything a)
    (hhead : ∀ a, P a → ∃ c cs, enc a = c :: cs ∧ c ≠ t) {as bs : List α}
    (has : ∀ a ∈ as, P a) (hbs : ∀ b ∈ bs, P b) {r r' : List σ}
    (h : as.flatMap enc ++ t :: r = bs.flatMap enc ++ t :: r') : as = bs ∧ r = r' := by
  induction as generalizing bs with
  | nil =>
      cases bs with
      | nil =>
          rw [List.flatMap_nil, List.nil_append, List.nil_append, List.cons.injEq] at h
          exact ⟨rfl, h.2⟩
      | cons b bs =>
          obtain ⟨c, cs, hc, hne⟩ := hhead b (hbs b List.mem_cons_self)
          rw [List.flatMap_nil, List.nil_append, List.flatMap_cons, hc, List.cons_append,
            List.cons_append, List.cons.injEq] at h
          exact absurd h.1.symm hne
  | cons a as ih =>
      cases bs with
      | nil =>
          obtain ⟨c, cs, hc, hne⟩ := hhead a (has a List.mem_cons_self)
          rw [List.flatMap_nil, List.nil_append, List.flatMap_cons, hc, List.cons_append,
            List.cons_append, List.cons.injEq] at h
          exact absurd h.1 hne
      | cons b bs =>
          rw [List.flatMap_cons, List.flatMap_cons, List.append_assoc, List.append_assoc] at h
          obtain ⟨rfl, hrest⟩ := hcode a (has a List.mem_cons_self) b _ _
            (hbs b List.mem_cons_self) trivial trivial h
          obtain ⟨rfl, hr⟩ := ih (fun a' ha' => has a' (List.mem_cons_of_mem _ ha'))
            (fun b' hb' => hbs b' (List.mem_cons_of_mem _ hb')) hrest
          exact ⟨rfl, hr⟩

/-! ### Numbers -/

/-- A number in `w` decimal digits, with zeros in front. -/
def padded : Nat → Nat → List Char
  | 0, _ => []
  | w + 1, n => padded w (n / 10) ++ [(n % 10).digitChar]

@[simp] theorem length_padded (w n : Nat) : (padded w n).length = w := by
  induction w generalizing n with
  | zero => rfl
  | succ w ih => rw [padded, List.length_append, ih, List.length_singleton]

theorem padded_injective {w m n : Nat} (hm : m < 10 ^ w) (hn : n < 10 ^ w)
    (h : padded w m = padded w n) : m = n := by
  have hdigit : ∀ a < 10, ∀ b < 10, a.digitChar = b.digitChar → a = b := by decide
  induction w generalizing m n with
  | zero => omega
  | succ w ih =>
      rw [Nat.pow_succ] at hm hn
      rw [padded, padded] at h
      obtain ⟨hhigh, hlow⟩ := List.append_inj h (by simp)
      have := ih (by omega) (by omega) hhigh
      have := hdigit _ (Nat.mod_lt m (by decide)) _ (Nat.mod_lt n (by decide))
        (List.head_eq_of_cons_eq hlow)
      omega

theorem reads_padded {w n : Nat} (h : n < 10 ^ w) :
    Reads (padded w) (fun m => m < 10 ^ w) anything n :=
  reads_of_length (fun m _ => length_padded w m) (fun _ hm => padded_injective h hm) h

end Codes
