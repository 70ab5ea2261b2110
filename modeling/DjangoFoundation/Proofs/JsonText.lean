/-
What `json.dumps` writes tells values apart.

Characters are read back one by one, so strings are, up to their closing quote; numbers up to
the first character no number has; and from there the induction goes over the value.  What the
text fixes is the value with its entries sorted.

That a value is told from its text is `Reads`: what follows the text may differ, and is told
too.  In this form it goes from characters to strings and from values to lists and entries.
-/
import DjangoFoundation.Lib.Codes
import DjangoFoundation.Common.JsonText

namespace DjangoFoundation.Json

open Codes

/-! ### Strings

Each character is escaped by itself, and no escape is the beginning of another.  The quote that
ends a string is none of them, so a string can be read off the front of a longer text.
-/

def digitValue (c : Char) : Nat := if c.isDigit then c.toNat - 48 else c.toNat - 87

theorem digitValue_digitChar : ∀ d < 16, digitValue d.digitChar = d := by decide

def value4 (a b c d : Char) : Nat :=
  ((digitValue a * 16 + digitValue b) * 16 + digitValue c) * 16 + digitValue d

/-- The character of two UTF-16 units, the second of which is still to be read. -/
def unescapeLow (high : Nat) : List Char → Option (Char × List Char)
  | _ :: _ :: a :: b :: c :: d :: r =>
      some (Char.ofNat (65536 + (high - 55296) * 1024 + (value4 a b c d - 56320)), r)
  | _ => none

/-- The character that an escape is for, without its backslash. -/
def unescapeUnits : List Char → Option (Char × List Char)
  | 'u' :: a :: b :: c :: d :: r =>
      if 55296 ≤ value4 a b c d ∧ value4 a b c d < 56320 then unescapeLow (value4 a b c d) r
      else some (Char.ofNat (value4 a b c d), r)
  | 'b' :: r => some ('\x08', r)
  | 'f' :: r => some ('\x0c', r)
  | 'n' :: r => some ('\n', r)
  | 'r' :: r => some ('\r', r)
  | 't' :: r => some ('\t', r)
  | c :: r => some (c, r)
  | [] => none

def unescape : List Char → Option (Char × List Char)
  | [] => none
  | c :: r => if c = '\\' then unescapeUnits r else some (c, r)

theorem value4_hex4 {n : Nat} (h : n < 65536) :
    value4 (n / 4096 % 16).digitChar (n / 256 % 16).digitChar (n / 16 % 16).digitChar
      (n % 16).digitChar = n := by
  have hmod : ∀ m, digitValue (m % 16).digitChar = m % 16 := fun m =>
    digitValue_digitChar (m % 16) (Nat.mod_lt m (by decide))
  rw [value4, hmod, hmod, hmod, hmod]
  omega

theorem unescapeUnits_basic {n : Nat} (hn : n < 65536) (hplane : ¬(55296 ≤ n ∧ n < 56320))
    (r : List Char) : unescapeUnits ('u' :: (hex4 n ++ r)) = some (Char.ofNat n, r) := by
  rw [hex4, List.cons_append, List.cons_append, List.cons_append, List.cons_append,
    List.nil_append, unescapeUnits, value4_hex4 hn, if_neg hplane]

theorem unescapeUnits_pair {high low : Nat} (hhigh : 55296 ≤ high ∧ high < 56320)
    (hlow : low < 65536) (r : List Char) :
    unescapeUnits ('u' :: (hex4 high ++ '\\' :: 'u' :: (hex4 low ++ r))) =
      some (Char.ofNat (65536 + (high - 55296) * 1024 + (low - 56320)), r) := by
  rw [hex4, List.cons_append, List.cons_append, List.cons_append, List.cons_append,
    List.nil_append, unescapeUnits, value4_hex4 (by omega), if_pos hhigh]
  rw [hex4, List.cons_append, List.cons_append, List.cons_append, List.cons_append,
    List.nil_append, unescapeLow, value4_hex4 hlow]

theorem unescape_escapeUnits (c : Char) (r : List Char) :
    unescape (escapeUnits c.toNat ++ r) = some (c, r) := by
  have hvalid : c.toNat < 55296 ∨ 57343 < c.toNat ∧ c.toNat < 1114112 := c.valid
  unfold escapeUnits
  by_cases hbasic : c.toNat < 65536
  · rw [if_pos hbasic, List.cons_append, List.cons_append, unescape, if_pos rfl,
      unescapeUnits_basic hbasic (by omega), Char.ofNat_toNat]
  · have hhigh : 55296 ≤ 55296 + (c.toNat - 65536) / 1024 ∧
        55296 + (c.toNat - 65536) / 1024 < 56320 := by omega
    have hlow : 56320 + (c.toNat - 65536) % 1024 < 65536 := by omega
    rw [if_neg hbasic, List.append_assoc, List.cons_append, List.cons_append, List.cons_append,
      List.cons_append, unescape, if_pos rfl, unescapeUnits_pair hhigh hlow]
    have hsum : 65536 + (55296 + (c.toNat - 65536) / 1024 - 55296) * 1024 +
        (56320 + (c.toNat - 65536) % 1024 - 56320) = c.toNat := by omega
    rw [hsum, Char.ofNat_toNat]

theorem unescape_escape (c : Char) (r : List Char) : unescape (escape c ++ r) = some (c, r) := by
  unfold escape
  split
  · rename_i h
    rw [h]
    rfl
  split
  · rename_i h
    rw [h]
    rfl
  split
  · rename_i h
    rw [h]
    rfl
  split
  · rename_i h
    rw [h]
    rfl
  split
  · rename_i h
    rw [h]
    rfl
  split
  · rename_i h
    rw [h]
    rfl
  split
  · rename_i h
    rw [h]
    rfl
  split
  · rename_i hslash _ _ _ _ _ _
    rw [List.singleton_append, unescape, if_neg hslash]
  · exact unescape_escapeUnits c r

theorem reads_escape (c : Char) : Reads escape (fun _ => True) anything c :=
  reads_of_decoder (fun b r _ _ => unescape_escape b r) trivial

/-- No escape starts with the quote that ends a string. -/
theorem escape_head (c : Char) : ∃ d ds, escape c = d :: ds ∧ d ≠ '"' := by
  unfold escape escapeUnits
  split_ifs with hquote
  all_goals first
    | exact ⟨'\\', _, rfl, by decide⟩
    | exact ⟨c, [], rfl, hquote⟩

theorem quote_reads {s t : String} {r r' : List Char} (h : quote s ++ r = quote t ++ r') :
    s = t ∧ r = r' := by
  unfold quote at h
  rw [List.cons_append, List.cons_append, List.cons.injEq, List.append_assoc,
    List.append_assoc] at h
  obtain ⟨hchars, hrest⟩ := flatMap_reads (fun c _ => reads_escape c) (fun c _ => escape_head c)
    (fun _ _ => trivial) (fun _ _ => trivial) h.2
  exact ⟨String.toList_injective hchars, hrest⟩

/-! ### Numbers

The digits of a number end at the first character that is none of a number's.  In JSON text
that is a comma, a bracket or the end.
-/

theorem intText_digits (n : Int) : ∀ c ∈ intText n, c.isDigit = true ∨ c = '-' := by
  have hdigits : ∀ c ∈ Nat.toDigits 10 n.natAbs, c.isDigit = true := fun c hc =>
    Nat.isDigit_of_mem_toDigits (by decide) (by decide) hc
  intro c hc
  unfold intText at hc
  split at hc
  · rcases List.mem_cons.mp hc with rfl | hc
    · exact Or.inr rfl
    · exact Or.inl (hdigits c hc)
  · exact Or.inl (hdigits c hc)

theorem toDigits_injective {m n : Nat} (h : Nat.toDigits 10 m = Nat.toDigits 10 n) : m = n := by
  rw [← Nat.ofDigitChars_ten_toDigits (n := m), h, Nat.ofDigitChars_ten_toDigits]

theorem not_sign_toDigits (m n : Nat) (cs : List Char) (h : Nat.toDigits 10 m = '-' :: cs) :
    n = m := by
  have hdigit : '-'.isDigit = true := by
    refine Nat.isDigit_of_mem_toDigits (b := 10) (n := m) (by decide) (by decide) ?_
    rw [h]
    exact List.mem_cons_self
  exact absurd hdigit (by decide)

theorem intText_injective {m n : Int} (h : intText m = intText n) : m = n := by
  unfold intText at h
  split at h
  · split at h
    · rw [List.cons.injEq] at h
      have := toDigits_injective h.2
      omega
    · have := not_sign_toDigits _ (n.natAbs + 1) _ h.symm
      omega
  · split at h
    · have := not_sign_toDigits _ (m.natAbs + 1) _ h
      omega
    · have := toDigits_injective h
      omega

/-- The text of a number. -/
def numberText : Int ⊕ String → List Char
  | .inl value => intText value
  | .inr repr => repr.toList

def NumberProper : Int ⊕ String → Prop
  | .inl _ => True
  | .inr repr => floatText repr = true

theorem inNumber_numberText (a : Int ⊕ String) (ha : NumberProper a) :
    ∀ c ∈ numberText a, inNumber c = true := by
  intro c hc
  cases a with
  | inl value =>
      rcases intText_digits value c hc with hdigit | rfl
      · rw [inNumber, hdigit, Bool.true_or]
      · decide
  | inr repr =>
      simp only [NumberProper, floatText, Bool.and_eq_true, List.all_eq_true] at ha
      exact ha.1.2 c hc

theorem numberText_injective {a b : Int ⊕ String} (ha : NumberProper a) (hb : NumberProper b)
    (h : numberText a = numberText b) : a = b := by
  have hmixed : ∀ (value : Int) (repr : String), floatText repr = true →
      intText value = repr.toList → False := by
    intro value repr hrepr heq
    simp only [floatText, Bool.and_eq_true, List.any_eq_true, Bool.or_eq_true,
      decide_eq_true_eq] at hrepr
    obtain ⟨c, hc, hpoint⟩ := hrepr.2
    rw [← heq] at hc
    rcases intText_digits value c hc with hdigit | rfl
    · rcases hpoint with rfl | rfl
      · exact absurd hdigit (by decide)
      · exact absurd hdigit (by decide)
    · exact absurd hpoint (by decide)
  cases a with
  | inl m =>
      cases b with
      | inl n => rw [intText_injective h]
      | inr repr => exact absurd h fun heq => hmixed m repr hb heq
  | inr repr =>
      cases b with
      | inl n => exact absurd h fun heq => hmixed n repr ha heq.symm
      | inr repr' => rw [String.toList_injective h]

theorem reads_number {a : Int ⊕ String} (ha : NumberProper a) :
    Reads numberText NumberProper (Ends inNumber) a :=
  reads_of_span inNumber_numberText (fun _ hb => numberText_injective ha hb) ha

/-! ### Values

The reading goes by the first character, which tells what kind of value begins there.  A list
or a dictionary ends at a bracket that no value begins with.
-/

/-- What a text is for, by its first character; nothing starts with `]`. -/
def kindOf (c : Char) : Nat :=
  if c = 'n' then 0 else if c = 't' then 1 else if c = 'f' then 1 else if c = '"' then 2
  else if c = '[' then 3 else if c = '\x7b' then 4 else if c = ']' then 6 else 5

def kind : Json → Nat
  | .null => 0
  | .bool _ => 1
  | .str _ => 2
  | .list _ => 3
  | .dict _ => 4
  | .int _ => 5
  | .float _ => 5

theorem kind_lt (v : Json) : kind v < 6 := by
  unfold kind
  split <;> omega

theorem kindOf_number {c : Char} (h : c.isDigit = true ∨ c = '-') : kindOf c = 5 := by
  rcases h with hdigit | rfl
  · have hne : ∀ d : Char, d.isDigit = false → c ≠ d := by
      rintro d hd rfl
      rw [hd] at hdigit
      exact Bool.false_ne_true hdigit
    rw [kindOf, if_neg (hne _ (by decide)), if_neg (hne _ (by decide)),
      if_neg (hne _ (by decide)), if_neg (hne _ (by decide)), if_neg (hne _ (by decide)),
      if_neg (hne _ (by decide)), if_neg (hne _ (by decide))]
  · decide

theorem intText_head (n : Int) : ∃ c cs, intText n = c :: cs ∧ (c.isDigit = true ∨ c = '-') := by
  cases h : intText n with
  | nil =>
      unfold intText at h
      split at h
      · cases h
      · exact absurd h Nat.toDigits_ne_nil
  | cons c cs => exact ⟨c, cs, rfl, intText_digits n c (by rw [h]; exact List.mem_cons_self)⟩

theorem floatText_head {repr : String} (h : floatText repr = true) :
    ∃ c cs, repr.toList = c :: cs ∧ (c.isDigit = true ∨ c = '-') := by
  simp only [floatText, Bool.and_eq_true] at h
  cases htext : repr.toList with
  | nil =>
      rw [htext] at h
      exact absurd h.1.1 (by decide)
  | cons c cs =>
      rw [htext] at h
      refine ⟨c, cs, rfl, ?_⟩
      simpa using h.1.1

theorem write_head {v : Json} (h : isProper v = true) :
    ∃ c cs, write v = c :: cs ∧ kindOf c = kind v := by
  cases v with
  | null => exact ⟨'n', _, by rw [write], by decide⟩
  | bool b =>
      cases b with
      | true => exact ⟨'t', _, by rw [write], by decide⟩
      | false => exact ⟨'f', _, by rw [write], by decide⟩
  | int value =>
      obtain ⟨c, cs, htext, hc⟩ := intText_head value
      exact ⟨c, cs, by rw [write, htext], kindOf_number hc⟩
  | float repr =>
      rw [isProper] at h
      obtain ⟨c, cs, htext, hc⟩ := floatText_head h
      exact ⟨c, cs, by rw [write, htext], kindOf_number hc⟩
  | str value => exact ⟨'"', _, by rw [write, quote], rfl⟩
  | list items => exact ⟨'[', _, by rw [write], rfl⟩
  | dict items => exact ⟨'\x7b', _, by rw [write], rfl⟩

theorem kind_eq {v w : Json} (hv : isProper v = true) (hw : isProper w = true)
    {r r' : List Char} (h : write v ++ r = write w ++ r') : kind v = kind w := by
  obtain ⟨c, cs, htext, hc⟩ := write_head hv
  obtain ⟨d, ds, htext', hd⟩ := write_head hw
  rw [htext, htext', List.cons_append, List.cons_append, List.cons.injEq] at h
  rw [← hc, ← hd, h.1]

theorem write_ne_bracket {v : Json} (hv : isProper v = true) (r r' : List Char) :
    write v ++ r ≠ ']' :: r' := by
  intro h
  obtain ⟨c, cs, htext, hc⟩ := write_head hv
  rw [htext, List.cons_append, List.cons.injEq] at h
  have hlt := kind_lt v
  rw [← hc, h.1] at hlt
  exact absurd hlt (by decide)

theorem ends_writeMore (items : List Json) (r : List Char) :
    Ends inNumber (writeMore items ++ r) := by
  cases items with
  | nil => exact ends_cons (by decide) r
  | cons item items =>
      rw [writeMore]
      exact ends_cons (by decide) _

theorem ends_writeMoreItems (items : List (String × Json)) (r : List Char) :
    Ends inNumber (writeMoreItems items ++ r) := by
  cases items with
  | nil => exact ends_cons (by decide) r
  | cons item items =>
      rw [writeMoreItems]
      exact ends_cons (by decide) _

theorem read_number {v w : Json} {a b : Int ⊕ String} (ha : NumberProper a) (hb : NumberProper b)
    (hv : write v = numberText a) (hw : write w = numberText b) {r r' : List Char}
    (hr : Ends inNumber r) (hr' : Ends inNumber r') (h : write v ++ r = write w ++ r') :
    a = b ∧ r = r' :=
  reads_number ha b r r' hb hr hr' (by rw [← hv, ← hw, h])

mutual

theorem read (v : Json) (hv : isProper v = true) :
    Reads write (fun w => isProper w = true) (Ends inNumber) v := by
  intro w r r' hw hr hr' h
  have hkind := kind_eq hv hw h
  cases v with
  | null =>
      cases w <;> cases hkind
      exact ⟨rfl, List.append_cancel_left h⟩
  | bool value =>
      cases w <;> cases hkind
      rename_i value'
      cases value <;> cases value' <;> simp [write] at h ⊢
      · exact h
      · exact h
  | int value =>
      cases w <;> cases hkind
      · rename_i value'
        obtain ⟨heq, hrest⟩ := read_number (a := .inl value) (b := .inl value') trivial trivial
          (by rw [write]; rfl) (by rw [write]; rfl) hr hr' h
        exact ⟨by rw [Sum.inl.inj heq], hrest⟩
      · rename_i repr
        rw [isProper] at hw
        obtain ⟨heq, -⟩ := read_number (a := .inl value) (b := .inr repr) trivial hw
          (by rw [write]; rfl) (by rw [write]; rfl) hr hr' h
        cases heq
  | float repr =>
      rw [isProper] at hv
      cases w <;> cases hkind
      · rename_i value
        obtain ⟨heq, -⟩ := read_number (a := .inr repr) (b := .inl value) hv trivial
          (by rw [write]; rfl) (by rw [write]; rfl) hr hr' h
        cases heq
      · rename_i repr'
        rw [isProper] at hw
        obtain ⟨heq, hrest⟩ := read_number (a := .inr repr) (b := .inr repr') hv hw
          (by rw [write]; rfl) (by rw [write]; rfl) hr hr' h
        exact ⟨by rw [Sum.inr.inj heq], hrest⟩
  | str value =>
      cases w <;> cases hkind
      rw [write, write] at h
      obtain ⟨rfl, hrest⟩ := quote_reads h
      exact ⟨rfl, hrest⟩
  | list items =>
      cases w <;> cases hkind
      rename_i items'
      rw [isProper] at hv hw
      rw [write, write, List.cons_append, List.cons_append, List.cons.injEq] at h
      obtain ⟨rfl, hrest⟩ := readList items hv items' r r' hw trivial trivial h.2
      exact ⟨rfl, hrest⟩
  | dict items =>
      cases w <;> cases hkind
      rename_i items'
      rw [isProper] at hv hw
      rw [write, write, List.cons_append, List.cons_append, List.cons.injEq] at h
      obtain ⟨rfl, hrest⟩ := readItems items hv items' r r' hw trivial trivial h.2
      exact ⟨rfl, hrest⟩

theorem readList (items : List Json) (hv : isProperList items = true) :
    Reads writeList (fun w => isProperList w = true) anything items := by
  intro items' r r' hw _ _ h
  cases items with
  | nil =>
      cases items' with
      | nil => exact ⟨rfl, List.append_cancel_left h⟩
      | cons item' items' =>
          rw [isProperList, Bool.and_eq_true] at hw
          rw [writeList, writeList, List.append_assoc] at h
          exact absurd h.symm (write_ne_bracket hw.1 _ _)
  | cons item items =>
      rw [isProperList, Bool.and_eq_true] at hv
      cases items' with
      | nil =>
          rw [writeList, writeList, List.append_assoc] at h
          exact absurd h (write_ne_bracket hv.1 _ _)
      | cons item' items' =>
          rw [isProperList, Bool.and_eq_true] at hw
          rw [writeList, writeList, List.append_assoc, List.append_assoc] at h
          obtain ⟨rfl, hmore⟩ := read item hv.1 item' _ _ hw.1 (ends_writeMore items r)
            (ends_writeMore items' r') h
          obtain ⟨rfl, hrest⟩ := readMore items hv.2 items' r r' hw.2 trivial trivial hmore
          exact ⟨rfl, hrest⟩

theorem readMore (items : List Json) (hv : isProperList items = true) :
    Reads writeMore (fun w => isProperList w = true) anything items := by
  intro items' r r' hw _ _ h
  cases items with
  | nil =>
      cases items' with
      | nil => exact ⟨rfl, List.append_cancel_left h⟩
      | cons item' items' => exact absurd (List.head_eq_of_cons_eq h) (by decide)
  | cons item items =>
      rw [isProperList, Bool.and_eq_true] at hv
      cases items' with
      | nil => exact absurd (List.head_eq_of_cons_eq h) (by decide)
      | cons item' items' =>
          rw [isProperList, Bool.and_eq_true] at hw
          rw [writeMore, writeMore, List.cons_append, List.cons_append, List.cons.injEq,
            List.append_assoc, List.append_assoc] at h
          obtain ⟨rfl, hmore⟩ := read item hv.1 item' _ _ hw.1 (ends_writeMore items r)
            (ends_writeMore items' r') h.2
          obtain ⟨rfl, hrest⟩ := readMore items hv.2 items' r r' hw.2 trivial trivial hmore
          exact ⟨rfl, hrest⟩

theorem readItems (items : List (String × Json)) (hv : isProperItems items = true) :
    Reads writeItems (fun w => isProperItems w = true) anything items := by
  intro items' r r' hw _ _ h
  match items, items' with
  | [], [] => exact ⟨rfl, List.append_cancel_left h⟩
  | [], (key', item') :: items' => exact absurd (List.head_eq_of_cons_eq h) (by decide)
  | (key, item) :: items, [] => exact absurd (List.head_eq_of_cons_eq h) (by decide)
  | (key, item) :: items, (key', item') :: items' =>
      rw [isProperItems, Bool.and_eq_true] at hv hw
      rw [writeItems, writeItems, List.append_assoc, List.append_assoc] at h
      obtain ⟨rfl, hvalue⟩ := quote_reads h
      rw [List.cons_append, List.cons_append, List.cons.injEq, List.append_assoc,
        List.append_assoc] at hvalue
      obtain ⟨rfl, hmore⟩ := read item hv.1 item' _ _ hw.1 (ends_writeMoreItems items r)
        (ends_writeMoreItems items' r') hvalue.2
      obtain ⟨rfl, hrest⟩ := readMoreItems items hv.2 items' r r' hw.2 trivial trivial hmore
      exact ⟨rfl, hrest⟩

theorem readMoreItems (items : List (String × Json)) (hv : isProperItems items = true) :
    Reads writeMoreItems (fun w => isProperItems w = true) anything items := by
  intro items' r r' hw _ _ h
  match items, items' with
  | [], [] => exact ⟨rfl, List.append_cancel_left h⟩
  | [], (key', item') :: items' => exact absurd (List.head_eq_of_cons_eq h) (by decide)
  | (key, item) :: items, [] => exact absurd (List.head_eq_of_cons_eq h) (by decide)
  | (key, item) :: items, (key', item') :: items' =>
      rw [isProperItems, Bool.and_eq_true] at hv hw
      rw [writeMoreItems, writeMoreItems, List.cons_append, List.cons_append, List.cons.injEq,
        List.append_assoc, List.append_assoc] at h
      obtain ⟨rfl, hvalue⟩ := quote_reads h.2
      rw [List.cons_append, List.cons_append, List.cons.injEq, List.append_assoc,
        List.append_assoc] at hvalue
      obtain ⟨rfl, hmore⟩ := read item hv.1 item' _ _ hw.1 (ends_writeMoreItems items r)
        (ends_writeMoreItems items' r') hvalue.2
      obtain ⟨rfl, hrest⟩ := readMoreItems items hv.2 items' r r' hw.2 trivial trivial hmore
      exact ⟨rfl, hrest⟩

end

/-! ### Sorted entries

With `sort_keys` the order of entries is lost, and it is all that is lost.
-/

theorem isProperItems_perm {items items' : List (String × Json)} (h : items.Perm items') :
    isProperItems items = isProperItems items' := by
  induction h with
  | nil => rfl
  | cons entry _ ih => rw [isProperItems, isProperItems, ih]
  | swap e e' items =>
      rw [isProperItems, isProperItems, isProperItems, isProperItems, Bool.and_left_comm]
  | trans _ _ ih ih' => rw [ih, ih']

mutual

theorem isProper_sorted (v : Json) (h : isProper v = true) : isProper v.sorted = true := by
  cases v with
  | list items =>
      rw [isProper] at h
      rw [sorted, isProper]
      exact isProperList_sorted items h
  | dict items =>
      rw [isProper] at h
      rw [sorted, isProper, isProperItems_perm (List.mergeSort_perm _ _)]
      exact isProperItems_sorted items h
  | _ => exact h

theorem isProperList_sorted (items : List Json) (h : isProperList items = true) :
    isProperList (sortedList items) = true := by
  cases items with
  | nil => rfl
  | cons item items =>
      rw [isProperList, Bool.and_eq_true] at h
      rw [sortedList, isProperList, isProper_sorted item h.1, isProperList_sorted items h.2,
        Bool.and_true]

theorem isProperItems_sorted (items : List (String × Json)) (h : isProperItems items = true) :
    isProperItems (sortedItems items) = true := by
  cases items with
  | nil => rfl
  | cons entry items =>
      rw [isProperItems, Bool.and_eq_true] at h
      rw [sortedItems, isProperItems, isProper_sorted entry.2 h.1,
        isProperItems_sorted items h.2, Bool.and_true]

end

theorem dumps_injective {v w : Json} (hv : isProper v = true) (hw : isProper w = true)
    (h : dumps v = dumps w) : v.sorted = w.sorted :=
  (read v.sorted (isProper_sorted v hv)).eq (ends_nil inNumber) (isProper_sorted w hw)
    (String.ofList_injective h)

end DjangoFoundation.Json
