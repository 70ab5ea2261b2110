/-
What is written for an IP address is read as that address.

An IPv6 text is put together in three steps, and each is undone by one of the reader's: the
hextets' digits, the run of zeros for which `::` stands, and the scope id.  Of the search for the
longest run only this matters here: that it comes to a run of zeros.

Two ways of writing are told apart by `mixed`, whether an address that has an IPv4 address in
it is written with that in its own notation.  The reader takes either.
-/
import Mathlib.Data.List.TakeWhile
import DjangoFoundation.Lib.IpAddress

namespace Ip

/-- What is in joined parts is in a part, or the separator. -/
theorem mem_of_mem_intercalate {α : Type*} {x c : α} {parts : List (List α)}
    (h : c ∈ [x].intercalate parts) : c = x ∨ ∃ part ∈ parts, c ∈ part := by
  induction parts with
  | nil => simp at h
  | cons part parts ih =>
      cases parts with
      | nil => exact Or.inr ⟨part, List.mem_cons_self, by simpa using h⟩
      | cons next parts =>
          rw [List.intercalate_cons_cons, List.append_assoc, List.mem_append, List.mem_append] at h
          rcases h with hpart | hsep | hrest
          · exact Or.inr ⟨part, List.mem_cons_self, hpart⟩
          · exact Or.inl (List.mem_singleton.mp hsep)
          · rcases ih hrest with hsep | ⟨other, hother, hc⟩
            · exact Or.inl hsep
            · exact Or.inr ⟨other, List.mem_cons_of_mem part hother, hc⟩

/-! ### IPv4

Four numbers with points between them.  No digit is a point, so the text is split where it was
joined.
-/

theorem parseOctet_octetText : ∀ n, parseOctet (octetText n) = some n := by decide +kernel

theorem isDigit_octetText (n : Fin 256) : ∀ c ∈ octetText n, c.isDigit = true := fun _ hc =>
  Nat.isDigit_of_mem_toDigits (by decide) (by decide) hc

theorem not_mem_octetText {c : Char} (hc : c.isDigit = false) (n : Fin 256) : c ∉ octetText n := by
  intro hmem
  rw [isDigit_octetText n c hmem] at hc
  cases hc

theorem splitOn_text (v : V4) : v.text.splitOn '.' =
    [octetText v.a, octetText v.b, octetText v.c, octetText v.d] := by
  refine List.splitOn_intercalate '.' ?_ (List.cons_ne_nil _ _)
  simp [not_mem_octetText (c := '.') (by decide)]

theorem parseV4_text (v : V4) : parseV4 v.text = some v := by
  rw [parseV4, splitOn_text]
  simp [parseOctet_octetText]

theorem isDigit_of_parseOctet {s : List Char} {n : Fin 256} (h : parseOctet s = some n) :
    ∀ c ∈ s, c.isDigit = true := by
  unfold parseOctet at h
  split at h
  · rename_i hs
    exact List.all_eq_true.mp hs.2.1
  · cases h

theorem mem_of_parseV4 {s : List Char} {v : V4} (h : parseV4 s = some v) :
    ∀ c ∈ s, c.isDigit = true ∨ c = '.' := by
  unfold parseV4 at h
  split at h
  · rename_i a b c d hsplit
    simp only [Option.bind_eq_bind, Option.bind_eq_some_iff] at h
    obtain ⟨na, ha, nb, hb, nc, hc, nd, hd, -⟩ := h
    intro e he
    have hjoin : ['.'].intercalate (s.splitOn '.') = s := List.intercalate_splitOn '.'
    rw [← hjoin, hsplit] at he
    rcases mem_of_mem_intercalate he with hsep | ⟨part, hpart, hmem⟩
    · exact Or.inr hsep
    · refine Or.inl ?_
      simp only [List.mem_cons, List.not_mem_nil, or_false] at hpart
      rcases hpart with rfl | rfl | rfl | rfl
      · exact isDigit_of_parseOctet ha e hmem
      · exact isDigit_of_parseOctet hb e hmem
      · exact isDigit_of_parseOctet hc e hmem
      · exact isDigit_of_parseOctet hd e hmem
  · cases h

/-- A colon is in no IPv4 text. -/
theorem parseV4_of_colon {s : List Char} (h : ':' ∈ s) : parseV4 s = none := by
  cases hv : parseV4 s with
  | none => rfl
  | some v =>
      rcases mem_of_parseV4 hv ':' h with hdigit | heq
      · exact absurd hdigit (by decide)
      · exact absurd heq (by decide)

/-! ### Hextets

A hextet is written without leading zeros, so it has at most four digits and is read back by
its value.
-/

theorem hexDigit_digitChar : ∀ n < 16, hexDigit n.digitChar = some n := by decide

theorem hexValue_toDigits (n : Nat) : hexValue (Nat.toDigits 16 n) = some n := by
  induction n using Nat.strong_induction_on with
  | _ n ih =>
      by_cases hn : n < 16
      · rw [Nat.toDigits_of_lt_base hn, hexValue]
        simp [hexDigit_digitChar n hn]
      · have hhigh := ih (n / 16) (by omega)
        have hlow := hexDigit_digitChar (n % 16) (Nat.mod_lt n (by decide))
        rw [Nat.toDigits_of_base_le (by decide) (by omega), hexValue, List.foldlM_append]
        rw [hexValue] at hhigh
        rw [hhigh]
        simp [hlow]
        omega

theorem hextetText_ne_nil (n : Hextet) : hextetText n ≠ [] := Nat.toDigits_ne_nil

theorem parseHextet_hextetText (n : Hextet) : parseHextet (hextetText n) = some n := by
  have hlength : (hextetText n).length ≤ 4 :=
    (Nat.length_toDigits_le_iff (by decide) (by decide)).mpr n.isLt
  rw [parseHextet, if_pos ⟨hextetText_ne_nil n, hlength⟩, hextetText, hexValue_toDigits,
    Option.map_some]
  exact congrArg some (Fin.ofNat_val_eq_self n)

theorem mapM_parseHextet (hextets : List Hextet) :
    (hextets.map hextetText).mapM parseHextet = some hextets := by
  induction hextets with
  | nil => rfl
  | cons n hextets ih => rw [List.map_cons, List.mapM_cons, parseHextet_hextetText, ih]; rfl

theorem mem_toDigits {base n : Nat} (hbase : 1 < base) :
    ∀ c ∈ Nat.toDigits base n, ∃ digit < base, c = digit.digitChar := by
  induction n using Nat.strong_induction_on with
  | _ n ih =>
      intro c hc
      by_cases hn : n < base
      · rw [Nat.toDigits_of_lt_base hn, List.mem_singleton] at hc
        exact ⟨n, hn, hc⟩
      · rw [Nat.toDigits_of_base_le hbase (by omega), List.mem_append] at hc
        rcases hc with hc | hc
        · exact ih (n / base) (Nat.div_lt_self (by omega) hbase) c hc
        · exact ⟨n % base, Nat.mod_lt n (by omega), List.mem_singleton.mp hc⟩

/-- Only the sixteen digits stand in a hextet. -/
theorem not_mem_hextetText {c : Char} (hc : ∀ digit < 16, digit.digitChar ≠ c) (n : Hextet) :
    c ∉ hextetText n := by
  intro hmem
  obtain ⟨digit, hlt, rfl⟩ := mem_toDigits (by decide) c hmem
  exact hc digit hlt rfl

theorem eq_zero_of_hextetText {n : Hextet} (h : hextetText n = ['0']) : n = 0 := by
  have hparse := parseHextet_hextetText n
  rw [h, show parseHextet ['0'] = some 0 by decide] at hparse
  exact (Option.some.inj hparse).symm

/-! ### The run of zeros

`bestRun` goes through the hextets with the run it is in and the best one so far.  What it
returns is a run of zeros whichever of them it prefers.
-/

/-- Zeros all the way. -/
def IsRun (hextets : List (List Char)) (start length : Nat) : Prop :=
  start + length ≤ hextets.length ∧
    ∀ i, start ≤ i → i < start + length → hextets[i]? = some ['0']

theorem isRun_empty (hextets : List (List Char)) : IsRun hextets 0 0 :=
  ⟨Nat.zero_le _, fun i _ hi => absurd hi (Nat.not_lt_zero i)⟩

/-- One more zero makes a run longer, or starts one. -/
theorem IsRun.next {before after : List (List Char)} {start length : Nat}
    (hrun : IsRun (before ++ ['0'] :: after) start length)
    (hend : length = 0 ∨ start + length = before.length) :
    IsRun (before ++ ['0'] :: after) (if length = 0 then before.length else start) (length + 1) := by
  have hlast : (before ++ ['0'] :: after)[before.length]? = some ['0'] := by simp
  constructor
  · rw [List.length_append, List.length_cons]
    split_ifs <;> omega
  · intro i hstart hi
    by_cases hlength : length = 0
    · rw [if_pos hlength] at hstart hi
      rw [show i = before.length by omega]
      exact hlast
    · rw [if_neg hlength] at hstart hi
      by_cases hlt : i < start + length
      · exact hrun.2 i hstart hlt
      · rw [show i = before.length by omega]
        exact hlast

theorem bestRun_spec (hextets : List (List Char)) :
    ∀ (before : List (List Char)) {start length bestStart bestLength : Nat},
      IsRun (before ++ hextets) start length → (length = 0 ∨ start + length = before.length) →
      IsRun (before ++ hextets) bestStart bestLength →
      ∃ s n, bestRun before.length start length bestStart bestLength hextets = (s, n) ∧
        IsRun (before ++ hextets) s n := by
  induction hextets with
  | nil =>
      intro before start length bestStart bestLength _ _ hbest
      exact ⟨bestStart, bestLength, rfl, hbest⟩
  | cons hextet hextets ih =>
      intro before start length bestStart bestLength hrun hend hbest
      have happend : before ++ hextet :: hextets = (before ++ [hextet]) ++ hextets := by simp
      have hlength : before.length + 1 = (before ++ [hextet]).length := by simp
      rw [bestRun]
      by_cases hzero : hextet = ['0']
      · subst hzero
        have hnext := hrun.next hend
        have hend' : length + 1 = 0 ∨ (if length = 0 then before.length else start) + (length + 1) =
            (before ++ [['0']]).length := by
          rw [← hlength]
          split_ifs <;> omega
        rw [if_pos rfl, hlength]
        rw [happend] at hnext hbest ⊢
        simp only
        split
        · exact ih _ hnext hend' hnext
        · exact ih _ hnext hend' hbest
      · rw [if_neg hzero, hlength]
        rw [happend] at hbest ⊢
        exact ih _ (isRun_empty _) (Or.inl rfl) hbest

/-- What `_compress_hextets` comes to: the hextets, or those around a run of zeros. -/
theorem compressHextets_cases (hextets : List Hextet) :
    compressHextets (hextets.map hextetText) = hextets.map hextetText ∨
      ∃ high low n, 1 < n ∧ hextets = high ++ List.replicate n 0 ++ low ∧
        compressHextets (hextets.map hextetText) =
          orEmpty (high.map hextetText) ++ [] :: orEmpty (low.map hextetText) := by
  obtain ⟨start, length, hbest, hrun⟩ := bestRun_spec (hextets.map hextetText) []
    (isRun_empty _) (Or.inl rfl) (isRun_empty _)
  rw [List.nil_append] at hrun
  rw [List.length_nil] at hbest
  rw [compressHextets, hbest]
  by_cases hlength : length > 1
  · refine Or.inr ⟨hextets.take start, hextets.drop (start + length), length, hlength, ?_, ?_⟩
    · have hle : start + length ≤ hextets.length := by simpa using hrun.1
      have hmiddle : (hextets.drop start).take length = List.replicate length 0 := by
        rw [List.eq_replicate_iff]
        refine ⟨by rw [List.length_take, List.length_drop]; omega, fun n hn => ?_⟩
        obtain ⟨i, hi⟩ := List.mem_iff_getElem?.mp hn
        have hlt : i < length := by
          by_contra hge
          rw [List.getElem?_take_eq_none (by omega)] at hi
          cases hi
        rw [List.getElem?_take_of_lt hlt, List.getElem?_drop] at hi
        have hzero := hrun.2 (start + i) (by omega) (by omega)
        rw [List.getElem?_map, hi, Option.map_some, Option.some.injEq] at hzero
        exact eq_zero_of_hextetText hzero
      rw [← hmiddle, List.append_assoc, ← List.drop_drop, List.take_append_drop,
        List.take_append_drop]
    · simp only [if_pos hlength, List.map_take, List.map_drop]
  · left
    simp only [if_neg hlength]

/-! ### The parts of a text

Split at its colons, a text with `::` has one empty part for the run, and a second at an end
that the run touches.  The reader puts as many zeros there as are missing from eight.
-/

theorem orEmpty_ne_nil (parts : List (List Char)) : orEmpty parts ≠ [] := by
  unfold orEmpty
  split
  · exact List.cons_ne_nil _ _
  · assumption

theorem mem_orEmpty {parts : List (List Char)} {part : List Char} (h : part ∈ orEmpty parts) :
    part = [] ∨ part ∈ parts := by
  unfold orEmpty at h
  split at h
  · exact Or.inl (List.mem_singleton.mp h)
  · exact Or.inr h

theorem length_orEmpty (parts : List (List Char)) : (orEmpty parts).length = max 1 parts.length := by
  unfold orEmpty
  split
  · rename_i h
    rw [h]
    rfl
  · rename_i h
    have := List.length_pos_iff.mpr h
    omega

theorem side_orEmpty (hextets : List Hextet) :
    side (orEmpty (hextets.map hextetText)) = some hextets := by
  cases hextets with
  | nil => rfl
  | cons n hextets =>
      have hne : (n :: hextets).map hextetText ≠ [[]] := by
        rw [List.map_cons]
        intro h
        exact hextetText_ne_nil n (List.head_eq_of_cons_eq h)
      rw [orEmpty, if_neg (by simp), side, if_neg hne, mapM_parseHextet]

/-- An end of the text that `::` covers is its only part. -/
theorem not_mem_orEmpty_tail (hextets : List Hextet) :
    [] ∉ (orEmpty (hextets.map hextetText)).tail := by
  cases hextets with
  | nil => simp [orEmpty]
  | cons n hextets =>
      simp only [orEmpty, List.map_cons, reduceCtorEq, if_false, List.tail_cons, List.mem_map]
      rintro ⟨m, -, hm⟩
      exact hextetText_ne_nil m hm

theorem not_mem_orEmpty_dropLast (hextets : List Hextet) :
    [] ∉ (orEmpty (hextets.map hextetText)).dropLast := by
  unfold orEmpty
  split
  · simp
  · intro hmem
    obtain ⟨m, -, hm⟩ := List.mem_map.mp (List.dropLast_subset _ hmem)
    exact hextetText_ne_nil m hm

theorem joinParts_map {hextets : List Hextet} (h : hextets.length = 8) :
    joinParts (hextets.map hextetText) = some ⟨hextets, h⟩ := by
  have hcount : (((hextets.map hextetText).drop 1).dropLast).count [] = 0 := by
    rw [List.count_eq_zero]
    intro hmem
    obtain ⟨m, -, hm⟩ := List.mem_map.mp (List.mem_of_mem_drop (List.dropLast_subset _ hmem))
    exact hextetText_ne_nil m hm
  rw [joinParts]
  simp only [hcount, if_true, mapM_parseHextet]
  simp [h]

theorem joinParts_skip {high low : List Hextet} (h : high.length + low.length < 8) :
    (joinParts (orEmpty (high.map hextetText) ++ [] :: orEmpty (low.map hextetText))).map
        Subtype.val =
      some (high ++ List.replicate (8 - (high.length + low.length)) 0 ++ low) := by
  have hhigh := orEmpty_ne_nil (high.map hextetText)
  have hlow := orEmpty_ne_nil (low.map hextetText)
  have htail := not_mem_orEmpty_tail high
  have hlast := not_mem_orEmpty_dropLast low
  have hsideHigh := side_orEmpty high
  have hsideLow := side_orEmpty low
  revert hhigh hlow htail hlast hsideHigh hsideLow
  generalize orEmpty (high.map hextetText) = front
  generalize orEmpty (low.map hextetText) = back
  intro hfront hback htail hlast hsideHigh hsideLow
  have hmiddle : ((front ++ [] :: back).drop 1).dropLast = front.tail ++ [] :: back.dropLast := by
    rw [List.drop_one, List.tail_append_of_ne_nil hfront, List.dropLast_append_of_ne_nil
      (List.cons_ne_nil _ _), List.dropLast_cons_of_ne_nil hback]
  have hcount : (front.tail ++ [] :: back.dropLast).count [] = 1 := by
    rw [List.count_append, List.count_cons_self, List.count_eq_zero.mpr htail,
      List.count_eq_zero.mpr hlast]
  have hindex : (front.tail ++ [] :: back.dropLast).idxOf [] + 1 = front.length := by
    rw [List.idxOf_append_of_notMem htail, List.idxOf_cons_self, List.length_tail]
    have := List.length_pos_iff.mpr hfront
    omega
  have htake : (front ++ [] :: back).take front.length = front := List.take_left' rfl
  have hdrop : (front ++ [] :: back).drop (front.length + 1) = back := by
    rw [← List.drop_drop, List.drop_left' rfl]
    rfl
  rw [joinParts]
  simp only [hmiddle, hcount, hindex, htake, hdrop, hsideHigh, hsideLow]
  simp [h]

/-- The parts there are: of hextets, or empty beside a `::`. -/
theorem mem_compressHextets {hextets : List Hextet} {part : List Char}
    (h : part ∈ compressHextets (hextets.map hextetText)) :
    part = [] ∨ ∃ n ∈ hextets, part = hextetText n := by
  have hmap : ∀ {ns : List Hextet}, part ∈ ns.map hextetText → ∃ n ∈ ns, part = hextetText n := by
    intro ns hpart
    obtain ⟨n, hn, heq⟩ := List.mem_map.mp hpart
    exact ⟨n, hn, heq.symm⟩
  rcases compressHextets_cases hextets with hall | ⟨high, low, n, -, rfl, hskip⟩
  · rw [hall] at h
    exact Or.inr (hmap h)
  · rw [hskip, List.mem_append, List.mem_cons] at h
    rcases h with hhigh | hempty | hlow
    · refine (mem_orEmpty hhigh).imp_right fun hpart => ?_
      obtain ⟨m, hm, heq⟩ := hmap hpart
      exact ⟨m, List.mem_append_left _ (List.mem_append_left _ hm), heq⟩
    · exact Or.inl hempty
    · refine (mem_orEmpty hlow).imp_right fun hpart => ?_
      obtain ⟨m, hm, heq⟩ := hmap hpart
      exact ⟨m, List.mem_append_right _ hm, heq⟩

theorem not_mem_part {c : Char} (hc : ∀ digit < 16, digit.digitChar ≠ c) {hextets : List Hextet} :
    ∀ part ∈ compressHextets (hextets.map hextetText), c ∉ part := by
  intro part hpart
  rcases mem_compressHextets hpart with rfl | ⟨n, -, rfl⟩
  · exact List.not_mem_nil
  · exact not_mem_hextetText hc n

theorem length_compressHextets {hextets : List Hextet} (h : hextets.length = 8) :
    3 ≤ (compressHextets (hextets.map hextetText)).length ∧
      (compressHextets (hextets.map hextetText)).length ≤ 9 := by
  rcases compressHextets_cases hextets with hall | ⟨high, low, n, hn, rfl, hskip⟩
  · rw [hall, List.length_map, h]
    omega
  · rw [List.length_append, List.length_append, List.length_replicate] at h
    rw [hskip, List.length_append, List.length_cons, length_orEmpty, length_orEmpty,
      List.length_map, List.length_map]
    omega

theorem splitOn_hextetsText {hextets : List Hextet} (h : hextets.length = 8) :
    (hextetsText hextets).splitOn ':' = compressHextets (hextets.map hextetText) := by
  refine List.splitOn_intercalate ':' (not_mem_part (by decide)) ?_
  intro hnil
  have hlength := (length_compressHextets h).1
  rw [hnil] at hlength
  exact absurd hlength (by decide)

theorem joinParts_compressHextets {hextets : List Hextet} (h : hextets.length = 8) :
    joinParts (compressHextets (hextets.map hextetText)) = some ⟨hextets, h⟩ := by
  rcases compressHextets_cases hextets with hall | ⟨high, low, n, hn, rfl, hskip⟩
  · rw [hall, joinParts_map h]
  · rw [List.length_append, List.length_append, List.length_replicate] at h
    have hjoin := joinParts_skip (show high.length + low.length < 8 by omega)
    rw [show 8 - (high.length + low.length) = n by omega, Option.map_eq_some_iff] at hjoin
    obtain ⟨⟨hextets, hlength⟩, hparts, rfl⟩ := hjoin
    rw [hskip, hparts]

theorem parseHextets_hextetsText {hextets : List Hextet} (h : hextets.length = 8) :
    parseHextets (hextetsText hextets) = some ⟨hextets, h⟩ := by
  obtain ⟨hthree, hnine⟩ := length_compressHextets h
  have hsuffix : '.' ∉ (compressHextets (hextets.map hextetText)).getLastD [] := by
    rw [List.getLastD_eq_getLast?]
    cases hlast : (compressHextets (hextets.map hextetText)).getLast? with
    | none => exact List.not_mem_nil
    | some part => exact not_mem_part (by decide) part (List.mem_of_getLast? hlast)
  rw [parseHextets, splitOn_hextetsText h]
  simp only [if_neg (Nat.not_lt.mpr hthree), expandSuffix, if_neg hsuffix, Option.bind_eq_bind,
    Option.bind_some, if_neg (Nat.not_lt.mpr hnine), joinParts_compressHextets h]

/-! ### IPv4-mapped addresses

An address in `::ffff:0:0/96` may be written with its last two hextets as an IPv4 address, and
these are read from it.
-/

theorem pair_split (x : Hextet) : pair (Fin.ofNat 256 (x / 256)) (Fin.ofNat 256 x) = x := by
  have hx := x.isLt
  refine Fin.ext ?_
  simp only [pair, Fin.ofNat]
  omega

theorem mapped_eq_some {v : V6} {v4 : V4} (h : v.mapped = some v4) :
    v.hextets = [0, 0, 0, 0, 0, 65535, pair v4.a v4.b, pair v4.c v4.d] := by
  unfold V6.mapped at h
  split at h
  · rename_i x y heq
    cases h
    rw [heq, pair_split, pair_split]
  · cases h

theorem not_mem_text {c : Char} (hc : c.isDigit = false) (hdot : c ≠ '.') (v : V4) :
    c ∉ v.text := by
  intro hmem
  rcases mem_of_parseV4 (parseV4_text v) c hmem with hdigit | heq
  · rw [hdigit] at hc
    cases hc
  · exact hdot heq

theorem dot_mem_text (v : V4) : '.' ∈ v.text := by
  rw [V4.text, List.intercalate_cons_cons]
  simp

/-- The suffix is read back as two hextets, behind five zeros and `ffff`. -/
theorem parseHextets_mixed (v4 : V4) :
    (parseHextets (hextetsText [0, 0, 0, 0, 0, 0, 0, 65535] ++ ':' :: v4.text)).map Subtype.val =
      some [0, 0, 0, 0, 0, 65535, pair v4.a v4.b, pair v4.c v4.d] := by
  have hparts : (hextetsText [0, 0, 0, 0, 0, 0, 0, 65535] ++ ':' :: v4.text).splitOn ':' =
      [[], [], hextetText 65535, v4.text] := by
    rw [List.splitOn_append_cons_self, List.splitOn_eq_singleton
      (not_mem_text (by decide) (by decide) v4),
      splitOn_hextetsText rfl]
    rfl
  have hexpand : expandSuffix [[], [], hextetText 65535, v4.text] =
      some [[], [], hextetText 65535, hextetText (pair v4.a v4.b), hextetText (pair v4.c v4.d)] := by
    have hlast : [[], [], hextetText 65535, v4.text].getLastD [] = v4.text := rfl
    rw [expandSuffix, hlast, if_pos (dot_mem_text v4), parseV4_text]
    rfl
  have hjoin := joinParts_skip
    (show ([] : List Hextet).length + [65535, pair v4.a v4.b, pair v4.c v4.d].length < 8 by simp)
  rw [parseHextets, hparts]
  simp only [List.length_cons, List.length_nil, hexpand, Option.bind_eq_bind, Option.bind_some]
  exact hjoin

theorem parseHextets_body (mixed : Bool) (v : V6) :
    parseHextets (v.body mixed) = some ⟨v.hextets, v.length_eq⟩ := by
  unfold V6.body
  split
  · rename_i v4 hmapped
    cases mixed with
    | true =>
        have hparse := parseHextets_mixed v4
        rw [Option.map_eq_some_iff] at hparse
        obtain ⟨⟨hextets, hlength⟩, hparse, hval⟩ := hparse
        rw [if_pos rfl, hparse]
        simp only [Option.some.injEq, Subtype.mk.injEq]
        rw [mapped_eq_some hmapped]
        exact hval
    | false => exact parseHextets_hextetsText v.length_eq
  · exact parseHextets_hextetsText v.length_eq

/-! ### Addresses

The scope id comes behind the first percent sign, which nothing before it can have.
-/

/-- A character of an address: what is left when `%` and its scope id are taken off. -/
def IsText (c : Char) : Prop := c = ':' ∨ c = '.' ∨ ∃ digit < 16, c = digit.digitChar

theorem isText_hextetsText (hextets : List Hextet) : ∀ c ∈ hextetsText hextets, IsText c := by
  intro c hc
  rcases mem_of_mem_intercalate hc with hcolon | ⟨part, hpart, hmem⟩
  · exact Or.inl hcolon
  · rcases mem_compressHextets hpart with rfl | ⟨n, -, rfl⟩
    · cases hmem
    · exact Or.inr (Or.inr (mem_toDigits (by decide) c hmem))

theorem isText_text (v : V4) : ∀ c ∈ v.text, IsText c := by
  have hoctet (n : Fin 256) : ∀ c ∈ octetText n, ∃ digit < 16, c = digit.digitChar := by
    intro c hc
    obtain ⟨digit, hlt, rfl⟩ := mem_toDigits (by decide) c hc
    exact ⟨digit, by omega, rfl⟩
  intro c hc
  rcases mem_of_mem_intercalate hc with hdot | ⟨part, hpart, hmem⟩
  · exact Or.inr (Or.inl hdot)
  · simp only [List.mem_cons, List.not_mem_nil, or_false] at hpart
    rcases hpart with rfl | rfl | rfl | rfl <;> exact Or.inr (Or.inr (hoctet _ c hmem))

theorem isText_body (mixed : Bool) (v : V6) : ∀ c ∈ v.body mixed, IsText c := by
  unfold V6.body
  split
  · split
    · intro c hc
      rcases List.mem_append.mp hc with hc | hc
      · exact isText_hextetsText _ c hc
      · rcases List.mem_cons.mp hc with hcolon | hc
        · exact Or.inl hcolon
        · exact isText_text _ c hc
    · exact isText_hextetsText _
  · exact isText_hextetsText _

theorem colon_mem_hextetsText {hextets : List Hextet} (h : hextets.length = 8) :
    ':' ∈ hextetsText hextets := by
  have hlength := (length_compressHextets h).1
  unfold hextetsText
  match compressHextets (hextets.map hextetText), hlength with
  | part :: next :: parts, _ =>
      rw [List.intercalate_cons_cons]
      simp

theorem colon_mem_body (mixed : Bool) (v : V6) : ':' ∈ v.body mixed := by
  unfold V6.body
  split
  · split
    · exact List.mem_append_right _ List.mem_cons_self
    · exact colon_mem_hextetsText v.length_eq
  · exact colon_mem_hextetsText v.length_eq

theorem not_isText_percent : ¬IsText '%' := by
  rintro (h | h | ⟨digit, hlt, h⟩)
  · exact absurd h (by decide)
  · exact absurd h (by decide)
  · have hne : ∀ digit < 16, '%' ≠ digit.digitChar := by decide
    exact hne digit hlt h

theorem not_isText_slash : ¬IsText '/' := by
  rintro (h | h | ⟨digit, hlt, h⟩)
  · exact absurd h (by decide)
  · exact absurd h (by decide)
  · have hne : ∀ digit < 16, '/' ≠ digit.digitChar := by decide
    exact hne digit hlt h

theorem splitScopeId_append {body : List Char} (hbody : '%' ∉ body) (scope : List Char)
    (hscope : '%' ∉ scope) :
    splitScopeId (body ++ if scope = [] then [] else '%' :: scope) = some (body, ⟨scope, hscope⟩) := by
  have hne : ∀ c ∈ body, (decide (c ≠ '%')) = true := by
    rintro c hc
    rw [decide_eq_true_eq]
    rintro rfl
    exact hbody hc
  by_cases hnil : scope = []
  · subst hnil
    have hdrop : body.dropWhile (fun c => c ≠ '%') = [] := List.dropWhile_eq_nil_iff.mpr hne
    rw [if_pos rfl, List.append_nil, splitScopeId, hdrop]
  · have hdrop : (body ++ '%' :: scope).dropWhile (fun c => c ≠ '%') = '%' :: scope := by
      rw [List.dropWhile_append_of_pos hne, List.dropWhile_cons_of_neg (by decide)]
    have htake : (body ++ '%' :: scope).takeWhile (fun c => c ≠ '%') = body := by
      rw [List.takeWhile_append_of_pos hne, List.takeWhile_cons_of_neg (by decide),
        List.append_nil]
    rw [if_neg hnil, splitScopeId, hdrop]
    simp only [htake, hnil, ne_eq, not_false_eq_true, hscope, and_self, dite_true]

theorem parseV6_text (mixed : Bool) (v : V6) :
    parseV6 ((Address.v6 v).text mixed) = some v := by
  have hpercent : '%' ∉ v.body mixed := fun h => not_isText_percent (isText_body mixed v _ h)
  have hslash : '/' ∉ v.body mixed := fun h => not_isText_slash (isText_body mixed v _ h)
  rw [Address.text, parseV6, splitScopeId_append hpercent v.scopeId v.scopeId_clean.1]
  simp only [hslash, v.scopeId_clean.2, not_false_eq_true, and_self, dite_true,
    parseHextets_body, Option.map_some]

theorem isText_of_unscoped {mixed : Bool} {address : Address} (h : address.unscoped = true) :
    ∀ c ∈ address.text mixed, IsText c := by
  cases address with
  | v4 v => exact isText_text v
  | v6 v =>
      have hscope : v.scopeId = [] := of_decide_eq_true h
      rw [Address.text, if_pos hscope, List.append_nil]
      exact isText_body mixed v

/-- **What is written is read back**, in either way to write it. -/
theorem ipAddress_text (mixed : Bool) (address : Address) :
    ipAddress (address.text mixed) = some address := by
  cases address with
  | v4 v => rw [Address.text, ipAddress, parseV4_text]
  | v6 v =>
      have hcolon : ':' ∈ (Address.v6 v).text mixed :=
        List.mem_append_left _ (colon_mem_body mixed v)
      rw [ipAddress, parseV4_of_colon hcolon, parseV6_text, Option.map_some]

theorem ipAddress_nil : ipAddress [] = none := by decide

/-- No address is written as nothing. -/
theorem text_ne_nil (mixed : Bool) (address : Address) : address.text mixed ≠ [] := by
  intro hnil
  have hread := ipAddress_text mixed address
  rw [hnil, ipAddress_nil] at hread
  cases hread

theorem text_injective (mixed : Bool) : Function.Injective (Address.text mixed) := by
  intro a b h
  have hread := ipAddress_text mixed a
  rw [h, ipAddress_text mixed b, Option.some.injEq] at hread
  exact hread.symm

end Ip
