import JapaneseProse.Numeral.Conversion
import JapaneseProse.Numeral.Reading
import JapaneseProse.Proofs.Numeral.Writing
import Mathlib.Data.List.TakeWhile
import Mathlib.Data.Nat.Digits.Defs

/-!
# Numerals read back

A numeral with all units is read word by word.  What is written for a number is cut into the words
that were meant (`Spells`), and reading them goes from one `Reading` to another (`Reads`), digit by
digit and group by group.

The unit of a group stands behind its lowest digit and is left out with it if that is zero.  The
group then stays in the part and is counted with the next unit, which is lower
(`Reading.Tracks.afterGroup`).  So a numeral is read as the number it was written for if and only
if all groups above the lowest one keep their units, and as a smaller one otherwise
(`verbose_reads_back`).
-/

namespace JapaneseProse.Numeral

variable {a b group digits s : Text} {c : Char} {i n place : Nat} {ws vs : List Word}
  {r r' r'' : Reading}

/-! ### Words of a text -/

/-- In modern glyphs, the text is cut into these words, whatever comes behind. -/
def Spells (a : Text) (ws : List Word) : Prop :=
  ∀ b, pieces wordAt? (writeSimple .modern a ++ b) = ws.map .taken ++ pieces wordAt? b

/-- The value of a digit. -/
def digitValue (c : Char) : Nat := c.toNat - '0'.toNat

theorem Spells.nil :
  Spells [] []
  := fun _ => rfl

theorem Spells.append (ha : Spells a ws) (hb : Spells b vs) :
  Spells (a ++ b) (ws ++ vs)
  := by
  intro t
  rw [writeSimple, List.map_append, List.append_assoc, ← writeSimple, ← writeSimple, ha, hb,
    List.map_append, List.append_assoc]

theorem spells_digit (hc : c.isDigit = true) :
  Spells [c] [.digit (digitValue c)]
  := by
  have hmem := mem_numberChars_of_isDigit hc
  simp only [numberChars, List.mem_cons, List.not_mem_nil, or_false] at hmem
  rcases hmem with rfl | rfl | rfl | rfl | rfl | rfl | rfl | rfl | rfl | rfl | rfl
  all_goals first | exact fun _ => rfl | cases hc

theorem spells_placeUnit (hlow : 1 ≤ place) (hhigh : place ≤ 3) :
  Spells (placeUnit place) [.place place]
  := by
  interval_cases place <;> exact fun _ => rfl

theorem spells_groupUnit (hlow : 1 ≤ i) (hhigh : i ≤ 16) :
  Spells (groupUnit i) [.group i]
  := by
  interval_cases i <;> exact fun _ => rfl

/-! ### Reading of what is written -/

namespace Reading

@[simp]
theorem add_zero (r : Reading) :
  r.add 0 = r
  := rfl

@[simp]
theorem add_add (r : Reading) (m n : Nat) :
  (r.add m).add n = r.add (m + n)
  := by
  rw [add, add, add, Nat.add_assoc]

end Reading

/-- When the text is read, what has been read before becomes `r'`, whatever comes behind. -/
def Reads (a : Text) (r r' : Reading) : Prop :=
  ∃ ws, Spells a ws ∧ ∀ rest, readWords r (ws ++ rest) = readWords r' rest

theorem Reads.nil (r : Reading) :
  Reads [] r r
  := ⟨[], Spells.nil, fun _ => rfl⟩

theorem Reads.append (ha : Reads a r r') (hb : Reads b r' r'') :
  Reads (a ++ b) r r''
  := by
  obtain ⟨ws, hws, hr⟩ := ha
  obtain ⟨vs, hvs, hr'⟩ := hb
  use ws ++ vs, hws.append hvs
  intro rest
  rw [List.append_assoc, hr, hr']

/-- A digit above the lowest place counts with the unit of its place, also where it is left out. -/
theorem reads_digitWithUnits (hc : c.isDigit = true) (hlow : 1 ≤ place) (hhigh : place ≤ 3) :
  Reads (digitWithUnits i place c) r (r.add (digitValue c * 10 ^ place))
  := by
  have hplace : place ≠ 0 := Nat.ne_of_gt hlow
  have hunit := spells_placeUnit hlow hhigh
  rw [digitWithUnits, if_neg hplace, List.append_nil]
  by_cases hzero : c = '0'
  · rw [if_pos hzero]
    subst hzero
    have hvalue : digitValue '0' * 10 ^ place = 0 := Nat.zero_mul _
    rw [hvalue, Reading.add_zero]
    apply Reads.nil
  · rw [if_neg hzero]
    by_cases hone : c = '1'
    · rw [if_pos ⟨hone, hplace⟩]
      subst hone
      use [.place place], hunit
      intro rest
      change readWords (r.add (10 ^ place)) rest = readWords (r.add (1 * 10 ^ place)) rest
      rw [Nat.one_mul]
    · rw [if_neg (fun h => hone h.1)]
      use [.digit (digitValue c), .place place], (spells_digit hc).append hunit
      exact fun _ => rfl

/-- The value of digits of which the lowest comes first. -/
def valueFromLowest (digits : Text) : Nat := Nat.ofDigitChars 10 digits.reverse 0

theorem valueFromLowest_cons (c : Char) (digits : Text) :
  valueFromLowest (c :: digits) = valueFromLowest digits * 10 + digitValue c
  := by
  rw [valueFromLowest, List.reverse_cons, Nat.ofDigitChars_append, Nat.ofDigitChars_cons,
    Nat.mul_comm]
  rfl

/-- The digits above the lowest place of a group count as much as they are worth. -/
theorem reads_placesWithUnits (hdigits : ∀ c ∈ digits, c.isDigit = true) (hlow : 1 ≤ place)
    (hhigh : place + digits.length ≤ 4) :
  Reads (placesWithUnits i place digits) r (r.add (valueFromLowest digits * 10 ^ place))
  := by
  induction digits generalizing place r with
  | nil =>
      have hvalue : valueFromLowest [] * 10 ^ place = 0 := Nat.zero_mul _
      rw [hvalue, Reading.add_zero]
      apply Reads.nil
  | cons c higher ih =>
      obtain ⟨hc, hhigher⟩ := List.forall_mem_cons.mp hdigits
      rw [List.length_cons] at hhigh
      rw [placesWithUnits, valueFromLowest_cons, Nat.add_mul, Nat.mul_assoc, ← Nat.pow_succ',
        ← Reading.add_add]
      apply Reads.append
      · apply ih hhigher (Nat.le_add_left 1 place) (by omega)
      · apply reads_digitWithUnits hc hlow (by omega)

/-- What has been read after a group of digits, the lowest of them `c`: the group does not become
part of the total if its lowest digit is left out. -/
def Reading.afterGroup (r : Reading) (i : Nat) (c : Char) (value : Nat) : Reading :=
  if c = '0' then r.add value else (r.add value).close i

theorem reads_group (hdigits : ∀ d ∈ c :: digits, d.isDigit = true)
    (hlength : (c :: digits).length ≤ 4) (hlow : 1 ≤ i) (hhigh : i ≤ 16) :
  Reads (placesWithUnits i 0 (c :: digits)) r (r.afterGroup i c (valueFromLowest (c :: digits)))
  := by
  obtain ⟨hc, hhigher⟩ := List.forall_mem_cons.mp hdigits
  rw [List.length_cons] at hlength
  rw [placesWithUnits, valueFromLowest_cons, Reading.afterGroup, ← Reading.add_add]
  apply Reads.append (reads_placesWithUnits hhigher Nat.le.refl (by omega))
  rw [digitWithUnits]
  split
  · subst c
    apply Reads.nil
  · rw [if_neg (fun h => h.2 rfl), if_pos rfl]
    use [.digit (digitValue c), .group i], (spells_digit hc).append (spells_groupUnit hlow hhigh)
    exact fun _ => rfl

/-- Nothing comes behind the lowest group. -/
theorem spells_lowest (hdigits : ∀ d ∈ c :: digits, d.isDigit = true)
    (hlength : (c :: digits).length ≤ 4) (r : Reading) :
  ∃ ws, Spells (placesWithUnits 0 0 (c :: digits)) ws ∧
    readWords r ws = r.add (valueFromLowest (c :: digits))
  := by
  obtain ⟨hc, hhigher⟩ := List.forall_mem_cons.mp hdigits
  rw [List.length_cons] at hlength
  obtain ⟨ws, hws, hread⟩ := reads_placesWithUnits (i := 0) (r := r) hhigher Nat.le.refl (by omega)
  rw [placesWithUnits, valueFromLowest_cons, ← Reading.add_add]
  by_cases hzero : c = '0'
  · subst hzero
    use ws ++ [], hws.append Spells.nil
    apply hread
  · use ws ++ [.digit (digitValue c)]
    rw [digitWithUnits, if_neg hzero, if_neg (fun h => h.2 rfl), if_pos rfl]
    use hws.append (spells_digit hc)
    apply hread

/-! ### Groups of digits -/

/-- One to four digits. -/
structure IsGroup (group : Text) : Prop where
  ne_nil : group ≠ []
  length_le : group.length ≤ 4
  isDigit : ∀ c ∈ group, c.isDigit = true

/-- The group is left out as a whole, or its lowest digit is written, and its unit with it. -/
def KeepsUnit (group : Text) : Prop := (∀ c ∈ group, c = '0') ∨ group.getLast? ≠ some '0'

/-- All groups of four above the lowest one keep their units. -/
def KeepsUnits (digits : Text) : Prop := ∀ group ∈ (groupsOfFour digits).tail, KeepsUnit group

instance (group : Text) : Decidable (KeepsUnit group) :=
  have : Decidable (∀ c ∈ group, c = '0') := List.decidableBAll _ group
  inferInstanceAs (Decidable (_ ∨ _))

instance (digits : Text) : Decidable (KeepsUnits digits) :=
  inferInstanceAs (Decidable (∀ group ∈ _, KeepsUnit group))

/-- What is not cut any further is short. -/
theorem length_le_of_not_cons {α : Type} {l : List α}
    (h : ∀ a b c d rest, l = a :: b :: c :: d :: rest → False) :
  l.length ≤ 4
  := by
  rcases l with _ | ⟨a, _ | ⟨b, _ | ⟨c, _ | ⟨d, rest⟩⟩⟩⟩
  case cons.cons.cons.cons => exact absurd rfl (h a b c d rest)
  all_goals simp

theorem length_of_mem_chunksOfFour {α : Type} {l chunk : List α} (h : chunk ∈ chunksOfFour l) :
  chunk ≠ [] ∧ chunk.length ≤ 4
  := by
  fun_induction chunksOfFour l with
  | case1 a b c d rest ih =>
      rcases List.mem_cons.mp h with rfl | h
      · exact ⟨List.cons_ne_nil _ _, Nat.le.refl⟩
      · apply ih h
  | case2 => exact absurd h List.not_mem_nil
  | case3 short hlong hnil =>
      obtain rfl := List.mem_singleton.mp h
      exact ⟨hnil, length_le_of_not_cons hlong⟩

theorem length_chunksOfFour_le {α : Type} (l : List α) :
  4 * (chunksOfFour l).length ≤ l.length + 3
  := by
  fun_induction chunksOfFour l with
  | case1 a b c d rest ih =>
      simp only [List.length_cons]
      omega
  | case2 => apply Nat.zero_le
  | case3 short hlong hnil =>
      have hpos := List.length_pos_iff.mpr hnil
      rw [List.length_singleton]
      omega

theorem isGroup_of_mem_groupsOfFour (hdigits : ∀ c ∈ digits, c.isDigit = true)
    (h : group ∈ groupsOfFour digits) :
  IsGroup group
  := by
  have hsubset := subset_of_mem_groupsOfFour h
  obtain ⟨chunk, hchunk, rfl⟩ := List.mem_map.mp h
  obtain ⟨hne, hlength⟩ := length_of_mem_chunksOfFour hchunk
  rw [← List.length_reverse] at hlength
  exact ⟨List.reverse_ne_nil_iff.mpr hne, hlength, fun c hc => hdigits c (hsubset hc)⟩

theorem IsGroup.exists_reverse (hgroup : IsGroup group) :
  ∃ c digits, group = (c :: digits).reverse ∧ (∀ d ∈ c :: digits, d.isDigit = true) ∧
    (c :: digits).length ≤ 4
  := by
  obtain ⟨hne, hlength, hdigits⟩ := hgroup
  obtain ⟨c, digits, hreverse⟩ := List.exists_cons_of_ne_nil (List.reverse_ne_nil_iff.mpr hne)
  rw [← List.length_reverse, hreverse] at hlength
  refine ⟨c, digits, ?_, ?_, hlength⟩
  · rw [← hreverse, List.reverse_reverse]
  · intro d hd
    rw [← hreverse, List.mem_reverse] at hd
    exact hdigits d hd

theorem valueFromLowest_eq_ofDigits (digits : Text) :
  valueFromLowest digits = Nat.ofDigits 10000 ((chunksOfFour digits).map valueFromLowest)
  := by
  fun_induction chunksOfFour digits with
  | case1 a b c d rest ih =>
      rw [List.map_cons, Nat.ofDigits_cons, ← ih]
      simp only [valueFromLowest_cons]
      have hnil : valueFromLowest [] = 0 := rfl
      omega
  | case2 => rfl
  | case3 short hlong hnil => rw [List.map_singleton, Nat.ofDigits_singleton]

/-- The value of a number is that of its groups of four as digits for ten thousand. -/
theorem ofDigits_groupsOfFour (digits : Text) :
  Nat.ofDigits 10000 ((groupsOfFour digits).map fun group => Nat.ofDigitChars 10 group 0) =
    Nat.ofDigitChars 10 digits 0
  := by
  have h := valueFromLowest_eq_ofDigits digits.reverse
  rw [valueFromLowest, List.reverse_reverse] at h
  rw [groupsOfFour, List.map_map, h]
  rfl

theorem digitValue_eq_zero_iff (hc : c.isDigit = true) :
  digitValue c = 0 ↔ c = '0'
  := by
  rw [Char.isDigit, Bool.and_eq_true, decide_eq_true_eq] at hc
  have hlow : '0'.toNat ≤ c.toNat := UInt32.le_iff_toNat_le.mp hc.1
  rw [digitValue, Nat.sub_eq_zero_iff_le, ← Char.toNat_inj]
  exact ⟨fun h => Nat.le_antisymm h hlow, Nat.le_of_eq⟩

theorem valueFromLowest_eq_zero_iff (hdigits : ∀ c ∈ digits, c.isDigit = true) :
  valueFromLowest digits = 0 ↔ ∀ c ∈ digits, c = '0'
  := by
  induction digits with
  | nil => exact ⟨fun _ _ hc => absurd hc List.not_mem_nil, fun _ => rfl⟩
  | cons c digits ih =>
      obtain ⟨hc, hdigits⟩ := List.forall_mem_cons.mp hdigits
      rw [valueFromLowest_cons, List.forall_mem_cons, ← ih hdigits, ← digitValue_eq_zero_iff hc]
      omega

/-- A group whose lowest digit is zero keeps its unit only if it is worth nothing. -/
theorem keepsUnit_reverse_iff (hdigits : ∀ d ∈ c :: digits, d.isDigit = true) :
  KeepsUnit (c :: digits).reverse ↔ (c = '0' → valueFromLowest (c :: digits) = 0)
  := by
  rw [KeepsUnit, List.getLast?_reverse, List.head?_cons, valueFromLowest_eq_zero_iff hdigits]
  simp only [List.mem_reverse, ne_eq, Option.some.injEq]
  exact or_comm.trans imp_iff_not_or.symm

/-! ### What is counted -/

/-- The groups from `i` on have been read, which are worth `n` of its unit.  No more than that is
counted, and all of it with nothing left in the part if and only if `kept`. -/
structure Reading.Tracks (r : Reading) (i n : Nat) (kept : Prop) : Prop where
  le : r.total + r.part * 10 ^ (4 * i) ≤ n * 10 ^ (4 * i)
  eq_iff : r.total = n * 10 ^ (4 * i) ∧ r.part = 0 ↔ kept

/-- What stays in the part is counted too low by the next unit. -/
theorem Reading.Tracks.afterGroup {kept : Prop} (h : r.Tracks (i + 1) n kept) (c : Char)
    (value : Nat) :
  (r.afterGroup i c value).Tracks i (value + 10000 * n) ((c = '0' → value = 0) ∧ kept)
  := by
  obtain ⟨hle, heq⟩ := h
  have hunit : ∀ m, m * 10 ^ (4 * (i + 1)) = 10000 * (m * 10 ^ (4 * i)) := by
    intro m
    rw [Nat.mul_succ, Nat.pow_add, Nat.mul_comm 10000, Nat.mul_assoc]
  have hworth : (value + 10000 * n) * 10 ^ (4 * i) =
      value * 10 ^ (4 * i) + 10000 * (n * 10 ^ (4 * i)) := by
    rw [Nat.add_mul, Nat.mul_assoc]
  have hpart : r.part = 0 ↔ r.part * 10 ^ (4 * i) = 0 := by simp
  have hvalue : value = 0 ↔ value * 10 ^ (4 * i) = 0 := by simp
  rw [hunit, hunit] at hle
  rw [hunit, hpart] at heq
  rw [Reading.afterGroup]
  split
  case isTrue hzero =>
    constructor
    · simp only [Reading.add]
      rw [hworth, Nat.add_mul]
      omega
    · simp only [Reading.add, hzero, true_imp_iff]
      rw [hworth, ← heq, Nat.add_eq_zero_iff, hpart, hvalue]
      omega
  case isFalse hzero =>
    constructor
    · simp only [Reading.add, Reading.close]
      rw [hworth, Nat.add_mul]
      omega
    · simp only [Reading.add, Reading.close, hzero, false_imp_iff, true_and, and_true]
      rw [hworth, Nat.add_mul, ← heq]
      omega

/-- Behind the lowest group, the total and the part are counted together. -/
theorem Reading.Tracks.value_add {kept : Prop} (h : r.Tracks 1 n kept) (value : Nat) :
  (r.add value).value ≤ value + 10000 * n ∧ ((r.add value).value = value + 10000 * n ↔ kept)
  := by
  obtain ⟨hle, heq⟩ := h
  rw [← heq]
  simp only [Reading.value, Reading.add]
  omega

/-- All groups above the lowest one are read, the highest first. -/
theorem exists_reads_groups {groups : List Text} (hgroups : ∀ group ∈ groups, IsGroup group)
    (hlow : 1 ≤ i) (hhigh : i + groups.length ≤ 17) :
  ∃ r, Reads (groupsWithAllUnits i groups) .start r ∧
    r.Tracks i (Nat.ofDigits 10000 (groups.map fun group => Nat.ofDigitChars 10 group 0))
      (∀ group ∈ groups, KeepsUnit group)
  := by
  induction groups generalizing i with
  | nil =>
      use .start, Reads.nil _
      exact ⟨Nat.le_of_eq (by simp [Reading.start]), by simp [Reading.start]⟩
  | cons group higher ih =>
      obtain ⟨hgroup, hhigher⟩ := List.forall_mem_cons.mp hgroups
      rw [List.length_cons] at hhigh
      obtain ⟨r, hread, htracks⟩ := ih hhigher (Nat.le_add_left 1 i) (by omega)
      obtain ⟨c, digits, rfl, hdigits, hlength⟩ := hgroup.exists_reverse
      use r.afterGroup i c (valueFromLowest (c :: digits))
      rw [groupsWithAllUnits, List.reverse_reverse]
      use hread.append (reads_group hdigits hlength hlow (by omega))
      rw [List.map_cons, Nat.ofDigits_cons, List.forall_mem_cons, keepsUnit_reverse_iff hdigits]
      apply htracks.afterGroup

/-- The groups of four of a number are read back, with all they are worth if and only if those
above the lowest one keep their units. -/
theorem exists_spells_groups {groups : List Text} (hgroups : ∀ group ∈ groups, IsGroup group)
    (hlength : groups.length ≤ 17) :
  ∃ ws, Spells (groupsWithAllUnits 0 groups) ws ∧
    (readWords .start ws).value ≤
      Nat.ofDigits 10000 (groups.map fun group => Nat.ofDigitChars 10 group 0) ∧
    ((readWords .start ws).value =
      Nat.ofDigits 10000 (groups.map fun group => Nat.ofDigitChars 10 group 0) ↔
        ∀ group ∈ groups.tail, KeepsUnit group)
  := by
  cases groups with
  | nil =>
      use [], Spells.nil
      simp [readWords, Reading.start, Reading.value]
  | cons group higher =>
      obtain ⟨hgroup, hhigher⟩ := List.forall_mem_cons.mp hgroups
      rw [List.length_cons] at hlength
      obtain ⟨r, ⟨vs, hvs, hread⟩, htracks⟩ := exists_reads_groups hhigher Nat.le.refl (by omega)
      obtain ⟨c, digits, rfl, hdigits, hshort⟩ := hgroup.exists_reverse
      obtain ⟨ws, hws, hlowest⟩ := spells_lowest hdigits hshort r
      rw [groupsWithAllUnits, List.reverse_reverse]
      use vs ++ ws, hvs.append hws
      rw [hread, hlowest, List.map_cons, Nat.ofDigits_cons]
      apply htracks.value_add

/-! ### Numerals -/

theorem words?_of_spells (h : Spells a ws) :
  words? (writeSimple .modern a) = some ws
  := by
  have hpieces := h []
  rw [List.append_nil, pieces_nil, List.append_nil] at hpieces
  rw [words?, hpieces, List.mapM_map]
  change ws.mapM (fun w => pure (id w)) = some ws
  rw [List.mapM_pure, List.map_id]
  rfl

theorem writeVerbose_of_forall (g : Glyphs) (hdigits : ∀ c ∈ s, c.isDigit = true) :
  writeVerbose g s = writeSimple g (groupsWithAllUnits 0 (groupsOfFour s))
  := by
  have hinteger := integerPart_append hdigits (r := []) (by simp)
  have hdecimal := decimalPart_append hdigits (r := []) (by simp)
  rw [List.append_nil] at hinteger hdecimal
  rw [writeVerbose, hinteger, hdecimal, List.append_nil]

/-- A number of at most seventeen groups of four is read back from its numeral.  Its value is found
if all its groups above the lowest one keep their units, and less than its value otherwise. -/
theorem verbose_reads_back (config : Config) (hglyphs : config.glyphs? = .ok .modern) (s : Text)
    (hdigits : ∀ c ∈ s, c.isDigit = true) (hlength : s.length ≤ 68) :
  ∃ out n, convertAs .verbose config s = .ok out ∧ read? out = some n ∧
    (n = Nat.ofDigitChars 10 s 0 ↔ KeepsUnits s) ∧
    (¬KeepsUnits s → n < Nat.ofDigitChars 10 s 0)
  := by
  have hgroups : ∀ group ∈ groupsOfFour s, IsGroup group :=
    fun group h => isGroup_of_mem_groupsOfFour hdigits h
  have hcount : (groupsOfFour s).length ≤ 17 := by
    have h := length_chunksOfFour_le s.reverse
    rw [List.length_reverse] at h
    rw [groupsOfFour, List.length_map]
    omega
  obtain ⟨ws, hws, hle, heq⟩ := exists_spells_groups hgroups hcount
  rw [ofDigits_groupsOfFour] at hle heq
  use writeVerbose .modern s, (readWords .start ws).value
  refine ⟨?_, ?_, heq, fun h => ?_⟩
  · rw [convertAs, hglyphs]
    rfl
  · rw [read?, writeVerbose_of_forall .modern hdigits, words?_of_spells hws]
    rfl
  · apply Nat.lt_of_le_of_ne hle
    exact fun hn => h (heq.mp hn)

/-- A group of zeros in between does no harm; a group that ends in zero loses its unit. -/
theorem verbose_reads_back_digits :
  let kept : Text := ['1', '2', '0', '0', '0', '0', '3', '0', '4', '0']
  let lost : Text := ['1', '2', '0', '0', '0', '0', '5']
  let config : Config := {}
  config.glyphs? = .ok .modern ∧
    ((∀ c ∈ kept, c.isDigit = true) ∧ kept.length ≤ 68 ∧ KeepsUnits kept) ∧
    ((∀ c ∈ lost, c.isDigit = true) ∧ lost.length ≤ 68 ∧ ¬KeepsUnits lost) ∧
    (∃ out, convertAs .verbose config kept = .ok out ∧ read? out = some 1200003040) ∧
    ∃ out n, convertAs .verbose config lost = .ok out ∧ read? out = some n ∧ n < 1200005
  := by
  intro kept lost config
  have hglyphs : config.glyphs? = .ok .modern := rfl
  have hkept : (∀ c ∈ kept, c.isDigit = true) ∧ kept.length ≤ 68 ∧ KeepsUnits kept :=
    ⟨List.all_eq_true.mp rfl, by decide, by decide⟩
  have hlost : (∀ c ∈ lost, c.isDigit = true) ∧ lost.length ≤ 68 ∧ ¬KeepsUnits lost :=
    ⟨List.all_eq_true.mp rfl, by decide, by decide⟩
  refine ⟨hglyphs, hkept, hlost, ?_, ?_⟩
  · obtain ⟨out, n, hout, hread, hvalue, -⟩ :=
      verbose_reads_back config hglyphs kept hkept.1 hkept.2.1
    use out, hout
    rw [hread, hvalue.mpr hkept.2.2]
    rfl
  · obtain ⟨out, n, hout, hread, -, hless⟩ :=
      verbose_reads_back config hglyphs lost hlost.1 hlost.2.1
    exact ⟨out, n, hout, hread, hless hlost.2.2⟩

end JapaneseProse.Numeral
