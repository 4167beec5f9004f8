import JapaneseProse.Proofs.Numeral.Reading
import Mathlib.Data.List.Nodup

/-!
# Digits and the units of their groups

With the units of its groups of four, a number is its digits one after another, and the unit of a
group comes behind the last digit of the group.  Which digit this is shows in how many digits follow
it (`unitBehind`), so such a number can be written from the left, one digit after the other
(`withGroupUnits`).

* `withGroupUnits_chunksOfFour`: cutting the digits into groups from the right comes to the same.
* `writeModerate_append`: numbers with the units of their groups are written so, whether there are
  groups to be cut or not.
* `filter_withGroupUnits`: the digits are found among the units by their glyphs.
* `moderate_keeps_digits`: so all digits are kept, and only the units stand between them.
-/

namespace JapaneseProse.Numeral

variable {g : Glyphs} {s t r group : Text} {i n : Nat}

/-- The units of the groups above the lowest one, as they are written. -/
def groupUnits : Glyphs → List Text
  | .modern => myriadUnits
  | .retro => ['萬'] :: myriadUnits.tail

/-- The unit behind a digit that `n` digits follow.  There is one if these are whole groups of
four; behind the sixteenth unit comes the first one again. -/
def unitBehind (g : Glyphs) (n : Nat) : Text :=
  if 0 < n ∧ 4 ∣ n then (groupUnits g).getD ((n / 4 - 1) % 16) [] else []

/-- The digits with the units of their groups. -/
def withGroupUnits (g : Glyphs) : Text → Text
  | [] => []
  | c :: s => g.glyph c :: unitBehind g s.length ++ withGroupUnits g s

/-- The digits. -/
def digitChars : List Char := numberChars.filter Char.isDigit

/-- The glyphs that stand for digits. -/
def digitGlyphs (g : Glyphs) : List Char := digitChars.map g.glyph

/-! ### Glyphs of digits -/

theorem mem_digitChars {c : Char} (h : c.isDigit = true) :
  c ∈ digitChars
  := List.mem_filter.mpr ⟨mem_numberChars_of_isDigit h, h⟩

/-- Digits are told apart by their glyphs. -/
theorem eq_of_glyph_eq {c d : Char} (hc : c.isDigit = true) (hd : d.isDigit = true)
    (h : g.glyph c = g.glyph d) :
  c = d
  := by
  have hnodup : (digitGlyphs g).Nodup := by
    cases g <;> decide
  apply List.inj_on_of_nodup_map hnodup (mem_digitChars hc) (mem_digitChars hd) h

theorem eq_of_writeSimple_eq (hs : ∀ c ∈ s, c.isDigit = true) (ht : ∀ c ∈ t, c.isDigit = true)
    (h : writeSimple g s = writeSimple g t) :
  s = t
  := by
  induction s generalizing t with
  | nil => exact (List.map_eq_nil_iff.mp h.symm).symm
  | cons c s ih =>
      obtain ⟨d, t, rfl, hglyph, hrest⟩ := List.map_eq_cons_iff.mp h.symm
      obtain ⟨hc, hs⟩ := List.forall_mem_cons.mp hs
      obtain ⟨hd, ht⟩ := List.forall_mem_cons.mp ht
      rw [eq_of_glyph_eq hc hd hglyph.symm, ih hs ht hrest.symm]

/-! ### Units -/

theorem groupUnits_eq_map (g : Glyphs) :
  groupUnits g = myriadUnits.map (writeSimple g)
  := by
  cases g <;> decide

theorem unitBehind_mul (g : Glyphs) (i : Nat) :
  unitBehind g (4 * i) = writeSimple g (groupUnit i)
  := by
  cases i with
  | zero => rfl
  | succ i =>
      have hindex : 4 * (i + 1) / 4 - 1 = i := by omega
      rw [unitBehind, if_pos ⟨by omega, Nat.dvd_mul_right 4 (i + 1)⟩, hindex, groupUnits_eq_map,
        groupUnit]
      exact List.getD_map myriadUnits [] (writeSimple g)

theorem unitBehind_of_not_dvd (g : Glyphs) (h : ¬4 ∣ n) :
  unitBehind g n = []
  := if_neg fun hn => h hn.2

/-- No unit is taken for a digit. -/
theorem not_mem_digitGlyphs_of_mem_unitBehind {c : Char} (h : c ∈ unitBehind g n) :
  c ∉ digitGlyphs g
  := by
  have hunits : (groupUnits g).flatten.all (· ∉ digitGlyphs g) = true := by
    cases g <;> decide
  have hmem : c ∈ (groupUnits g).flatten := by
    rw [unitBehind] at h
    split at h
    · have hlt : (n / 4 - 1) % 16 < (groupUnits g).length := by
        rw [groupUnits_eq_map, List.length_map]
        apply Nat.mod_lt _ (by decide)
      rw [List.getD_eq_getElem _ _ hlt] at h
      apply List.mem_flatten.mpr ⟨_, List.getElem_mem hlt, h⟩
    · cases h
  apply of_decide_eq_true (List.all_eq_true.mp hunits c hmem)

/-- The digits are found among the units by their glyphs. -/
theorem filter_withGroupUnits (hdigits : ∀ c ∈ s, c.isDigit = true) :
  (withGroupUnits g s).filter (· ∈ digitGlyphs g) = writeSimple g s
  := by
  induction s with
  | nil => rfl
  | cons c s ih =>
      obtain ⟨hc, hs⟩ := List.forall_mem_cons.mp hdigits
      have hglyph : g.glyph c ∈ digitGlyphs g := List.mem_map_of_mem (mem_digitChars hc)
      have hunit : (unitBehind g s.length).filter (· ∈ digitGlyphs g) = [] := by
        apply List.filter_eq_nil_iff.mpr
        intro d hd
        rw [decide_eq_true_eq]
        apply not_mem_digitGlyphs_of_mem_unitBehind hd
      have hpos : decide (g.glyph c ∈ digitGlyphs g) = true := decide_eq_true hglyph
      rw [withGroupUnits, List.filter_append, List.filter_cons, if_pos hpos, hunit, ih hs]
      rfl

/-! ### Groups -/

/-- A group in front of `i` whole groups is written with its unit behind it. -/
theorem withGroupUnits_group_append (hne : group ≠ []) (hlength : group.length ≤ 4)
    (ht : t.length = 4 * i) :
  withGroupUnits g (group ++ t) =
    writeSimple g (group ++ groupUnit i) ++ withGroupUnits g t
  := by
  induction group with
  | nil => exact absurd rfl hne
  | cons c group ih =>
      cases group with
      | nil =>
          rw [List.singleton_append, withGroupUnits, ht, unitBehind_mul]
          rfl
      | cons d group =>
          -- Less than a whole group is left of the group itself.
          have hlength' : group.length + 1 + 1 ≤ 4 := hlength
          have hunit : unitBehind g (d :: group ++ t).length = [] := by
            apply unitBehind_of_not_dvd
            rw [List.length_append, List.length_cons, ht]
            omega
          rw [List.cons_append, withGroupUnits, hunit,
            ih (List.cons_ne_nil d group) (Nat.le_of_succ_le hlength')]
          rfl

/-- Digits in front of `i` whole groups, cut into groups from the right. -/
theorem withGroupUnits_chunksOfFour (g : Glyphs) (lowestFirst : Text) (ht : t.length = 4 * i) :
  withGroupUnits g (lowestFirst.reverse ++ t) =
    writeSimple g (groupsWithUnits i ((chunksOfFour lowestFirst).map List.reverse)) ++
      withGroupUnits g t
  := by
  fun_induction chunksOfFour lowestFirst generalizing i t with
  | case1 a b c d rest ih =>
      have hnext : ([d, c, b, a] ++ t).length = 4 * (i + 1) := by
        rw [List.length_append, ht]
        exact Nat.add_comm 4 (4 * i)
      have hreverse : (a :: b :: c :: d :: rest).reverse ++ t =
          rest.reverse ++ ([d, c, b, a] ++ t) := by
        simp
      have hgroup : withGroupUnits g ([d, c, b, a] ++ t) =
          writeSimple g ([d, c, b, a] ++ groupUnit i) ++ withGroupUnits g t :=
        withGroupUnits_group_append (List.cons_ne_nil _ _) (Nat.le_refl 4) ht
      rw [hreverse, ih hnext, hgroup, List.map_cons, groupsWithUnits, ← List.append_assoc]
      congr 1
      apply List.map_append.symm
  | case2 => rfl
  | case3 short hlong hnil =>
      have hlength := length_le_of_not_cons hlong
      rw [← List.length_reverse] at hlength
      rw [withGroupUnits_group_append (List.reverse_ne_nil_iff.mpr hnil) hlength ht]
      rfl

/-- The digits in front of the first point get the units of their groups, whether they are cut into
groups or not. -/
theorem writeModerate_append (g : Glyphs) (hdigits : ∀ c ∈ s, c.isDigit = true)
    (hr : ∀ c ∈ r.head?, c = '.') :
  writeModerate g (s ++ r) = withGroupUnits g s ++ writeSimple g r
  := by
  have hgrouped : writeSimple g
      (if s.length ≤ 4 then s else groupsWithUnits 0 (groupsOfFour s)) = withGroupUnits g s := by
    split
    · rename_i hshort
      by_cases hs : s = []
      · subst hs
        rfl
      · have hgroup := withGroupUnits_group_append (g := g) (i := 0) (t := []) hs hshort rfl
        rw [groupUnit, List.append_nil, withGroupUnits, List.append_nil] at hgroup
        exact hgroup.symm
    · have hgroups := withGroupUnits_chunksOfFour g s.reverse (i := 0) (t := []) rfl
      rw [List.reverse_reverse, List.append_nil, withGroupUnits, List.append_nil] at hgroups
      exact hgroups.symm
  rw [writeModerate, integerPart_append hdigits hr, decimalPart_append hdigits hr, ← hgrouped]
  apply List.map_append

/-- Written with the units of its groups, a number keeps its digits, all of them and in order, so
different numbers are written differently.  Behind the digits that are followed by whole groups of
four stand the units of their groups, and nothing else is added.  A decimal part is written digit by
digit behind its mark. -/
theorem moderate_keeps_digits (config : Config) (g : Glyphs) (hglyphs : config.glyphs? = .ok g)
    (s : Text) (hdigits : ∀ c ∈ s, c.isDigit = true) :
  ∃ simple moderate,
    convertAs .simple config s = .ok simple ∧ convertAs .moderate config s = .ok moderate ∧
    moderate.filter (· ∈ digitGlyphs g) = simple ∧
    moderate = withGroupUnits g s ∧
    (∀ t, (∀ c ∈ t, c.isDigit = true) → convertAs .moderate config t = .ok moderate → t = s) ∧
    ∀ f, ∃ decimals, convertAs .simple config f = .ok decimals ∧
      convertAs .moderate config (s ++ '.' :: f) = .ok (moderate ++ Glyphs.decimalMark :: decimals)
  := by
  have hconvert (mode : Mode) (text : Text) :
      convertAs mode config text = .ok (write mode g text) := by
    rw [convertAs, hglyphs]
    rfl
  have hmoderate {t : Text} (ht : ∀ c ∈ t, c.isDigit = true) :
      write .moderate g t = withGroupUnits g t := by
    have h := writeModerate_append g ht (r := []) (by simp)
    rw [List.append_nil, writeSimple, List.map_nil, List.append_nil] at h
    exact h
  refine ⟨_, _, hconvert .simple s, hconvert .moderate s, ?_, hmoderate hdigits, ?_, ?_⟩
  · rw [hmoderate hdigits]
    apply filter_withGroupUnits hdigits
  · intro t ht h
    rw [hconvert, hmoderate ht, hmoderate hdigits] at h
    injection h with h
    apply eq_of_writeSimple_eq (g := g) ht hdigits
    rw [← filter_withGroupUnits ht, ← filter_withGroupUnits hdigits, h]
  · intro f
    use writeSimple g f, hconvert .simple f
    have hmark : g.glyph '.' = Glyphs.decimalMark := by
      cases g <;> rfl
    rw [hconvert, hmoderate hdigits, write, writeModerate_append g hdigits, writeSimple,
      List.map_cons, hmark]
    · rfl
    · rintro c ⟨⟩
      rfl

/-- Two groups below a single digit, the lowest of them with zeros only. -/
theorem moderate_keeps_digits_retro :
  let config : Config := { glyphs := "retro" }
  let s : Text := ['1', '0', '3', '4', '5', '0', '0', '0', '0']
  let moderate : Text := ['壱', '億', '零', '参', '肆', '伍', '萬', '零', '零', '零', '零']
  config.glyphs? = .ok .retro ∧ (∀ c ∈ s, c.isDigit = true) ∧
    convertAs .simple config s = .ok ['壱', '零', '参', '肆', '伍', '零', '零', '零', '零'] ∧
    convertAs .moderate config s = .ok moderate ∧
    convertAs .moderate config (s ++ '.' :: ['5', '.', '0']) =
      .ok (moderate ++ Glyphs.decimalMark :: ['伍', Glyphs.decimalMark, '零'])
  := by
  intro config s moderate
  have hglyphs : config.glyphs? = .ok .retro := rfl
  have hdigits : ∀ c ∈ s, c.isDigit = true := List.all_eq_true.mp rfl
  obtain ⟨simple, moderate', hsimple, hmoderate, -, hunits, -, hdecimals⟩ :=
    moderate_keeps_digits config .retro hglyphs s hdigits
  obtain rfl : moderate' = moderate := hunits.trans (by decide)
  obtain ⟨decimals, hdecimal, hwhole⟩ := hdecimals ['5', '.', '0']
  obtain rfl : ['伍', Glyphs.decimalMark, '零'] = decimals := by
    injection hdecimal
  exact ⟨hglyphs, hdigits, rfl, hmoderate, hwhole⟩

end JapaneseProse.Numeral
