import JapaneseProse.Proofs.Numeral.Conversion

/-!
# The extent of numbers

A number consists of groups of digits with single separators between them and perhaps one behind
(`IsNumber`).  As a text of its own it is taken as a whole (`pieces_of_isNumber`).  A text can be
cut in two wherever no number goes on from one part into the other (`CutsNumber`), and its pieces
are those of the parts (`pieces_append_of_not_cutsNumber`).
-/

namespace JapaneseProse.Numeral

variable {a b r s u : Text} {c : Char} {separable : Bool}

/-! ### Numbers and cuts -/

/-- What may stand between the digits of a number. -/
def isSeparator (c : Char) : Bool := c == '.' || c == ','

/-- One digit or more. -/
def IsDigits (u : Text) : Prop := u ≠ [] ∧ ∀ c ∈ u, c.isDigit = true

/-- Groups of digits with one separator between any two of them, and perhaps one behind. -/
inductive IsNumber : Text → Prop where
  | digits {u : Text} (hu : IsDigits u) : IsNumber u
  | closed {u : Text} {c : Char} (hu : IsDigits u) (hc : isSeparator c = true) :
      IsNumber (u ++ [c])
  | continued {u r : Text} {c : Char} (hu : IsDigits u) (hc : isSeparator c = true)
      (hr : IsNumber r) : IsNumber (u ++ c :: r)

/-- The last character is a digit. -/
def EndsInDigit (a : Text) : Prop := a.getLast?.any Char.isDigit = true

/-- The last character is a separator and the one before it a digit. -/
def EndsInSeparator (a : Text) : Prop := a.getLast?.any isSeparator = true ∧ EndsInDigit a.dropLast

/-- A number of `a` goes on in `b`: behind a digit with a digit or a separator, behind a separator
with a digit. -/
def CutsNumber (a b : Text) : Prop :=
  (EndsInDigit a ∧ b.head?.any (fun c => c.isDigit || isSeparator c) = true) ∨
    (EndsInSeparator a ∧ b.head?.any Char.isDigit = true)

instance (a b : Text) : Decidable (CutsNumber a b) :=
  inferInstanceAs (Decidable ((_ = true ∧ _) ∨ ((_ = true ∧ _ = true) ∧ _)))

/-! ### Numbers in a longer text -/

theorem numberLength_le (separable : Bool) (s : Text) :
  numberLength separable s ≤ s.length
  := by
  fun_induction numberLength separable s with
  | case1 => rfl
  | case2 separable c s hc ih => apply Nat.succ_le_succ ih
  | case3 separable c s hc hseparator ih => apply Nat.succ_le_succ ih
  | case4 => apply Nat.zero_le

/-- The text before is such that a number may go on behind it, with a separator only if
`separable`. -/
def MayGoOn (separable : Bool) (u : Text) : Prop :=
  if separable then EndsInDigit u else EndsInSeparator u

theorem mayGoOn_digit (u : Text) (hc : c.isDigit = true) :
  MayGoOn true (u ++ [c])
  := by
  rw [MayGoOn, if_pos rfl, EndsInDigit, List.getLast?_append]
  exact hc

theorem mayGoOn_separator (hu : MayGoOn true u) (hc : isSeparator c = true) :
  MayGoOn false (u ++ [c])
  := by
  rw [MayGoOn, if_neg Bool.false_ne_true, EndsInSeparator, List.dropLast_concat,
    List.getLast?_append]
  exact ⟨hc, hu⟩

/-- Behind a cut no number goes on. -/
theorem numberLength_of_not_cutsNumber (hu : MayGoOn separable u) (hcut : ¬CutsNumber u b) :
  numberLength separable b = 0
  := by
  cases b with
  | nil => rfl
  | cons c b =>
      cases separable with
      | true =>
          have hc : (c.isDigit || isSeparator c) = false := by
            rw [← Bool.not_eq_true]
            intro hc
            apply hcut (.inl ⟨hu, hc⟩)
          rw [Bool.or_eq_false_iff] at hc
          rw [numberLength, hc.1, ← isSeparator, hc.2]
          rfl
      | false =>
          have hc : c.isDigit = false := by
            rw [← Bool.not_eq_true]
            intro hc
            apply hcut (.inr ⟨hu, hc⟩)
          rw [numberLength, hc]
          rfl

/-- A number that does not go on in `b` ends where it would end without `b`; `u` is what comes
before. -/
theorem numberLength_append (hu : MayGoOn separable u) (hcut : ¬CutsNumber (u ++ s) b) :
  numberLength separable (s ++ b) = numberLength separable s
  := by
  fun_induction numberLength separable s generalizing u with
  | case1 separable =>
      rw [List.append_nil] at hcut
      apply numberLength_of_not_cutsNumber hu hcut
  | case2 separable c s hc ih =>
      have hrest := ih (mayGoOn_digit u hc) (by simpa using hcut)
      rw [List.cons_append, numberLength, if_pos hc, hrest]
  | case3 separable c s hc hseparator ih =>
      have hparts := Bool.and_eq_true_iff.mp hseparator
      obtain rfl := hparts.1
      have hrest := ih (mayGoOn_separator hu hparts.2) (by simpa using hcut)
      rw [List.cons_append, numberLength, if_neg hc, if_pos hseparator, hrest]
  | case4 separable c s hc hseparator =>
      rw [List.cons_append, numberLength, if_neg hc, if_neg hseparator]

theorem numberAt?_append (hcut : ¬CutsNumber (c :: s) b) :
  numberAt? c (s ++ b) = numberAt? c s
  := by
  rw [numberAt?, numberAt?]
  split
  · rename_i hc
    have hlength : numberLength true (s ++ b) = numberLength true s :=
      numberLength_append (mayGoOn_digit [] hc) hcut
    simp only [hlength, List.take_append_of_le_length (numberLength_le true s)]
  · rfl

theorem any_getLast?_append {P : Char → Bool} (h : s.getLast?.any P = true) (u : Text) :
  (u ++ s).getLast?.any P = true
  := by
  obtain ⟨c, hc, hP⟩ := (Option.any_eq_true P _).mp h
  rw [List.getLast?_append, hc]
  exact hP

theorem CutsNumber.of_suffix (h : CutsNumber s b) (hs : s <:+ a) :
  CutsNumber a b
  := by
  obtain ⟨u, rfl⟩ := hs
  rcases h with ⟨hlast, hb⟩ | ⟨⟨hlast, hdigit⟩, hb⟩
  · exact .inl ⟨any_getLast?_append hlast u, hb⟩
  · have hne : s ≠ [] := by
      rintro rfl
      cases hlast
    refine .inr ⟨⟨any_getLast?_append hlast u, ?_⟩, hb⟩
    rw [List.dropLast_append_of_ne_nil hne]
    apply any_getLast?_append hdigit u

/-- The pieces of a text are those of its parts if no number goes on from one into the other. -/
theorem pieces_append_of_not_cutsNumber (hcut : ¬CutsNumber a b) :
  pieces numberAt? (a ++ b) = pieces numberAt? a ++ pieces numberAt? b
  := by
  apply pieces_append
  · intro c s hs
    apply numberAt?_append
    exact fun h => hcut (h.of_suffix hs)
  · intro c s n number h
    rw [numberAt?] at h
    split at h
    · obtain ⟨rfl, -⟩ := Prod.mk.inj (Option.some.inj h)
      apply numberLength_le
    · cases h

/-! ### Numbers as a whole -/

theorem numberLength_append_of_forall (hu : ∀ c ∈ u, c.isDigit = true) (s : Text) :
  numberLength true (u ++ s) = u.length + numberLength true s
  := by
  induction u with
  | nil => rw [List.nil_append, List.length_nil, Nat.zero_add]
  | cons c u ih =>
      obtain ⟨hc, hu⟩ := List.forall_mem_cons.mp hu
      rw [List.cons_append, numberLength, if_pos hc, ih hu, List.length_cons, Nat.add_right_comm]

theorem numberLength_separator (hc : isSeparator c = true) (s : Text) :
  numberLength true (c :: s) = numberLength false s + 1
  := by
  have hdigit : c.isDigit = false := by
    rw [isSeparator, Bool.or_eq_true, beq_iff_eq, beq_iff_eq] at hc
    rcases hc with rfl | rfl <;> rfl
  rw [numberLength, hdigit, ← isSeparator, hc]
  rfl

/-- A number may begin wherever it could go on, since it begins with a digit. -/
theorem numberLength_of_isDigits (hu : IsDigits u) (separable : Bool) (s : Text) :
  numberLength separable (u ++ s) = u.length + numberLength true s
  := by
  obtain ⟨hne, hdigits⟩ := hu
  cases u with
  | nil => exact absurd rfl hne
  | cons c u =>
      obtain ⟨hc, hu⟩ := List.forall_mem_cons.mp hdigits
      rw [List.cons_append, numberLength, if_pos hc, numberLength_append_of_forall hu,
        List.length_cons, Nat.add_right_comm]

theorem numberLength_of_isNumber (hr : IsNumber r) (separable : Bool) :
  numberLength separable r = r.length
  := by
  induction hr generalizing separable with
  | @digits u hu =>
      have h := numberLength_of_isDigits hu separable []
      rwa [List.append_nil] at h
  | closed hu hc =>
      rw [numberLength_of_isDigits hu, numberLength_separator hc, List.length_append]
      rfl
  | continued hu hc hr ih =>
      rw [numberLength_of_isDigits hu, numberLength_separator hc, ih, List.length_append]
      rfl

theorem IsDigits.exists_cons (hu : IsDigits u) (s : Text) :
  ∃ c t, u ++ s = c :: t ∧ c.isDigit = true
  := by
  obtain ⟨hne, hdigits⟩ := hu
  cases u with
  | nil => exact absurd rfl hne
  | cons c u => exact ⟨c, u ++ s, rfl, hdigits c List.mem_cons_self⟩

theorem IsNumber.exists_cons (hr : IsNumber r) :
  ∃ c s, r = c :: s ∧ c.isDigit = true
  := by
  cases hr with
  | digits hu => simpa using hu.exists_cons []
  | closed hu hc => apply hu.exists_cons
  | continued hu hc hr => apply hu.exists_cons

/-- A number that is a text of its own is taken as a whole. -/
theorem pieces_of_isNumber (hr : IsNumber r) :
  pieces numberAt? r = [.taken r]
  := by
  obtain ⟨c, s, rfl, hc⟩ := hr.exists_cons
  have hlength := numberLength_of_isNumber hr true
  rw [numberLength, if_pos hc, List.length_cons, Nat.add_right_cancel_iff] at hlength
  have hnumber : numberAt? c s = some (s.length, c :: s) := by
    rw [numberAt?, if_pos hc]
    simp only [hlength, List.take_length]
  rw [pieces_cons_of_some numberAt? hnumber, List.drop_length, pieces_nil]

/-! ### Conversion -/

variable {config : Config} {mode : Mode} {g : Glyphs}

/-- A piece of a text, with its number written in one of the ways. -/
def writePiece (mode : Mode) (g : Glyphs) : Piece Text → Text
  | .kept c => [c]
  | .taken number => write mode g (number.filter (· ≠ ','))

/-- With names that mean something, a text is converted piece by piece. -/
theorem convert_eq_ok_flatMap (hmode : config.mode? = .ok mode) (hglyphs : config.glyphs? = .ok g)
    (text : Text) :
  convert config text = .ok ((pieces numberAt? text).flatMap (writePiece mode g))
  := by
  have hparts : (pieces numberAt? text).mapM (convertPiece config) =
      .ok ((pieces numberAt? text).map (writePiece mode g)) := by
    apply mapM_eq_ok_map
    rintro (c | number) _
    · rfl
    · apply writeNumber_eq_ok hmode hglyphs
  rw [convert, hparts]
  rfl

/-- With names that mean something, every text can be converted.  Parts between which no number
goes on are converted on their own, a number is written without its commas, a text without digits
stays, and no digit is left, so that converting a second time changes nothing. -/
theorem convert_local_complete (config : Config) (mode : Mode) (g : Glyphs)
    (hmode : config.mode? = .ok mode) (hglyphs : config.glyphs? = .ok g) :
  ∃ converted : Text → Text, (∀ text, convert config text = .ok (converted text)) ∧
    (∀ a b, ¬CutsNumber a b → converted (a ++ b) = converted a ++ converted b) ∧
    (∀ r, IsNumber r → converted r = write mode g (r.filter (· ≠ ','))) ∧
    (∀ text, (∀ c ∈ text, c.isDigit = false) → converted text = text) ∧
    ∀ text, (∀ c ∈ converted text, c.isDigit = false) ∧
      converted (converted text) = converted text
  := by
  have hconvert := convert_eq_ok_flatMap hmode hglyphs
  have hkept : ∀ text : Text, (∀ c ∈ text, c.isDigit = false) →
      (pieces numberAt? text).flatMap (writePiece mode g) = text := by
    intro text htext
    injection (hconvert text).symm.trans (convert_of_forall htext)
  have hnodigit : ∀ text, ∀ c ∈ (pieces numberAt? text).flatMap (writePiece mode g),
      c.isDigit = false := by
    intro text c hc
    obtain ⟨out, hout, hchars⟩ := exists_convert hmode hglyphs text
    obtain rfl : _ = out := by injection (hconvert text).symm.trans hout
    apply (hchars c hc).1
  refine ⟨_, hconvert, fun a b hcut => ?_, fun r hr => ?_, hkept, fun text => ?_⟩
  · rw [pieces_append_of_not_cutsNumber hcut, List.flatMap_append]
  · rw [pieces_of_isNumber hr]
    apply List.append_nil
  · exact ⟨hnodigit text, hkept _ (hnodigit text)⟩

/-- A separator ends the first part, another one begins the second, and a number has separators of
both kinds. -/
theorem convert_local_complete_separated :
  let config : Config := { mode := "verbose", glyphs := "retro" }
  let a : Text := ['第', '1', '2', ',']
  let b : Text := ['.', '3', '章']
  let r : Text := ['1', ',', '2', '0', '0', '.', '5', '.']
  let outA : Text := ['第', '拾', '弐']
  let outB : Text := ['.', '参', '章']
  let outR : Text := ['仟', '弐', '佰', '・', '伍', '・']
  (config.mode? = .ok .verbose ∧ config.glyphs? = .ok .retro) ∧ ¬CutsNumber a b ∧ IsNumber r ∧
    convert config a = .ok outA ∧ convert config b = .ok outB ∧
    convert config (a ++ b) = .ok (outA ++ outB) ∧
    convert config r = .ok outR ∧ convert config outR = .ok outR
  := by
  intro config a b r outA outB outR
  have hnames : config.mode? = .ok .verbose ∧ config.glyphs? = .ok .retro := ⟨rfl, rfl⟩
  have hcut : ¬CutsNumber a b := by decide
  have hr : IsNumber r := by
    apply IsNumber.continued (u := ['1']) ⟨by decide, List.all_eq_true.mp rfl⟩ rfl
    apply IsNumber.continued (u := ['2', '0', '0']) ⟨by decide, List.all_eq_true.mp rfl⟩ rfl
    apply IsNumber.closed (u := ['5']) ⟨by decide, List.all_eq_true.mp rfl⟩ rfl
  have hA : convert config a = .ok outA := rfl
  have hB : convert config b = .ok outB := rfl
  obtain ⟨converted, hconverted, happend, hnumber, -, hclean⟩ :=
    convert_local_complete config .verbose .retro hnames.1 hnames.2
  have hR : converted r = outR := hnumber r hr
  refine ⟨hnames, hcut, hr, hA, hB, ?_, ?_, ?_⟩
  · rw [hconverted, happend a b hcut]
    rw [hconverted] at hA hB
    rw [Except.ok.inj hA, Except.ok.inj hB]
  · rw [hconverted, hR]
  · rw [hconverted, ← hR, (hclean r).2]

end JapaneseProse.Numeral
