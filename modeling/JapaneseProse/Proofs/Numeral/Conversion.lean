import JapaneseProse.Numeral.Conversion
import JapaneseProse.Proofs.Numeral.Writing
import JapaneseProse.Proofs.Text.Pieces

/-!
# Conversion of numerals

With names that mean something, the numbers of every text can be written, and no digit is left
(`exists_convert`).  A text without digits stays, whatever the names are (`convert_of_forall`).
-/

namespace JapaneseProse

/-! ### Results for all members of a list -/

section

variable {α β ε : Type} {f : α → Except ε β} {l : List α}

theorem mapM_eq_ok_map {g : α → β} (h : ∀ a ∈ l, f a = .ok (g a)) :
  l.mapM f = .ok (l.map g)
  := by
  induction l with
  | nil => rfl
  | cons a l ih =>
      obtain ⟨ha, hl⟩ := List.forall_mem_cons.mp h
      rw [List.mapM_cons, ha, ih hl]
      rfl

/-- If every member has a result of some kind, the list has a list of such results. -/
theorem exists_mapM {P : β → Prop} (h : ∀ a ∈ l, ∃ b, f a = .ok b ∧ P b) :
  ∃ bs, l.mapM f = .ok bs ∧ bs.length = l.length ∧ ∀ b ∈ bs, P b
  := by
  induction l with
  | nil => exact ⟨[], rfl, rfl, fun _ hb => absurd hb List.not_mem_nil⟩
  | cons a l ih =>
      obtain ⟨⟨b, hb, hP⟩, hl⟩ := List.forall_mem_cons.mp h
      obtain ⟨bs, hbs, hlen, hPs⟩ := ih hl
      use b :: bs
      rw [List.mapM_cons, hb, hbs, List.length_cons, List.length_cons, hlen]
      exact ⟨rfl, rfl, List.forall_mem_cons.mpr ⟨hP, hPs⟩⟩

end

namespace Numeral

variable {c : Config} {mode : Mode} {g : Glyphs} {text : Text}

/-- A number goes on with digits, points and commas. -/
theorem of_mem_take_numberLength (separable : Bool) (s : Text) :
  ∀ d ∈ s.take (numberLength separable s), d.isDigit = true ∨ d = '.' ∨ d = ','
  := by
  fun_induction numberLength separable s with
  | case1 separable =>
      intro d hd
      exact absurd hd List.not_mem_nil
  | case2 separable c s hc ih => apply List.forall_mem_cons.mpr ⟨.inl hc, ih⟩
  | case3 separable c s hc hseparator ih =>
      rw [Bool.and_eq_true, Bool.or_eq_true, beq_iff_eq, beq_iff_eq] at hseparator
      apply List.forall_mem_cons.mpr ⟨.inr hseparator.2, ih⟩
  | case4 separable c s hc hseparator =>
      intro d hd
      exact absurd hd List.not_mem_nil

theorem isDigit_of_numberAt? {d : Char} {s : Text} (h : numberAt? d s = none) :
  d.isDigit = false
  := by
  rw [numberAt?] at h
  split at h
  · cases h
  · rename_i hd
    apply Bool.not_eq_true _ ▸ hd

/-- Without its commas, a number consists of digits and points. -/
theorem filter_subset_of_numberAt? {d : Char} {s number : Text} {n : Nat}
    (h : numberAt? d s = some (n, number)) :
  number.filter (· ≠ ',') ⊆ numberChars
  := by
  rw [numberAt?] at h
  split at h
  · rename_i hd
    obtain ⟨-, rfl⟩ := Prod.mk.inj (Option.some.inj h)
    intro e he
    obtain ⟨he, hcomma⟩ := List.mem_filter.mp he
    have hcomma : e ≠ ',' := of_decide_eq_true hcomma
    rcases List.mem_cons.mp he with rfl | he
    · apply mem_numberChars_of_isDigit hd
    · rcases of_mem_take_numberLength true s e he with he | rfl | rfl
      · apply mem_numberChars_of_isDigit he
      · decide
      · exact absurd rfl hcomma
  · cases h

theorem writeNumber_eq_ok (hmode : c.mode? = .ok mode) (hglyphs : c.glyphs? = .ok g)
    (number : Text) :
  writeNumber c number = .ok (write mode g (number.filter (· ≠ ',')))
  := by
  rw [writeNumber, hmode, hglyphs]
  rfl

/-- With names that mean something, all numbers of a text are written, and no digit is left. -/
theorem exists_convert (hmode : c.mode? = .ok mode) (hglyphs : c.glyphs? = .ok g) (text : Text) :
  ∃ out, convert c text = .ok out ∧
    ∀ d ∈ out, d.isDigit = false ∧ (d ∈ text ∨ d ∈ ink g)
  := by
  have hpieces : ∀ p ∈ pieces numberAt? text, ∃ t, convertPiece c p = .ok t ∧
      ∀ d ∈ t, d.isDigit = false ∧ (d ∈ text ∨ d ∈ ink g) := by
    apply forall_mem_pieces
    · intro d hd t hnone
      use [d]
      use rfl
      intro e he
      obtain rfl := List.mem_singleton.mp he
      exact ⟨isDigit_of_numberAt? hnone, .inl hd⟩
    · intro d t n number hnumber
      use write mode g (number.filter (· ≠ ','))
      use writeNumber_eq_ok hmode hglyphs number
      intro e he
      have hink := write_subset mode g (filter_subset_of_numberAt? hnumber) he
      exact ⟨not_isDigit_of_mem_ink hink, .inr hink⟩
  obtain ⟨parts, hparts, -, hchars⟩ := exists_mapM hpieces
  use parts.flatten
  rw [convert, hparts]
  use rfl
  intro d hd
  obtain ⟨t, ht, hdt⟩ := List.mem_flatten.mp hd
  apply hchars t ht d hdt

/-- A text without digits stays. -/
theorem convert_of_forall (h : ∀ d ∈ text, d.isDigit = false) :
  convert c text = .ok text
  := by
  have hpieces : pieces numberAt? text = text.map .kept := by
    induction text with
    | nil => rfl
    | cons d text ih =>
        obtain ⟨hd, htext⟩ := List.forall_mem_cons.mp h
        rw [pieces_cons_of_none, ih htext]
        · rfl
        · rw [numberAt?, hd]
          rfl
  have hparts : (text.map Piece.kept).mapM (convertPiece c) =
      .ok (text.map fun d => [d]) := by
    rw [List.mapM_map]
    apply mapM_eq_ok_map
    intro d _
    rfl
  rw [convert, hpieces, hparts]
  change Except.ok (text.map fun d => [d]).flatten = _
  rw [← List.flatMap_def, List.flatMap_singleton']

end Numeral

end JapaneseProse
