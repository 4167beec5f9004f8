import JapaneseProse.Proofs.Numeral.Conversion

/-!
# Faults of numeral configurations

A configuration is at fault if one of its names means nothing; of two such names the one of the
way of writing is told (`Config.IsFault`).  The names are looked up only when a number is met, so a
text is refused if and only if there is a fault and the text has a digit (`convert_eq_error_iff`).
-/

namespace JapaneseProse

namespace Numeral

variable {c : Config} {fault : Fault} {mode : Mode} {g : Glyphs} {text : Text}

/-! ### Names -/

theorem Mode.ofName?_eq_some_iff (s : String) (m : Mode) :
  ofName? s = some m ↔ m.name = s
  := by
  constructor
  · intro h
    have hname := List.find?_some h
    apply eq_of_beq hname
  · rintro rfl
    cases m <;> rfl

theorem Glyphs.ofName?_eq_some_iff (s : String) (g : Glyphs) :
  ofName? s = some g ↔ g.name = s
  := by
  constructor
  · intro h
    have hname := List.find?_some h
    apply eq_of_beq hname
  · rintro rfl
    cases g <;> rfl

theorem Name.bind_text?_eq_some_iff {α : Type} {ofName? : String → Option α} {nameOf : α → String}
    (h : ∀ s a, ofName? s = some a ↔ nameOf a = s) {name : Name} {a : α} :
  name.text?.bind ofName? = some a ↔ name = .text (nameOf a)
  := by
  cases name with
  | text s =>
      apply (h s a).trans
      rw [Name.text.injEq, eq_comm]
  | other shown => exact iff_of_false (fun h => nomatch h) (fun h => nomatch h)

namespace Config

theorem mode?_of_eq (h : c.mode = .text mode.name) :
  c.mode? = .ok mode
  := by
  rw [mode?, (Name.bind_text?_eq_some_iff Mode.ofName?_eq_some_iff).mpr h]

theorem mode?_of_forall (h : ∀ m : Mode, c.mode ≠ .text m.name) :
  c.mode? = .error (.unknownMode c.mode)
  := by
  have hnone : c.mode.text?.bind Mode.ofName? = none := by
    apply Option.eq_none_iff_forall_ne_some.mpr
    intro m hm
    apply h m ((Name.bind_text?_eq_some_iff Mode.ofName?_eq_some_iff).mp hm)
  rw [mode?, hnone]

theorem glyphs?_of_eq (h : c.glyphs = .text g.name) :
  c.glyphs? = .ok g
  := by
  rw [glyphs?, (Name.bind_text?_eq_some_iff Glyphs.ofName?_eq_some_iff).mpr h]

theorem glyphs?_of_forall (h : ∀ g : Glyphs, c.glyphs ≠ .text g.name) :
  c.glyphs? = .error (.unknownGlyphs c.glyphs)
  := by
  have hnone : c.glyphs.text?.bind Glyphs.ofName? = none := by
    apply Option.eq_none_iff_forall_ne_some.mpr
    intro g hg
    apply h g ((Name.bind_text?_eq_some_iff Glyphs.ofName?_eq_some_iff).mp hg)
  rw [glyphs?, hnone]

/-- What is wrong with the names.  The glyphs are looked at only if the way of writing means
something. -/
inductive IsFault (c : Config) : Fault → Prop where
  | mode (h : ∀ m : Mode, c.mode ≠ .text m.name) : IsFault c (.unknownMode c.mode)
  | glyphs {m : Mode} (hmode : c.mode = .text m.name) (h : ∀ g : Glyphs, c.glyphs ≠ .text g.name) :
      IsFault c (.unknownGlyphs c.glyphs)

/-- Either both names mean something, or there is a fault. -/
theorem valid_or_exists_isFault (c : Config) :
  (∃ mode g, c.mode? = .ok mode ∧ c.glyphs? = .ok g) ∨ ∃ fault, c.IsFault fault
  := by
  by_cases hmode : ∃ m : Mode, c.mode = .text m.name
  · obtain ⟨m, hm⟩ := hmode
    by_cases hglyphs : ∃ g : Glyphs, c.glyphs = .text g.name
    · obtain ⟨g, hg⟩ := hglyphs
      exact .inl ⟨m, g, mode?_of_eq hm, glyphs?_of_eq hg⟩
    · exact .inr ⟨_, .glyphs hm (not_exists.mp hglyphs)⟩
  · exact .inr ⟨_, .mode (not_exists.mp hmode)⟩

/-- There is at most one fault. -/
theorem IsFault.unique {fault' : Fault} (h : c.IsFault fault) (h' : c.IsFault fault') :
  fault = fault'
  := by
  cases h with
  | mode h =>
      cases h' with
      | mode => rfl
      | glyphs hmode => exact absurd hmode (h _)
  | glyphs hmode =>
      cases h' with
      | mode h => exact absurd hmode (h _)
      | glyphs => rfl

end Config

/-! ### Texts that are refused -/

/-- A fault shows at every number, whatever the number is. -/
theorem Config.IsFault.writeNumber (h : c.IsFault fault) (number : Text) :
  writeNumber c number = .error fault
  := by
  cases h with
  | mode h =>
      rw [Numeral.writeNumber, mode?_of_forall h]
      rfl
  | glyphs hmode h =>
      rw [Numeral.writeNumber, mode?_of_eq hmode, glyphs?_of_forall h]
      rfl

/-- The first digit of a text begins a number. -/
theorem Config.IsFault.convert (h : c.IsFault fault) (hdigit : ∃ d ∈ text, d.isDigit = true) :
  convert c text = .error fault
  := by
  have hparts : (pieces numberAt? text).mapM (convertPiece c) = .error fault := by
    induction text with
    | nil => simp at hdigit
    | cons d text ih =>
        by_cases hd : d.isDigit = true
        · rw [pieces_cons_of_some numberAt? (if_pos hd), List.mapM_cons, convertPiece,
            h.writeNumber]
          rfl
        · have hrest := ih (((List.exists_mem_cons_iff _ d text).mp hdigit).resolve_left hd)
          rw [pieces_cons_of_none numberAt? (if_neg hd), List.mapM_cons, hrest]
          rfl
  rw [Numeral.convert, hparts]
  rfl

/-- A text is refused if and only if the configuration is at fault and a number has to be
written. -/
theorem convert_eq_error_iff :
  convert c text = .error fault ↔ c.IsFault fault ∧ ∃ d ∈ text, d.isDigit = true
  := by
  constructor
  · intro h
    have hdigit : ∃ d ∈ text, d.isDigit = true := by
      by_contra hnone
      push Not at hnone
      have hok := convert_of_forall (c := c) fun d hd => Bool.eq_false_iff.mpr (hnone d hd)
      cases h.symm.trans hok
    rcases c.valid_or_exists_isFault with ⟨mode, g, hmode, hglyphs⟩ | ⟨fault', hfault⟩
    · obtain ⟨out, hout, -⟩ := exists_convert hmode hglyphs text
      cases h.symm.trans hout
    · obtain rfl : fault' = fault := by injection (hfault.convert hdigit).symm.trans h
      exact ⟨hfault, hdigit⟩
  · exact fun h => h.1.convert h.2

end Numeral

end JapaneseProse
