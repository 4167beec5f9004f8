import JapaneseProse.Proofs.Document.Lines
import JapaneseProse.Proofs.Engine.LiteralTables
import JapaneseProse.Proofs.Numeral.Faults
import JapaneseProse.Proofs.Profile.Reader
import Mathlib.Data.List.Permutation

/-!
# Faults of engines in use

Rules on marks and spaces never stop, so a line is refused only for a number that has to be written
(`convertLine_eq_error_iff`), and a text only for one of its lines (`convertText_eq_error_iff`).

A call that comes back with a fault leaves the engine as it is (`engine_perform_of_error`), so the
other calls go as if it had not been made (`eraseIdx_outcomes`).

The names in a profile mean something, so its engine never refuses a text
(`exists_run_after_make`).

All this is about literal tables, and these stay literal (`fails_only_at_numerals`).  With other
tables there may be no pattern for a rule, and a text is refused for that.
-/

namespace JapaneseProse

section

variable {α β ε : Type} {f : α → Except ε β} {l : List α} {x : ε}

theorem bind_pure_eq_error_iff {r : Except ε α} {g : α → β} :
  (do let a ← r; return g a) = .error x ↔ r = .error x
  := by
  cases r with
  | error y =>
      constructor
      · rintro ⟨⟩
        rfl
      · rintro ⟨⟩
        rfl
  | ok a => exact iff_of_false (fun h => nomatch h) (fun h => nomatch h)

/-- If there is only one fault that members can have, a list has it if and only if a member has
it. -/
theorem mapM_eq_error_iff
    (hone : ∀ a ∈ l, ∀ b ∈ l, ∀ x y, f a = .error x → f b = .error y → x = y) :
  l.mapM f = .error x ↔ ∃ a ∈ l, f a = .error x
  := by
  induction l with
  | nil => exact iff_of_false (fun h => nomatch h) (by simp)
  | cons a l ih =>
      rw [List.mapM_cons]
      cases ha : f a with
      | error y =>
          constructor
          · intro h
            injection h with h
            use a, List.mem_cons_self
            rw [ha, h]
          · rintro ⟨b, hb, hx⟩
            rw [hone a List.mem_cons_self b hb y x ha hx]
            rfl
      | ok c =>
          have hl := ih fun b hb b' hb' =>
            hone b (List.mem_cons_of_mem a hb) b' (List.mem_cons_of_mem a hb')
          rw [List.exists_mem_cons_iff, ha, or_iff_right (fun h => nomatch h), ← hl]
          cases l.mapM f with
          | error y => rfl
          | ok bs => exact iff_of_false (fun h => nomatch h) (fun h => nomatch h)

end

variable {settings : Settings} {tables : Tables} {numerals : Numeral.Config} {line text : Text}

/-! ### Lines and texts that are refused -/

theorem convertNumerals_eq_error_iff {on : Bool} {fault : Numeral.Fault} :
  convertNumerals on numerals line = .error fault ↔
    on = true ∧ numerals.IsFault fault ∧ ∃ d ∈ line, d.isDigit = true
  := by
  cases on with
  | false => exact iff_of_false (fun h => nomatch h) (fun h => nomatch h.1)
  | true => rw [convertNumerals, if_pos rfl, Numeral.convert_eq_error_iff, and_iff_right rfl]

/-- A line is refused if and only if numbers are written, and there is a fault and a digit; the
digits count that are there after the replacements. -/
theorem convertLine_eq_error_iff {fault : Numeral.Fault} :
  convertLine settings tables numerals line = .error fault ↔
    settings .arabicNumerals = true ∧ numerals.IsFault fault ∧
      ∃ d ∈ Replacement.fix tables.replaceMap line, d.isDigit = true
  := by
  rw [convertLine, bind_pure_eq_error_iff, convertNumerals_eq_error_iff]

/-- A text is refused if and only if one of its lines is. -/
theorem convertText_eq_error_iff {fault : Numeral.Fault} :
  convertText settings tables numerals text = .error fault ↔
    settings .arabicNumerals = true ∧ numerals.IsFault fault ∧
      ∃ line ∈ splitLines text, ∃ d ∈ Replacement.fix tables.replaceMap line, d.isDigit = true
  := by
  rw [convertText, bind_pure_eq_error_iff, mapM_eq_error_iff]
  · simp only [convertLine_eq_error_iff]
    constructor
    · rintro ⟨line, hline, hon, hfault, hdigit⟩
      exact ⟨hon, hfault, line, hline, hdigit⟩
    · rintro ⟨hon, hfault, line, hline, hdigit⟩
      exact ⟨line, hline, hon, hfault, hdigit⟩
  · intro a _ b _ x y hx hy
    exact (convertLine_eq_error_iff.mp hx).2.1.unique (convertLine_eq_error_iff.mp hy).2.1

namespace Engine

variable {e : Engine} {call : Call} {fault : Fault}

theorem convert_eq_error_iff :
  e.convert text = .error fault ↔
    ∃ f, convertText e.settings e.tables e.numerals text = .error f ∧ fault = .numeral f
  := by
  rw [convert, process]
  cases convertText e.settings e.tables e.numerals text with
  | ok out =>
      constructor
      · intro h
        cases h
      · rintro ⟨f, ⟨⟩, -⟩
  | error f =>
      constructor
      · intro h
        injection h with h
        exact ⟨f, rfl, h.symm⟩
      · rintro ⟨f, ⟨⟩, rfl⟩
        rfl

theorem run_eq_bind_convert (e : Engine) (text : Text) :
  e.run text = (do let out ← e.convert text; return (out, lintText e.settings e.tables text))
  := rfl

theorem run_eq_error_iff :
  e.run text = .error fault ↔ e.convert text = .error fault
  := by
  rw [run_eq_bind_convert, bind_pure_eq_error_iff]

/-! ### Calls that fail -/

/-- What comes of calls, one after another. -/
def outcomes (e : Engine) : List Call → List Outcome
  | [] => []
  | call :: calls => e.perform call :: (e.perform call).engine.outcomes calls

theorem after_cons (e : Engine) (call : Call) (calls : List Call) :
  e.after (call :: calls) = (e.perform call).engine.after calls
  := rfl

theorem length_outcomes (e : Engine) (calls : List Call) :
  (e.outcomes calls).length = calls.length
  := by
  induction calls generalizing e with
  | nil => rfl
  | cons call calls ih => rw [outcomes, List.length_cons, List.length_cons, ih]

theorem outcomes_append (e : Engine) (before later : List Call) :
  e.outcomes (before ++ later) = e.outcomes before ++ (e.after before).outcomes later
  := by
  induction before generalizing e with
  | nil => rfl
  | cons call before ih =>
      rw [List.cons_append, outcomes, ih, outcomes, after_cons, List.cons_append]

/-- A call that fails leaves the engine as it is. -/
theorem engine_perform_of_error (h : (e.perform call).reply = .error fault) :
  (e.perform call).engine = e
  := by
  cases call with
  -- These hold no state, so the engine is the same whether they fail or not.
  | convert | lint | run => rfl
  | setOption name value =>
      by_cases hname : name ∈ Toggle.all.map Toggle.name
      · obtain ⟨t, -, rfl⟩ := List.mem_map.mp hname
        rw [perform_setOption] at h
        cases h
      · rw [perform_setOption_of_unknown hname]
  | listen | unlisten => cases h

/-- Without a call that fails, the others go the same way. -/
theorem eraseIdx_outcomes {before : List Call}
    (h : ((e.after before).perform call).reply = .error fault) (later : List Call) :
  (e.outcomes (before ++ call :: later)).eraseIdx before.length = e.outcomes (before ++ later)
  := by
  rw [outcomes_append, outcomes_append, outcomes, engine_perform_of_error h,
    ← e.length_outcomes before, List.eraseIdx_append_of_length_le (Nat.le_refl _), Nat.sub_self]
  rfl

/-! ### Engines of profiles -/

/-- With names that mean something, a new engine never refuses a text, whatever calls have been
made on it. -/
theorem exists_run_after_make (settings : Settings) (tables : Tables) {mode : Numeral.Mode}
    {g : Numeral.Glyphs} (hmode : numerals.mode? = .ok mode) (hglyphs : numerals.glyphs? = .ok g)
    (calls : List Call) (text : Text) :
  let e := after (.make settings tables numerals) calls
  ∃ out found, e.convert text = .ok out ∧ e.lint text = .ok found ∧ e.run text = .ok (out, found)
  := by
  intro e
  have hnumerals := ((isInStep_make settings tables numerals).after calls).numerals_eq
  rw [← hnumerals] at hmode hglyphs
  obtain ⟨out, hout⟩ := exists_convertText_of_valid e.settings e.tables hmode hglyphs text
  have hconvert := convert_eq_ok hout
  use out, lintText e.settings e.tables text, hconvert, lint_eq_ok e text
  rw [run_eq_bind_convert, hconvert]
  rfl

/-- As long as no entry in the tables has a character with a meaning of its own in a pattern,
linting never fails.  Converting a text fails if and only if numbers are written, a name in the
numeral configuration means nothing, and a line of the text has a digit after the replacements;
what is told is then the fault of the name.  A run fails just as the conversion does.  A call that
fails has no effect on the calls behind it.  Calls bring no such character into the tables.

Whatever validation takes an object of a JSON text without halves of pairs alone for a profile, the
profile is read, and if the tables that it gives have no such character either, its engine never
refuses a text. -/
theorem fails_only_at_numerals (e : Engine) (hliteral : e.tables.IsLiteral) :
  (∀ text, ∃ found, e.lint text = .ok found) ∧
    (∀ text fault, e.convert text = .error fault ↔
      e.settings .arabicNumerals = true ∧
        (∃ f, e.numerals.IsFault f ∧ fault = .numeral f) ∧
        ∃ line ∈ splitLines text, ∃ d ∈ Replacement.fix e.tables.replaceMap line,
          d.isDigit = true) ∧
    (∀ text fault, e.run text = .error fault ↔ e.convert text = .error fault) ∧
    (∀ before call later fault, ((e.after before).perform call).reply = .error fault →
      (e.outcomes (before ++ call :: later)).eraseIdx before.length =
        e.outcomes (before ++ later)) ∧
    (∀ calls, (e.after calls).tables.IsLiteral) ∧
    ∀ V raw value blob p, Json.readCodePoints raw = .ok value →
      value.characters? = some (.object blob) → V.validate blob = .ok p → p.IsLiteral →
      ∃ engine, Profile.readBy V raw = .ok p ∧ p.engine? = .ok engine ∧
        ∀ calls text, (engine.after calls).tables.IsLiteral ∧
          ∃ out found, (engine.after calls).convert text = .ok out ∧
            (engine.after calls).lint text = .ok found ∧
            (engine.after calls).run text = .ok (out, found)
  := by
  refine ⟨fun text => ⟨_, lint_eq_ok e text⟩, fun text fault => ?_,
    fun text fault => run_eq_error_iff,
    fun before call later fault h => eraseIdx_outcomes h later, isLiteral_after hliteral,
    fun V raw value blob p hjson hcharacters haccepted hp => ?_⟩
  · rw [convert_eq_error_iff]
    simp only [convertText_eq_error_iff]
    constructor
    · rintro ⟨f, ⟨hon, hfault, hdigit⟩, hf⟩
      exact ⟨hon, ⟨f, hfault, hf⟩, hdigit⟩
    · rintro ⟨hon, ⟨f, hfault, hf⟩, hdigit⟩
      exact ⟨f, ⟨hon, hfault, hdigit⟩, hf⟩
  · have hread := Json.read_eq_ok_iff.mpr ⟨value, hjson, hcharacters⟩
    use .make p.settings p.tables p.numerals, Profile.readBy_eq_ok hread haccepted, p.engine?_eq
    have hmode : p.numerals.mode? = .ok p.mode := Numeral.Config.mode?_of_eq rfl
    have hglyphs : p.numerals.glyphs? = .ok p.glyphs := Numeral.Config.glyphs?_of_eq rfl
    intro calls text
    constructor
    · apply isLiteral_after (isLiteral_make p.settings hp.tables p.numerals)
    · apply exists_run_after_make p.settings p.tables hmode hglyphs

/-- A replacement writes the digit, both names mean nothing, and numbers are not written any more
after the call that fails.  A profile gives a table. -/
theorem fails_only_at_numerals_replaced :
  let tables : Tables := { Tables.standard with replaceMap := .ofList [(['壱'], ['1'])] }
  let e : Engine := .make .allOn tables { mode := "plain", glyphs := "old" }
  let text : Text := ['、', '\r', '壱', '、', '、']
  let before : List Call := [.listen "log", .setOption "unify_double_dash" (.bool false)]
  let later : List Call := [.setOption "convert_arabic_num" .null, .run text]
  let raw := "\x7b\"chars\": \x7b\"dashes\": [\"~\"]\x7d\x7d".toList
  e.tables.IsLiteral ∧
    e.convert text = .error (.numeral (.unknownMode "plain")) ∧
    e.run text = .error (.numeral (.unknownMode "plain")) ∧
    (∃ found, e.lint text = .ok found) ∧
    ((e.after before).perform (.convert text)).reply =
      .error (.numeral (.unknownMode "plain")) ∧
    (e.outcomes (before ++ .convert text :: later)).eraseIdx 2 = e.outcomes (before ++ later) ∧
    ∃ p engine, Profile.read raw = .ok p ∧ p.entries .dashes = some [['~']] ∧ p.IsLiteral ∧
      p.engine? = .ok engine ∧ ∃ out, engine.convert text = .ok out
  := by
  have hjson : Json.read "\x7b\"chars\": \x7b\"dashes\": [\"~\"]\x7d\x7d".toList =
      .ok (.object [("chars".toList, .object [("dashes".toList, .array [.string ['~']])])]) := by
    cbv
  intro tables e text before later raw
  have hliteral : e.tables.IsLiteral := Table.areLiteral_standard
  obtain ⟨hlint, hconvert, hrun, hlater, -, hprofile⟩ := fails_only_at_numerals e hliteral
  have hfault : e.numerals.IsFault (.unknownMode "plain") :=
    .mode fun m => by cases m <;> decide
  have hfails : e.convert text = .error (.numeral (.unknownMode "plain")) := by
    apply (hconvert _ _).mpr
    refine ⟨rfl, ⟨_, hfault, rfl⟩, ['壱', '、', '、'], ?_, '1', ?_, rfl⟩
    · decide
    · decide
  have hreply : ((e.after before).perform (.convert text)).reply =
      .error (.numeral (.unknownMode "plain")) := by
    decide
  obtain ⟨value, hvalue, hcharacters⟩ := Json.read_eq_ok_iff.mp hjson
  let blob : Json.Members := [("chars".toList, .object [("dashes".toList, .array [.string ['~']])])]
  have haccepted : Profile.validation.validate blob = .ok (.ofMembers blob) :=
    Profile.validate_eq_ok_iff.mpr ⟨by decide, rfl⟩
  have hgiven : (Profile.ofMembers blob).IsLiteral := by
    intro t l hl
    cases t with
    | dashes =>
        cases hl
        decide
    | noRepeat | leftBrackets | rightBrackets | punctuation | exclamations | leaders | spaces =>
        cases hl
  obtain ⟨engine, hread, hengine, hnever⟩ :=
    hprofile Profile.validation raw value blob _ hvalue hcharacters haccepted hgiven
  obtain ⟨-, out, -, hout, -⟩ := hnever [] text
  exact ⟨hliteral, hfails, (hrun _ _).mpr hfails, hlint text, hreply, hlater before _ later _ hreply,
    _, engine, hread, rfl, hgiven, hengine, out, hout⟩

end Engine

end JapaneseProse
