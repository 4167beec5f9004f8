/-!
# Toggles

Every rule can be switched on and off on its own.  A setting says of each toggle whether
it is on.
-/

namespace JapaneseProse

/-- What can be switched on and off. -/
inductive Toggle where
  | arabicNumerals
  | lineHeadSpace
  | punctuationBeforeBracket
  | doubleDash
  | doubleLeaders
  | repeatedPunctuation
  | punctuationAfterExclamation
  | spaceAfterExclamation
  | trailingSpaces
  | repeatedCharacters
  | halfWidthExclamation
deriving DecidableEq, Repr

namespace Toggle

/-- All toggles, in the order in which they are listed. -/
def all : List Toggle :=
  [arabicNumerals, lineHeadSpace, punctuationBeforeBracket, doubleDash, doubleLeaders,
    repeatedPunctuation, punctuationAfterExclamation, spaceAfterExclamation, trailingSpaces,
    repeatedCharacters, halfWidthExclamation]

/-- The name of a toggle in settings. -/
def name : Toggle → String
  | arabicNumerals => "convert_arabic_num"
  | lineHeadSpace => "insert_line_head_space"
  | punctuationBeforeBracket => "remove_punc_before_brackets"
  | doubleDash => "unify_double_dash"
  | doubleLeaders => "unify_double_leaders"
  | repeatedPunctuation => "remove_consec_punc"
  | punctuationAfterExclamation => "remove_punc_after_exclam"
  | spaceAfterExclamation => "insert_space_after_exclam"
  | trailingSpaces => "remove_trailing_spaces"
  | repeatedCharacters => "remove_consec_specific_chars"
  | halfWidthExclamation => "convert_half_exclam"

/-- The toggle of some name. -/
def ofName? (s : String) : Option Toggle := all.find? fun t => t.name == s

theorem mem_all (t : Toggle) :
  t ∈ all
  := by
  cases t <;> decide

end Toggle

/-- Which toggles are on. -/
abbrev Settings := Toggle → Bool

namespace Settings

/-- The setting with every toggle on. -/
def allOn : Settings := fun _ => true

/-- The setting with every toggle off. -/
def allOff : Settings := fun _ => false

/-- The setting with one toggle switched. -/
def switch (s : Settings) (t : Toggle) (value : Bool) : Settings :=
  fun u => if u = t then value else s u

@[simp]
theorem switch_same (s : Settings) (t : Toggle) (value : Bool) :
  s.switch t value t = value
  := by
  simp [switch]

theorem switch_other (s : Settings) {t u : Toggle} (value : Bool) (h : u ≠ t) :
  s.switch t value u = s u
  := by
  simp [switch, h]

end Settings

end JapaneseProse
