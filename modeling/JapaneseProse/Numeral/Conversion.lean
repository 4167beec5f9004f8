import JapaneseProse.Numeral.Writing
import JapaneseProse.Text.Pieces
import JapaneseProse.Text.Quoted

/-!
# Conversion of numerals in a text

A number in a text begins with a digit and goes on with digits and separators, points
or commas, of which no two come in a row.  Every number is written anew, without its
commas; all other text stays.  The way of writing and the glyphs are given by name, and
a name that means nothing is a fault only when a number has to be written.
-/

namespace JapaneseProse.Numeral

/-- What is given as a name: a text, or something else, of which the way it is shown is
kept. -/
inductive Name where
  | text (s : String)
  | other (shown : String)
deriving DecidableEq, Repr

/-- A name as it is shown in messages. -/
def Name.shown : Name → String
  | text s => String.ofList (Quoted.encode s.toList)
  | other shown => shown

/-- The text that is given as a name. -/
def Name.text? : Name → Option String
  | text s => some s
  | other _ => none

instance : Coe String Name := ⟨.text⟩

/-- The names of a way of writing and of a set of glyphs. -/
structure Config where
  mode : Name := .text "simple"
  glyphs : Name := .text "modern"
deriving DecidableEq, Repr

/-- A name that means nothing. -/
inductive Fault where
  | unknownMode (name : Name)
  | unknownGlyphs (name : Name)
deriving DecidableEq, Repr

/-- What is said about a name that means nothing. -/
def Fault.message : Fault → String
  | unknownMode name => name.shown ++ " is not a valid NumeralMode"
  | unknownGlyphs name => name.shown ++ " is not a valid NumeralCharMode"

namespace Config

/-- The way of writing that is named. -/
def mode? (c : Config) : Except Fault Mode :=
  match c.mode.text?.bind Mode.ofName? with
  | some m => .ok m
  | none => .error (.unknownMode c.mode)

/-- The glyphs that are named. -/
def glyphs? (c : Config) : Except Fault Glyphs :=
  match c.glyphs.text?.bind Glyphs.ofName? with
  | some g => .ok g
  | none => .error (.unknownGlyphs c.glyphs)

end Config

/-- How many characters of a text go on a number; a separator may come first only if
`separable`. -/
def numberLength (separable : Bool) : Text → Nat
  | [] => 0
  | c :: s =>
      if c.isDigit then numberLength true s + 1
      else if separable && (c == '.' || c == ',') then numberLength false s + 1
      else 0

/-- The number that begins with a character. -/
def numberAt? (c : Char) (s : Text) : Option (Nat × Text) :=
  if c.isDigit then
    let n := numberLength true s
    some (n, c :: s.take n)
  else none

/-- A number of a text without its commas, written as `c` says. -/
def writeNumber (c : Config) (number : Text) : Except Fault Text := do
  let mode ← c.mode?
  let g ← c.glyphs?
  return write mode g (number.filter (· ≠ ','))

/-- A piece of a text, with its number written. -/
def convertPiece (c : Config) : Piece Text → Except Fault Text
  | .kept ch => .ok [ch]
  | .taken number => writeNumber c number

/-- The text with all its numbers written. -/
def convert (c : Config) (text : Text) : Except Fault Text := do
  let parts ← (pieces numberAt? text).mapM (convertPiece c)
  return parts.flatten

/-- A text that is taken as one number and written in a given way; only the glyphs are
looked up by name. -/
def convertAs (mode : Mode) (c : Config) (text : Text) : Except Fault Text := do
  let g ← c.glyphs?
  return write mode g text

end JapaneseProse.Numeral
