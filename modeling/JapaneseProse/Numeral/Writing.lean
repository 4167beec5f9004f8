import JapaneseProse.Numeral.Glyphs
import JapaneseProse.Numeral.Units

/-!
# Written numerals

A number is given by its digits, with a decimal part behind the first point.  It can be
written in three ways: digit by digit; with the units of the groups of four; or with all
units, where zeros are left out together with any unit they would carry, and a one is
left out in front of ten, hundred and thousand.
-/

namespace JapaneseProse.Numeral

/-- The ways of writing a number.  Dictated numbers are written digit by digit. -/
inductive Mode where
  | simple
  | moderate
  | verbose
  | dictate
deriving DecidableEq, Repr

namespace Mode

/-- The name of a way of writing in settings. -/
def name : Mode → String
  | simple => "simple"
  | moderate => "moderate"
  | verbose => "verbose"
  | dictate => "dictate"

/-- The ways of writing, in the order in which they are offered. -/
def all : List Mode := [simple, moderate, verbose, dictate]

/-- The way of writing of some name. -/
def ofName? (s : String) : Option Mode := all.find? fun m => m.name == s

end Mode

/-- The part of a number before its first point. -/
def integerPart (number : Text) : Text := number.takeWhile (· ≠ '.')

/-- The first point of a number and all that follows it. -/
def decimalPart (number : Text) : Text := number.dropWhile (· ≠ '.')

/-- A number digit by digit. -/
def writeSimple (g : Glyphs) (number : Text) : Text := number.map g.glyph

/-- Groups of four, the lowest at index `i` and first in the list, with their units. -/
def groupsWithUnits (i : Nat) : List Text → Text
  | [] => []
  | group :: higher => groupsWithUnits (i + 1) higher ++ (group ++ groupUnit i)

/-- A number with the units of its groups of four. -/
def writeModerate (g : Glyphs) (number : Text) : Text :=
  let digits := integerPart number
  let grouped :=
    if digits.length ≤ 4 then digits else groupsWithUnits 0 (groupsOfFour digits)
  writeSimple g (grouped ++ decimalPart number)

/-- A digit with the units of its place in a group. -/
def digitWithUnits (i place : Nat) (digit : Char) : Text :=
  if digit = '0' then []
  else
    (if digit = '1' ∧ place ≠ 0 then [] else [digit]) ++ placeUnit place ++
      (if place = 0 then groupUnit i else [])

/-- The digits of a group with all units, the lowest at `place` and first in the list. -/
def placesWithUnits (i place : Nat) : Text → Text
  | [] => []
  | digit :: higher => placesWithUnits i (place + 1) higher ++ digitWithUnits i place digit

/-- Groups of four with all units, the lowest at index `i` and first in the list. -/
def groupsWithAllUnits (i : Nat) : List Text → Text
  | [] => []
  | group :: higher => groupsWithAllUnits (i + 1) higher ++ placesWithUnits i 0 group.reverse

/-- A number with all units. -/
def writeVerbose (g : Glyphs) (number : Text) : Text :=
  writeSimple g (groupsWithAllUnits 0 (groupsOfFour (integerPart number)) ++ decimalPart number)

/-- A number written in one of the ways. -/
def write (mode : Mode) (g : Glyphs) (number : Text) : Text :=
  match mode with
  | .simple => writeSimple g number
  | .moderate => writeModerate g number
  | .verbose => writeVerbose g number
  | .dictate => writeSimple g number

end JapaneseProse.Numeral
