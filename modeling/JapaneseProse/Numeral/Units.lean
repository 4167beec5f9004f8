import JapaneseProse.Text.Basic

/-!
# Units of numerals

Digits are grouped by four.  Inside a group the places have the units ten, hundred and
thousand; each group above the lowest has a unit of its own, a power of ten thousand.
There are sixteen of these, and higher groups begin again with the first.
-/

namespace JapaneseProse.Numeral

/-- The unit of a place inside a group of four; the lowest has none. -/
def placeUnit : Nat → Text
  | 1 => ['十']
  | 2 => ['百']
  | 3 => ['千']
  | _ => []

/-- The units of ten thousand, its square and so on. -/
def myriadUnits : List Text :=
  [['万'], ['億'], ['兆'], ['京'], ['垓'], ['𥝱'], ['穣'], ['溝'], ['正'], ['載'], ['極'],
    ['恒', '河', '沙'], ['阿', '僧', '祇'], ['那', '由', '他'], ['不', '可', '思', '議'],
    ['無', '量', '大', '数']]

/-- The unit of a group of four, counted from the lowest, which has none. -/
def groupUnit : Nat → Text
  | 0 => []
  | g + 1 => myriadUnits.getD (g % myriadUnits.length) []

/-- A list cut into lists of four, the last of them perhaps shorter. -/
def chunksOfFour {α : Type} : List α → List (List α)
  | a :: b :: c :: d :: rest => [a, b, c, d] :: chunksOfFour rest
  | [] => []
  | short => [short]

/-- The groups of four digits of a number, the lowest group first. -/
def groupsOfFour (digits : Text) : List Text :=
  (chunksOfFour digits.reverse).map List.reverse

end JapaneseProse.Numeral
