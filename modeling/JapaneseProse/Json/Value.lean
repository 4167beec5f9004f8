import JapaneseProse.Json.Number
import JapaneseProse.Text.Basic

/-!
# JSON values

The members of an object have an order, and no name occurs twice: a member that comes
again keeps its first place and takes its last value.

In a JSON text half of a pair can be escaped alone, so what is read at first are strings of
code points.  A value without such halves is one with strings of characters.
-/

namespace JapaneseProse.Json

/-- What a string in a JSON text is made of: characters, and halves of pairs that stand alone,
counted from U+D800 on. -/
inductive CodePoint where
  | char (c : Char)
  | half (n : Fin 0x800)
deriving DecidableEq, Repr

/-- The character that a code point is, unless it is half of a pair. -/
def CodePoint.character? : CodePoint → Option Char
  | char c => some c
  | half _ => none

/-- A JSON value, whose strings are made of characters unless something else is said; the members
of an object are in order. -/
inductive Value (χ : Type := Char) where
  | null
  | bool (b : Bool)
  | number (n : Number)
  | string (s : List χ)
  | array (items : List (Value χ))
  | object (members : List (List χ × Value χ))
deriving Inhabited

/-- Members of an object in order. -/
abbrev Members (χ : Type := Char) := List (List χ × Value χ)

section

variable {χ : Type} [DecidableEq χ]

/-- Members with one more; a name that is there already takes the new value. -/
def Members.put (members : Members χ) (name : List χ) (value : Value χ) : Members χ :=
  if members.any (·.1 == name) then
    members.map fun m => if m.1 = name then (name, value) else m
  else members ++ [(name, value)]

/-- The members of an object whose names may repeat. -/
def Members.ofList (l : List (List χ × Value χ)) : Members χ :=
  l.foldl (fun members m => Members.put members m.1 m.2) []

end

namespace Value

/-- The members of an object. -/
def members? : Value → Option Members
  | object m => some m
  | _ => none

/-- The text of a string. -/
def text? : Value → Option Text
  | string s => some s
  | _ => none

/-- The member of an object of some name. -/
def get? (v : Value) (name : String) : Option Value :=
  v.members?.bind fun m => m.lookup name.toList

/-- Whether a value counts as true: it is neither null, false, zero nor empty. -/
def isTruthy : Value → Bool
  | null => false
  | bool b => b
  | number n => !n.isZero
  | string s => !s.isEmpty
  | array items => !items.isEmpty
  | object members => !members.isEmpty

/-! ### Strings of characters -/

mutual

/-- The value with strings of characters, if no string in it has half of a pair alone. -/
def characters? : Value CodePoint → Option Value
  | null => some null
  | bool b => some (bool b)
  | number n => some (number n)
  | string s => (s.mapM CodePoint.character?).map string
  | array items => (itemCharacters? items).map array
  | object members => (memberCharacters? members).map object

/-- The items with strings of characters. -/
def itemCharacters? : List (Value CodePoint) → Option (List Value)
  | [] => some []
  | v :: vs => do return (← v.characters?) :: (← itemCharacters? vs)

/-- The members with names and strings of characters. -/
def memberCharacters? : List (List CodePoint × Value CodePoint) → Option Members
  | [] => some []
  | (name, v) :: ms => do
      return (← name.mapM CodePoint.character?, ← v.characters?) :: (← memberCharacters? ms)

end

end Value

end JapaneseProse.Json
