import JapaneseProse.Json.Shortest
import JapaneseProse.Json.Value

/-!
# Writing JSON texts

A value is written on one line, or with every item and member on a line of its own, two
spaces deeper than what holds it.  Only quotes, backslashes and control characters are
escaped.
-/

namespace JapaneseProse.Json

/-- A hexadecimal digit. -/
def hexChar (n : Nat) : Char := Nat.digitChar (n % 16)

/-- A character as it stands in a string. -/
def escapeChar (c : Char) : Text :=
  if c = '"' ∨ c = '\\' then ['\\', c]
  else if c = '\n' then ['\\', 'n']
  else if c = '\r' then ['\\', 'r']
  else if c = '\t' then ['\\', 't']
  else if c = '\x0c' then ['\\', 'f']
  else if c = '\x08' then ['\\', 'b']
  else if c.toNat < 0x20 then ['\\', 'u', '0', '0', hexChar (c.toNat / 16), hexChar c.toNat]
  else [c]

/-- A string between quotes. -/
def writeString (s : Text) : Text := '"' :: s.flatMap escapeChar ++ ['"']

/-- A whole number in decimal digits. -/
def writeInt (n : Int) : Text := (toString n).toList

/-- A number. -/
def writeNumber : Number → Text
  | .integer n => writeInt n
  | .floating x => x.toText "Infinity".toList "NaN".toList

/-- Texts with a separator between them. -/
def joinWith (separator : Text) (parts : List Text) : Text :=
  (parts.intersperse separator).flatten

mutual

/-- A value on one line. -/
def write : Value → Text
  | .null => ['n', 'u', 'l', 'l']
  | .bool true => ['t', 'r', 'u', 'e']
  | .bool false => ['f', 'a', 'l', 's', 'e']
  | .number n => writeNumber n
  | .string s => writeString s
  | .array items => '[' :: joinWith [',', ' '] (writeItems items) ++ [']']
  | .object members => '{' :: joinWith [',', ' '] (writeMembers members) ++ ['}']

/-- Values, each on one line. -/
def writeItems : List Value → List Text
  | [] => []
  | v :: vs => write v :: writeItems vs

/-- Members, each on one line. -/
def writeMembers : List (Text × Value) → List Text
  | [] => []
  | (name, v) :: ms => (writeString name ++ ':' :: ' ' :: write v) :: writeMembers ms

end

/-- A line end and the indent of some depth. -/
def lineAt (depth : Nat) : Text := '\n' :: List.replicate (2 * depth) ' '

/-- Parts between two brackets, each on a line of its own. -/
def block (opening closing : Char) (depth : Nat) (parts : List Text) : Text :=
  if parts.isEmpty then [opening, closing]
  else
    opening :: lineAt (depth + 1) ++ joinWith (',' :: lineAt (depth + 1)) parts ++
      lineAt depth ++ [closing]

mutual

/-- A value inside `depth` others, spread over lines. -/
def writeIndented (depth : Nat) : Value → Text
  | .array items => block '[' ']' depth (indentedItems (depth + 1) items)
  | .object members => block '\x7b' '\x7d' depth (indentedMembers (depth + 1) members)
  | v => write v

/-- Items inside `depth` values, spread over lines. -/
def indentedItems (depth : Nat) : List Value → List Text
  | [] => []
  | v :: vs => writeIndented depth v :: indentedItems depth vs

/-- Members inside `depth` values, spread over lines. -/
def indentedMembers (depth : Nat) : List (Text × Value) → List Text
  | [] => []
  | (name, v) :: ms =>
      (writeString name ++ ':' :: ' ' :: writeIndented depth v) :: indentedMembers depth ms

end

end JapaneseProse.Json
