import JapaneseProse.Json.Value

/-!
# Reading JSON texts

A JSON text is read from left to right, and the first fault is reported with the place
where it was noticed.  Besides the standard grammar, the names of the infinities and of
the value that is no number are read as numbers.

Strings are read code point by code point (`readCodePoints`).  If half of a pair stands alone in
one of them, it is no text of characters, and then the value is not taken (`read`).
-/

namespace JapaneseProse.Json

/-- What can be wrong with a JSON text. -/
inductive Cause where
  | byteOrderMark
  | valueExpected
  | nameExpected
  | colonExpected
  | commaExpected
  | extraData
  | unterminatedString
  | invalidEscape
  | invalidCodeEscape
  | controlCharacter
  /-- Half of a pair stands alone in a string, which is no text of characters then. -/
  | loneHalf
deriving DecidableEq, Repr

/-- What is said about a fault. -/
def Cause.message : Cause → String
  | byteOrderMark => "Unexpected UTF-8 BOM (decode using utf-8-sig)"
  | valueExpected => "Expecting value"
  | nameExpected => "Expecting property name enclosed in double quotes"
  | colonExpected => "Expecting ':' delimiter"
  | commaExpected => "Expecting ',' delimiter"
  | extraData => "Extra data"
  | unterminatedString => "Unterminated string starting at"
  | invalidEscape => "Invalid \\escape"
  | invalidCodeEscape => "Invalid \\uXXXX escape"
  | controlCharacter => "Invalid control character at"
  | loneHalf => "Half of a pair alone"

/-- A fault and the index of the character where it was noticed. -/
structure SyntaxFault where
  cause : Cause
  position : Nat
deriving DecidableEq, Repr

/-- The number of the line of a position, from one. -/
def lineOf (text : Text) (position : Nat) : Nat := (text.take position).count '\n' + 1

/-- The number of the column of a position, from one. -/
def columnOf (text : Text) (position : Nat) : Nat :=
  ((text.take position).reverse.takeWhile (· ≠ '\n')).length + 1

/-- What is said about a fault in a text, with its place. -/
def SyntaxFault.message (text : Text) (f : SyntaxFault) : String :=
  let line := toString (lineOf text f.position)
  let column := toString (columnOf text f.position)
  s!"{f.cause.message}: line {line} column {column} (char {toString f.position})"

/-- The rest of a text that is being read, and the index at which it begins. -/
structure Cursor where
  rest : Text
  position : Nat
deriving Repr

namespace Cursor

/-- The cursor some characters later. -/
def advance (c : Cursor) (n : Nat) : Cursor := ⟨c.rest.drop n, c.position + n⟩

/-- A fault noticed at the cursor. -/
def fault {α : Type} (c : Cursor) (cause : Cause) : Except SyntaxFault α :=
  .error ⟨cause, c.position⟩

/-- Whether a character is white space. -/
def isSpace (c : Char) : Bool := c == ' ' || c == '\t' || c == '\n' || c == '\r'

/-- The cursor behind white space. -/
def skipSpace (c : Cursor) : Cursor := c.advance (c.rest.takeWhile isSpace).length

end Cursor

/-! ### Strings -/

/-- The value of a hexadecimal digit. -/
def hexDigit? (c : Char) : Option Nat :=
  if '0' ≤ c ∧ c ≤ '9' then some (c.toNat - '0'.toNat)
  else if 'a' ≤ c ∧ c ≤ 'f' then some (c.toNat - 'a'.toNat + 10)
  else if 'A' ≤ c ∧ c ≤ 'F' then some (c.toNat - 'A'.toNat + 10)
  else none

/-- The value of four hexadecimal digits. -/
def hexCode? (a b c d : Char) : Option Nat := do
  let a ← hexDigit? a
  let b ← hexDigit? b
  let c ← hexDigit? c
  let d ← hexDigit? d
  return a * 0x1000 + b * 0x100 + c * 0x10 + d

/-- The code point of a number; the numbers of halves of pairs are those of no character. -/
def CodePoint.ofNat (n : Nat) : CodePoint :=
  if h : 0xD800 ≤ n ∧ n < 0xD800 + 0x800 then .half ⟨n - 0xD800, by omega⟩ else .char (Char.ofNat n)

/-- The character that a letter stands for behind a backslash. -/
def escapedChar? : Char → Option Char
  | '"' => some '"'
  | '\\' => some '\\'
  | '/' => some '/'
  | 'b' => some '\x08'
  | 'f' => some '\x0c'
  | 'n' => some '\n'
  | 'r' => some '\r'
  | 't' => some '\t'
  | _ => none

/-- The low half of a pair that is written as an escape at the head of a text, if more
text follows it. -/
def lowHalf? : Text → Option (Except Unit Nat)
  | '\\' :: 'u' :: a :: b :: c :: d :: _ :: _ =>
      match hexCode? a b c d with
      | none => some (.error ())
      | some n => some (.ok n)
  | _ => none

/-- The code point of an escape and the number of characters behind its backslash; a fault
comes with its distance from the backslash. -/
def readEscape : Text → Except (Cause × Nat) (CodePoint × Nat)
  | 'u' :: a :: b :: c :: d :: e :: rest =>
      match hexCode? a b c d with
      | none => .error (.invalidCodeEscape, 1)
      | some n =>
          if 0xD800 ≤ n ∧ n ≤ 0xDBFF then
            match lowHalf? (e :: rest) with
            | some (.error _) => .error (.invalidCodeEscape, 7)
            | some (.ok m) =>
                if 0xDC00 ≤ m ∧ m ≤ 0xDFFF then
                  .ok (.ofNat (0x10000 + (n - 0xD800) * 0x400 + (m - 0xDC00)), 11)
                else .ok (.ofNat n, 5)
            | none => .ok (.ofNat n, 5)
          else .ok (.ofNat n, 5)
  | 'u' :: _ => .error (.invalidCodeEscape, 1)
  | c :: _ =>
      match escapedChar? c with
      | some e => .ok (.char e, 1)
      | none => .error (.invalidEscape, 0)
  | [] => .error (.invalidEscape, 0)

/-- The code points of a string up to its closing quote, from index `i` on after `skip`
more characters; `start` is the index of its opening quote, and `acc` holds the
code points so far, the last one first. -/
def readStringBody (start : Nat) (acc : List CodePoint) (i : Nat) :
    (skip : Nat) → Text → Except SyntaxFault (List CodePoint × Cursor)
  | _, [] => .error ⟨.unterminatedString, start⟩
  | skip + 1, _ :: rest => readStringBody start acc (i + 1) skip rest
  | 0, '"' :: rest => .ok (acc.reverse, ⟨rest, i + 1⟩)
  | 0, '\\' :: rest =>
      if rest.isEmpty then .error ⟨.unterminatedString, start⟩
      else
        match readEscape rest with
        | .ok (c, more) => readStringBody start (c :: acc) (i + 1) more rest
        | .error (cause, distance) => .error ⟨cause, i + distance⟩
  | 0, c :: rest =>
      if c.toNat < 0x20 then .error ⟨.controlCharacter, i⟩
      else readStringBody start (.char c :: acc) (i + 1) 0 rest

/-- A string whose opening quote is the character before the cursor. -/
def readString (c : Cursor) : Except SyntaxFault (List CodePoint × Cursor) :=
  readStringBody (c.position - 1) [] c.position 0 c.rest

/-! ### Numbers -/

/-- The number of digits at the head of a text. -/
def digitCount (s : Text) : Nat := (s.takeWhile Char.isDigit).length

/-- The value of a row of digits. -/
def digitsValue (s : Text) : Nat := s.foldl (fun n c => n * 10 + (c.toNat - '0'.toNat)) 0

/-- The length of the whole part at the head of a text: one zero, or digits that do not
begin with one. -/
def wholeLength (s : Text) : Nat :=
  match s with
  | '0' :: _ => 1
  | _ => digitCount s

/-- The length of a point with digits behind it at the head of a text. -/
def fractionLength : Text → Nat
  | '.' :: s => if digitCount s = 0 then 0 else digitCount s + 1
  | _ => 0

/-- The length of an exponent at the head of a text. -/
def exponentLength : Text → Nat
  | e :: s =>
      if e = 'e' ∨ e = 'E' then
        let signed := match s with
          | '+' :: _ => 1
          | '-' :: _ => 1
          | _ => 0
        let n := digitCount (s.drop signed)
        if n = 0 then 0 else n + signed + 1
      else 0
  | [] => 0

/-- The value of an exponent with its letter. -/
def exponentValue : Text → Int
  | _ :: '-' :: s => -(digitsValue s : Int)
  | _ :: '+' :: s => digitsValue s
  | _ :: s => digitsValue s
  | [] => 0

/-- The number at the head of a text, without its sign, and its length. -/
def number? (negative : Bool) (s : Text) : Option (Number × Nat) :=
  let w := wholeLength s
  if w = 0 then none
  else
    let whole := s.take w
    let f := fractionLength (s.drop w)
    let fraction := (s.drop w).take f
    let e := exponentLength (s.drop (w + f))
    let exponent := (s.drop (w + f)).take e
    if f = 0 ∧ e = 0 then
      let n : Int := digitsValue whole
      some (.integer (if negative then -n else n), w)
    else
      let places : Nat := f - 1
      let d : Decimal :=
        ⟨negative, digitsValue (whole ++ fraction.drop 1), exponentValue exponent - places⟩
      some (.floating d.toBinary64, w + f + e)

/-! ### Values -/

/-- The values that are written as a word. -/
def words : List (Text × Value CodePoint) :=
  [(['n', 'u', 'l', 'l'], .null),
    (['t', 'r', 'u', 'e'], .bool true),
    (['f', 'a', 'l', 's', 'e'], .bool false),
    (['N', 'a', 'N'], .number (.floating .notANumber)),
    (['I', 'n', 'f', 'i', 'n', 'i', 't', 'y'], .number (.floating (.infinite false))),
    (['-', 'I', 'n', 'f', 'i', 'n', 'i', 't', 'y'], .number (.floating (.infinite true)))]

/-- The value that is not a string, an array or an object at the cursor. -/
def readScalar (c : Cursor) : Except SyntaxFault (Value CodePoint × Cursor) :=
  match words.find? fun w => w.1.isPrefixOf c.rest with
  | some (word, v) => .ok (v, c.advance word.length)
  | none =>
      let read := match c.rest with
        | '-' :: s => (number? true s).map fun (n, l) => (n, l + 1)
        | s => number? false s
      match read with
      | some (n, l) => .ok (.number n, c.advance l)
      | none => c.fault .valueExpected

mutual

/-- The value at the cursor; `fuel` bounds the depth and the number of values. -/
def readValue : (fuel : Nat) → Cursor → Except SyntaxFault (Value CodePoint × Cursor)
  | 0, c => c.fault .valueExpected
  | fuel + 1, c =>
      match c.rest with
      | '"' :: _ => do
          let (s, c) ← readString (c.advance 1)
          return (.string s, c)
      | '[' :: _ =>
          let inside := (c.advance 1).skipSpace
          match inside.rest with
          | ']' :: _ => .ok (.array [], inside.advance 1)
          | _ => do
              let (items, c) ← readItems fuel inside
              return (.array items, c)
      | '{' :: _ =>
          let inside := (c.advance 1).skipSpace
          match inside.rest with
          | '}' :: _ => .ok (.object [], inside.advance 1)
          | _ => do
              let (members, c) ← readMembers fuel inside
              return (.object (Members.ofList members), c)
      | _ => readScalar c

/-- The items of an array from the cursor to its closing bracket. -/
def readItems : (fuel : Nat) → Cursor → Except SyntaxFault (List (Value CodePoint) × Cursor)
  | 0, c => c.fault .valueExpected
  | fuel + 1, c => do
      let (v, c) ← readValue fuel c
      let c := c.skipSpace
      match c.rest with
      | ']' :: _ => return ([v], c.advance 1)
      | ',' :: _ =>
          let (vs, c) ← readItems fuel (c.advance 1).skipSpace
          return (v :: vs, c)
      | _ => c.fault .commaExpected

/-- The members of an object from the cursor to its closing brace. -/
def readMembers : (fuel : Nat) → Cursor → Except SyntaxFault (Members CodePoint × Cursor)
  | 0, c => c.fault .nameExpected
  | fuel + 1, c =>
      match c.rest with
      | '"' :: _ => do
          let (name, c) ← readString (c.advance 1)
          let c := c.skipSpace
          match c.rest with
          | ':' :: _ =>
              let (v, c) ← readValue fuel (c.advance 1).skipSpace
              let c := c.skipSpace
              match c.rest with
              | '}' :: _ => return ([(name, v)], c.advance 1)
              | ',' :: _ =>
                  let (members, c) ← readMembers fuel (c.advance 1).skipSpace
                  return ((name, v) :: members, c)
              | _ => c.fault .commaExpected
          | _ => c.fault .colonExpected
      | _ => c.fault .nameExpected

end

/-- The value of a JSON text, with strings of code points. -/
def readCodePoints (text : Text) : Except SyntaxFault (Value CodePoint) :=
  match text with
  | '\uFEFF' :: _ => .error ⟨.byteOrderMark, 0⟩
  | _ => do
      let (v, c) ← readValue (3 * text.length + 3) (Cursor.skipSpace ⟨text, 0⟩)
      let c := c.skipSpace
      match c.rest with
      | [] => return v
      | _ => c.fault .extraData

/-- The value of a JSON text, with strings of characters; that half of a pair stands alone is
noticed at the end. -/
def read (text : Text) : Except SyntaxFault Value := do
  let v ← readCodePoints text
  match v.characters? with
  | some v => return v
  | none => .error ⟨.loneHalf, text.length⟩

end JapaneseProse.Json
