import JapaneseProse.Encoding.Utf8

/-!
# UTF-16 and UTF-32

Code units of two or four bytes, the highest or the lowest byte first.  In UTF-16 a
character beyond the first plane takes two units, a high and a low surrogate; a surrogate
that stands alone is a fault, and so are bytes that make up no whole unit.
-/

namespace JapaneseProse.Encoding

/-- Which byte of a code unit comes first. -/
inductive ByteOrder where
  | highFirst
  | lowFirst
deriving DecidableEq, Repr

/-- The number that bytes stand for, the highest first. -/
def ofHighFirst (bytes : Bytes) : Nat := bytes.foldl (fun n b => n * 0x100 + b.toNat) 0

/-- The number that the bytes of a code unit stand for. -/
def unitOf (order : ByteOrder) (bytes : Bytes) : Nat :=
  match order with
  | .highFirst => ofHighFirst bytes
  | .lowFirst => ofHighFirst bytes.reverse

/-- The character of a code point; surrogates have none. -/
def scalar? (n : Nat) : Option Char :=
  if n < 0xD800 ∨ (0xDFFF < n ∧ n < 0x110000) then some (Char.ofNat n) else none

/-- The code point of two surrogates. -/
def ofSurrogates? (high low : Nat) : Option Nat :=
  if 0xD800 ≤ high ∧ high < 0xDC00 ∧ 0xDC00 ≤ low ∧ low < 0xE000 then
    some (0x10000 + (high - 0xD800) * 0x400 + (low - 0xDC00))
  else none

/-- The character that begins with a byte in UTF-16. -/
def Utf16.step (order : ByteOrder) : Step := fun a bs =>
  match bs with
  | [] => (none, 0)
  | b :: rest =>
      let unit := unitOf order [a, b]
      match scalar? unit, rest with
      | some c, _ => (some c, 1)
      | none, c :: d :: _ =>
          match ofSurrogates? unit (unitOf order [c, d]) with
          | some n => (scalar? n, 3)
          | none => (none, 1)
      | none, _ => (none, 1)

/-- The character that begins with a byte in UTF-32. -/
def Utf32.step (order : ByteOrder) : Step := fun a bs =>
  match bs with
  | b :: c :: d :: _ => (scalar? (unitOf order [a, b, c, d]), 3)
  | _ => (none, bs.length)

/-- The form of Unicode in which a text that begins with ASCII characters is given.  Zeros
among the first bytes tell the size of the code units and their order. -/
def unicodeStep : Bytes → Step
  | [a, b] =>
      if a = 0 then Utf16.step .highFirst
      else if b = 0 then Utf16.step .lowFirst
      else Utf8.step
  | a :: b :: c :: d :: _ =>
      if a = 0 then if b = 0 then Utf32.step .highFirst else Utf16.step .highFirst
      else if b = 0 then
        if c = 0 ∧ d = 0 then Utf32.step .lowFirst else Utf16.step .lowFirst
      else Utf8.step
  | _ => Utf8.step

end JapaneseProse.Encoding
