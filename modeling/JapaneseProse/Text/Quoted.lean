import JapaneseProse.Text.Basic
import JapaneseProse.Text.Printable

/-!
# Quoted text

A quoted text stands between single quotes, or between double quotes if it holds a
single quote and no double quote.  Backslashes, the quote itself, line ends and tabs are
escaped by a backslash, and any other character that is not printable by its code point.
-/

namespace JapaneseProse.Quoted

/-- The lower case hexadecimal digits of a number, `width` of them. -/
def hex (width n : Nat) : Text :=
  let digits := Nat.toDigits 16 n
  List.replicate (width - digits.length) '0' ++ digits

/-- The escape of a code point: two, four or eight hexadecimal digits. -/
def escapeCode (n : Nat) : Text :=
  if n < 0x100 then '\\' :: 'x' :: hex 2 n
  else if n < 0x10000 then '\\' :: 'u' :: hex 4 n
  else '\\' :: 'U' :: hex 8 n

/-- A character as it stands between quotes. -/
def escape (quote c : Char) : Text :=
  if c = quote ∨ c = '\\' then ['\\', c]
  else if c = '\n' then ['\\', 'n']
  else if c = '\r' then ['\\', 'r']
  else if c = '\t' then ['\\', 't']
  else if isPrintable c then [c]
  else escapeCode c.toNat

/-- The quote that a text is put between. -/
def quoteFor (s : Text) : Char :=
  if '\'' ∈ s ∧ '"' ∉ s then '"' else '\''

/-- A text between quotes. -/
def encode (s : Text) : Text :=
  let q := quoteFor s
  q :: s.flatMap (escape q) ++ [q]

end JapaneseProse.Quoted
