import JapaneseProse.Encoding.Utf8
import JapaneseProse.Json.Reader
import JapaneseProse.Text.Pieces

/-!
# Addresses

An address has a scheme, a host and a path, of which the first two may be missing.  An
address without scheme or host is seen from the root of the service.  Steps to the same
place and steps back are carried out, and bytes that are written in hexadecimal digits
behind a percent sign are put in.  A text with control characters is no address.
-/

namespace JapaneseProse.Service

/-- An address without its query. -/
structure Address where
  scheme : Text
  host : Text
  path : Text
deriving DecidableEq, Repr

namespace Address

/-- The largest number of characters of an address. -/
def longest : Nat := 65536

/-- The scheme of a text and what stands behind it.  A scheme is a letter and further
letters, digits and signs, in front of a colon. -/
def cutScheme (s : Text) : Text × Text :=
  let isPart (c : Char) : Bool := c.isAlphanum || c == '+' || c == '.' || c == '-'
  match s, s.dropWhile isPart with
  | c :: _, ':' :: rest => if c.isAlpha then (s.takeWhile isPart, rest) else ([], s)
  | _, _ => ([], s)

/-- The host behind two slashes, and what stands behind it. -/
def cutHost : Text → Text × Text
  | '/' :: '/' :: s => (s.takeWhile (· ≠ '/'), s.dropWhile (· ≠ '/'))
  | s => ([], s)

/-- The address that a text stands for.  Without scheme and host, a path may begin neither
with two slashes nor with a colon. -/
def ofText? (s : Text) : Option Address :=
  let (scheme, rest) := cutScheme (s.takeWhile fun c => c ≠ '?' ∧ c ≠ '#')
  let (host, path) := cutHost rest
  let isRefused := longest < s.length || s.any fun c => c.toNat < 0x20 || c.toNat = 0x7F
  let isAmbiguous := scheme.isEmpty && host.isEmpty &&
    (['/', '/'].isPrefixOf path || [':'].isPrefixOf path)
  if isRefused || isAmbiguous then none else some ⟨scheme, host, path⟩

/-- The path of an address, seen from the root of the service. -/
def fullPath (a : Address) : Text :=
  if a.scheme.isEmpty || a.host.isEmpty then '/' :: a.path.dropWhile (· == '/') else a.path

/-- Names with the steps to the same place and the steps back carried out; a step back
does not go behind the root. -/
def carryOut (done : List Text) : List Text → List Text
  | [] => done
  | name :: names =>
      if name = ['.'] then carryOut done names
      else if name = ['.', '.'] then
        carryOut (if done = [] ∨ done = [[]] then done else done.dropLast) names
      else carryOut (done ++ [name]) names

/-- The bytes of a text, with those that are written behind percent signs put in. -/
def percentBytes : Text → Encoding.Bytes
  | [] => []
  | '%' :: a :: b :: s =>
      match Json.hexDigit? a, Json.hexDigit? b with
      | some x, some y => UInt8.ofNat (x * 16 + y) :: percentBytes s
      | _, _ => (String.ofList ['%']).toUTF8.toList ++ percentBytes (a :: b :: s)
  | c :: s => (String.ofList [c]).toUTF8.toList ++ percentBytes s

/-- A text with the bytes behind percent signs put in. -/
def unescape (s : Text) : Text := Encoding.textReplacing Encoding.Utf8.step (percentBytes s)

/-- The path that is asked for at an address.  What is put in for percent signs may hold
percent signs itself; these are read once more. -/
def target (a : Address) : Text :=
  let names := carryOut [] (splitAtSlashes a.fullPath)
  unescape (unescape (names.intersperse ['/']).flatten)

end Address

end JapaneseProse.Service
