import JapaneseProse.Text.Integer
import JapaneseProse.Text.Lines
import JapaneseProse.Text.Quoted

/-!
# Grammars of command lines

A command line holds options and at most one kind of other argument.  An option has one
or more names; a long name may be shortened as long as it stays unambiguous, and a value
may follow after a space or an equals sign, or directly after a short name.  A double dash
that is joined to an option in this way gives it no value; a double dash that stands alone
ends the options.  Options that are not known, and arguments that are left over, are
returned to the caller.
-/

namespace JapaneseProse.CommandLine

/-- What an option does with the value after it. -/
inductive Argument where
  /-- There is none, and the help text is asked for. -/
  | help
  /-- There is none. -/
  | absent
  /-- Any text. -/
  | text
  /-- One of some words. -/
  | choice (words : List String)
  /-- A whole number. -/
  | integer
deriving DecidableEq, Repr

/-- An option: its names, and its value. -/
structure Flag where
  names : List String
  argument : Argument
deriving DecidableEq, Repr

/-- The names of an option in messages. -/
def Flag.label (f : Flag) : String := "/".intercalate f.names

/-- Whether an option is followed by a value. -/
def Flag.takesValue (f : Flag) : Bool :=
  match f.argument with
  | .help => false
  | .absent => false
  | _ => true

/-- The arguments that are no options. -/
inductive Positional where
  /-- There are none. -/
  | nothing
  /-- A single word. -/
  | word (name : String)
  /-- One of some commands, and all that follows it. -/
  | command (name : String) (words : List String)
deriving DecidableEq, Repr

/-- The name of the arguments that are no options. -/
def Positional.name? : Positional → Option String
  | nothing => none
  | word name => some name
  | command name _ => some name

/-- The options and other arguments that a program understands. -/
structure Grammar where
  program : String
  flags : List Flag
  positional : Positional

/-- A reason to stop before the program has begun. -/
inductive Stop where
  | help
  | usage (program : String) (message : Text)
deriving DecidableEq, Repr

/-- The status with which a program stops. -/
def Stop.status : Stop → Nat
  | help => 0
  | usage _ _ => 2

/-- What is said when a program stops, without the hints on its usage. -/
def Stop.message : Stop → Text
  | help => []
  | usage program message => (program ++ ": error: ").toList ++ message ++ ['\n']

/-- The last line of what is said when a program stops. -/
def Stop.lastLine (s : Stop) : Text := (displayedLines s.message).getLast?.getD []

/-- What a command line says: the options in order, each with its value if it has one, the
other arguments, and what is left over. -/
structure Parsed where
  given : List (Flag × Option Text) := []
  positional : Option (List Text) := none
  extras : List Text := []

namespace Parsed

/-- The values that an option was given, in order, with `none` where it was given none. -/
def values (p : Parsed) (name : String) : List (Option Text) :=
  (p.given.filter fun g => g.1.names.contains name).map Prod.snd

/-- What an option was given the last time it was used. -/
def last? (p : Parsed) (name : String) : Option (Option Text) := (p.values name).getLast?

/-- The value that an option was given the last time it was used. -/
def value? (p : Parsed) (name : String) : Option Text := (p.last? name).join

/-- Whether an option was given. -/
def has (p : Parsed) (name : String) : Bool := !(p.values name).isEmpty

end Parsed

/-! ### Options and arguments told apart -/

/-- An option as it is used: the option, the name used, and the text joined to it. -/
structure Use where
  flag : Flag
  name : Text
  joined : Option Text
deriving DecidableEq, Repr

/-- A part of a command line. -/
inductive Token where
  | doubleDash
  | argument (s : Text)
  | option (s : Text) (use : Option Use)
deriving DecidableEq, Repr

namespace Token

/-- The text of a part. -/
def text : Token → Text
  | doubleDash => ['-', '-']
  | argument s => s
  | option s _ => s

/-- Whether a part is an option, known or not. -/
def isOption : Token → Bool
  | option _ _ => true
  | _ => false

end Token

namespace Grammar

/-- An error in the use of a program. -/
def fail {α : Type} (g : Grammar) (message : Text) : Except Stop α :=
  .error (.usage g.program message)

/-- An error about one of the arguments. -/
def failAt {α : Type} (g : Grammar) (label : String) (message : Text) : Except Stop α :=
  g.fail (("argument " ++ label ++ ": ").toList ++ message)

/-- All names of options, each with its option. -/
def optionNames (g : Grammar) : List (Flag × Text) :=
  g.flags.flatMap fun f => f.names.map fun name => (f, name.toList)

/-- The option of a name. -/
def flag? (g : Grammar) (name : Text) : Option Flag :=
  (g.optionNames.find? fun n => n.2 == name).map Prod.fst

/-- A text cut at its first equals sign. -/
def cutAtEquals (s : Text) : Text × Option Text :=
  match s.dropWhile (· ≠ '=') with
  | _ :: value => (s.takeWhile (· ≠ '='), some value)
  | [] => (s, none)

/-- The options that a shortened long name may stand for. -/
def longUses (g : Grammar) (s : Text) : List Use :=
  let (name, value) := cutAtEquals s
  (g.optionNames.filter fun n => name.isPrefixOf n.2).map fun n => ⟨n.1, n.2, value⟩

/-- The options that a single dash with text behind it may stand for. -/
def shortUses (g : Grammar) (s : Text) : List Use :=
  g.optionNames.filterMap fun n =>
    if n.2 = s.take 2 then some ⟨n.1, n.2, some (s.drop 2)⟩
    else if s.isPrefixOf n.2 then some ⟨n.1, n.2, none⟩
    else none

/-- Whether a text is a negative number in decimal digits. -/
def isNegativeNumber (s : Text) : Bool :=
  let isDigit (c : Char) : Bool := (decimalDigit? c).isSome
  let body := s.drop 1
  let body := if body.getLast? = some '\n' then body.dropLast else body
  let whole := body.takeWhile isDigit
  match body.dropWhile isDigit with
  | [] => !whole.isEmpty
  | '.' :: fraction => !fraction.isEmpty && fraction.all isDigit
  | _ => false

/-- The option that a text stands for, or none if it is an argument.  Texts that look like
negative numbers or hold a space are arguments unless they stand for an option. -/
def classify (g : Grammar) (s : Text) : Except Stop Token :=
  match s with
  | '-' :: _ :: _ =>
      match g.flag? s with
      | some f => .ok (.option s (some ⟨f, s, none⟩))
      | none =>
          let (name, value) := cutAtEquals s
          match g.flag? name, value with
          | some f, some v => .ok (.option s (some ⟨f, name, some v⟩))
          | _, _ =>
              match if s.take 2 = ['-', '-'] then g.longUses s else g.shortUses s with
              | [use] => .ok (.option s (some use))
              | [] =>
                  if isNegativeNumber s ∨ ' ' ∈ s then .ok (.argument s)
                  else .ok (.option s none)
              | uses =>
                  let names := ((uses.map Use.name).intersperse [',', ' ']).flatten
                  g.fail ("ambiguous option: ".toList ++ s ++ " could match ".toList ++ names)
  | _ => .ok (.argument s)

/-- The parts of a command line. -/
def tokens (g : Grammar) : List Text → Except Stop (List Token)
  | [] => .ok []
  | s :: rest =>
      if s = ['-', '-'] then .ok (.doubleDash :: rest.map .argument)
      else do
        let t ← g.classify s
        let ts ← g.tokens rest
        return t :: ts

end Grammar

end JapaneseProse.CommandLine
