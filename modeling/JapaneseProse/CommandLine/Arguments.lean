import JapaneseProse.CommandLine.Parsing
import JapaneseProse.Engine.Fault
import JapaneseProse.Profile.Reader

/-!
# Arguments of the program

The program converts or lints one text.  A profile may be given as a JSON text; toggles
that are switched off one by one and the way numbers are written go before it.
-/

namespace JapaneseProse.CommandLine

open Engine (Task)

/-- What the program is told to do. -/
structure Arguments where
  logLevel : Option Text
  task : Task
  input : Text
  profile : Option Text
  disabled : List (Option Text)
  mode : Option Numeral.Mode
  glyphs : Option Numeral.Glyphs
  output : Option Text
  asJson : Bool

namespace Arguments

/-- The option that asks for the help text. -/
def helpFlag : Flag := ⟨["-h", "--help"], .help⟩

/-- What stands in front of the command. -/
def mainGrammar : Grammar where
  program := "jandent"
  flags := [helpFlag, ⟨["--log-level"], .text⟩]
  positional := .command "command" [Task.convert.name, Task.lint.name]

/-- The options of both commands. -/
def commonFlags : List Flag :=
  [helpFlag, ⟨["--options"], .text⟩, ⟨["--disable"], .text⟩,
    ⟨["--numeral-mode"], .choice (Numeral.Mode.all.map Numeral.Mode.name)⟩,
    ⟨["--numeral-char-mode"], .choice (Numeral.Glyphs.all.map Numeral.Glyphs.name)⟩]

/-- The options of a command alone. -/
def ownFlags : Task → List Flag
  | .convert => [⟨["-o", "--output"], .text⟩]
  | .lint => [⟨["--json"], .absent⟩]

/-- What stands behind a command. -/
def taskGrammar (task : Task) : Grammar where
  program := "jandent " ++ task.name
  flags := commonFlags ++ ownFlags task
  positional := .word "input"

/-- A text that is not empty. -/
def nonempty? : Option Text → Option Text
  | some (c :: s) => some (c :: s)
  | _ => none

/-- The arguments that a command line stands for. -/
def parse (arguments : List Text) : Except Stop Arguments := do
  let before ← mainGrammar.parseKnown arguments
  let command := (before.positional.getD []).headD []
  let task := (Task.ofName? (String.ofList command)).getD .convert
  let behind ← (taskGrammar task).parseKnown ((before.positional.getD []).drop 1)
  mainGrammar.refuseExtras (before.extras ++ behind.extras)
  let named (name : String) : Option String := (behind.value? name).map String.ofList
  return {
    logLevel := before.value? "--log-level"
    task := task
    input := (behind.positional.getD []).headD []
    profile := nonempty? (behind.value? "--options")
    disabled := behind.values "--disable"
    mode := (named "--numeral-mode").bind Numeral.Mode.ofName?
    glyphs := (named "--numeral-char-mode").bind Numeral.Glyphs.ofName?
    output := nonempty? (behind.value? "--output")
    asJson := behind.has "--json" }

/-! ### The profile -/

/-- How an option that was given no value is spoken of: as an empty list. -/
def noValue : String := "[]"

/-- The profile with toggles switched off by name. -/
def disableAll (p : Profile) : List (Option Text) → Except Engine.Fault Profile
  | [] => .ok p
  | none :: _ => .error (.unknownOption noValue)
  | some name :: names =>
      match Toggle.ofName? (String.ofList name) with
      | some t => disableAll (p.disable t) names
      | none => .error (.unknownOption (String.ofList name))

/-- The profile with another way of writing numbers, if one is given. -/
def withNumerals (a : Arguments) (p : Profile) : Profile :=
  { p with mode := a.mode.getD p.mode, glyphs := a.glyphs.getD p.glyphs }

end Arguments

end JapaneseProse.CommandLine
