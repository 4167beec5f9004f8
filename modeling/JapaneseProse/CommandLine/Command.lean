import JapaneseProse.CommandLine.Arguments
import JapaneseProse.Encoding.Detection
import JapaneseProse.Engine.Answer
import JapaneseProse.Log
import JapaneseProse.Report

/-!
# The commands

A command sets up the log, builds the engine, reads the text and writes what comes of it.
The engine is built before the text is read, so what is wrong with the arguments is told
before what is wrong with the files.
-/

namespace JapaneseProse.CommandLine

open Log (Journal Record)

/-- What can go wrong with a command. -/
inductive CommandFault where
  | refusal (r : Profile.Refusal)
  | engine (f : Engine.Fault)
  | file (f : FileFault)
deriving DecidableEq, Repr

/-- What is said about a fault. -/
def CommandFault.message : CommandFault → Text
  | refusal r => r.message.toList
  | engine f => f.message.toList
  | file f => f.message

/-- How a command ends: its status, and what it has written. -/
structure Outcome where
  status : Nat
  output : Text
  journal : Journal

/-- Why the program ends before a command is carried out. -/
inductive Abort where
  | stop (s : Stop)
  /-- The log file cannot be opened. -/
  | logFile (f : FileFault)
deriving DecidableEq, Repr

/-- The engine that arguments ask for, if the profile is read by some validation. -/
def Arguments.engineBy? (V : Profile.Validation) (a : Arguments) : Except CommandFault Engine := do
  let base ← match a.profile with
    | some text => (Profile.readBy V text).mapError .refusal
    | none => .ok .empty
  let p ← (disableAll base a.disabled).mapError .engine
  (a.withNumerals p).engine?.mapError .engine

/-- The engine that arguments ask for. -/
def Arguments.engine? (a : Arguments) : Except CommandFault Engine := a.engineBy? Profile.validation

/-- The record of a conversion. -/
def conversionRecord (text out : Text) : Record :=
  let lines := toString (splitLines text).length
  let sizes := toString text.length ++ " -> " ++ toString out.length
  ⟨Log.debugLevel, "jandent.formatting.fixer",
    ("converted " ++ lines ++ " lines (" ++ sizes ++ " chars)").toList⟩

/-- The record of a linting. -/
def lintRecord (text : Text) (findings : List Finding) : Record :=
  let lines := toString (splitLines text).length
  ⟨Log.debugLevel, "jandent.formatting.fixer",
    ("linted " ++ lines ++ " lines, " ++ toString findings.length ++ " findings").toList⟩

/-- The record of a file that was written. -/
def writeRecord (path : Text) : Record :=
  ⟨Log.infoLevel, "jandent.cli", "wrote ".toList ++ path⟩

/-- Findings as they are printed. -/
def printFindings (a : Arguments) (findings : List Finding) : Text :=
  if a.asJson then Json.writeIndented 0 (Finding.listToJson findings) ++ ['\n']
  else findings.flatMap (Finding.toLine (String.ofList a.input))

section

variable {m : Type → Type} [Monad m] (host : Host m)

/-- The text that arguments name; a single dash is the standard input. -/
def readText (a : Arguments) : m (Except CommandFault Text) := do
  if a.input = ['-'] then return .ok (Encoding.decode (← host.readInput))
  else return ((← host.read a.input).mapError CommandFault.file).map Encoding.decode

/-- A text converted, and written to a file or to the output. -/
def convertCommand (a : Arguments) (engine : Engine) (text : Text) (j : Journal) :
    m (Except CommandFault Outcome × Journal) := do
  match engine.convert text with
  | .error f => return (.error (.engine f), j)
  | .ok out =>
      let j := j.log (conversionRecord text out)
      match a.output with
      | none => return (.ok ⟨0, out, j⟩, j)
      | some path =>
          match ← host.write path out with
          | .error f => return (.error (.file f), j)
          | .ok () => return (.ok ⟨0, [], j.log (writeRecord path)⟩, j)

/-- The findings of a text printed; the status says whether there are any. -/
def lintCommand (a : Arguments) (engine : Engine) (text : Text) (j : Journal) :
    Except CommandFault Outcome :=
  match engine.lint text with
  | .error f => .error (.engine f)
  | .ok findings =>
      .ok ⟨if findings.isEmpty then 0 else 1, printFindings a findings,
        j.log (lintRecord text findings)⟩

/-- A command carried out, with the journal so far if it fails. -/
def carryOut (a : Arguments) (j : Journal) : m (Except CommandFault Outcome × Journal) := do
  match a.engine? with
  | .error f => return (.error f, j)
  | .ok engine =>
      match ← readText host a with
      | .error f => return (.error f, j)
      | .ok text =>
          match a.task with
          | .convert => convertCommand host a engine text j
          | .lint => return (lintCommand a engine text j, j)

/-- The outcome of a command that failed. -/
def failed (f : CommandFault) (j : Journal) : Outcome :=
  ⟨2, [], j.say ("jandent: error: ".toList ++ f.message ++ ['\n'])⟩

/-- The directory of the log file that the environment names. -/
def logDirectory? (env : Environment) : Option Text :=
  match env.text "JANDENT_LOG_DIR" [] with
  | [] => none
  | s => some s

/-- The program run on a command line. -/
def run (env : Environment) (workingDirectory : List Text) (arguments : List Text) :
    m (Except Abort Outcome) := do
  match Arguments.parse arguments with
  | .error stop => return .error (.stop stop)
  | .ok a =>
      let setup : Log.Setup := ⟨a.logLevel, logDirectory? env, true⟩
      match ← Log.open? host env workingDirectory setup { } with
      | .error fault => return .error (.logFile fault)
      | .ok (j, file) =>
          let outcome := match ← carryOut host a j with
            | (.ok outcome, _) => outcome
            | (.error f, j) => failed f j
          if let some path := file then host.append path outcome.journal.fileText
          return .ok outcome

end

end JapaneseProse.CommandLine
