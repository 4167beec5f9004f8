import JapaneseProse.Environment
import JapaneseProse.Files
import JapaneseProse.Text.UpperCase

/-!
# Logging

Records have a level, a source and a message.  A journal lets through the records of its
level and above and hands them to its handlers: the console, which writes to the error
output, and a log file, which takes no records below the level of information.  A journal
without handlers still writes the bare messages of warnings and above to the error output.
-/

namespace JapaneseProse.Log

/-- A record of the log. -/
structure Record where
  level : Nat
  source : String
  message : Text
deriving DecidableEq, Repr

/-- The level of debugging records. -/
def debugLevel : Nat := 10

/-- The level of information. -/
def infoLevel : Nat := 20

/-- The level of warnings. -/
def warningLevel : Nat := 30

/-- The levels by name. -/
def namedLevels : List (String × Nat) :=
  [("CRITICAL", 50), ("FATAL", 50), ("ERROR", 40), ("WARN", 30), ("WARNING", 30), ("INFO", 20),
    ("DEBUG", 10), ("NOTSET", 0)]

/-- The name of a level in log lines. -/
def levelName (level : Nat) : String :=
  if level = 50 then "CRITICAL"
  else if level = 40 then "ERROR"
  else if level = 30 then "WARNING"
  else if level = 20 then "INFO"
  else if level = 10 then "DEBUG"
  else if level = 0 then "NOTSET"
  else "Level " ++ toString level

/-- A record as a log line. -/
def Record.toLine (r : Record) : Text :=
  (levelName r.level ++ " [" ++ r.source ++ "] ").toList ++ r.message ++ ['\n']

/-- Where records go. -/
inductive Handler where
  | console
  | file (path : Text)
deriving DecidableEq, Repr

/-- The lowest level of records that a handler takes. -/
def Handler.level : Handler → Nat
  | console => 0
  | file _ => infoLevel

/-- A level and handlers, with what was written to the error output and to the log file. -/
structure Journal where
  level : Nat := warningLevel
  handlers : List Handler := []
  errors : Text := []
  fileText : Text := []

namespace Journal

/-- The journal after a text on the error output. -/
def say (j : Journal) (s : Text) : Journal := { j with errors := j.errors ++ s }

/-- The journal after a handler has been given a record. -/
def handle (r : Record) (j : Journal) (h : Handler) : Journal :=
  if r.level < h.level then j
  else
    match h with
    | .console => j.say r.toLine
    | .file _ => { j with fileText := j.fileText ++ r.toLine }

/-- The journal after a record.  Records of level zero are never let through. -/
def log (j : Journal) (r : Record) : Journal :=
  if r.level = 0 ∨ r.level < j.level then j
  else if j.handlers.isEmpty then
    if r.level < warningLevel then j else j.say (r.message ++ ['\n'])
  else j.handlers.foldl (handle r) j

/-- The path of the log file. -/
def filePath? (j : Journal) : Option Text :=
  j.handlers.findSome? fun
    | .file path => some path
    | .console => none

end Journal

/-! ### Setting up -/

/-- The source of the records about the setup itself. -/
def setupSource : String := "jandent.logging_setup"

/-- The name of the log file in its directory. -/
def fileName : Text := "jandent.log".toList

/-- The name of the level to use: the environment wins over what the caller asks for. -/
def requestedLevel (env : Environment) (level : Option Text) (default : String) : Text :=
  match env.text "JANDENT_LOG_LEVEL" [], level with
  | [], some (c :: s) => upperCase (c :: s)
  | [], _ => upperCase default.toList
  | s, _ => upperCase s

/-- The journal with a level of some name, or with a warning that there is none. -/
def setLevel (env : Environment) (level : Option Text) (default : String) (j : Journal) :
    Journal :=
  match namedLevels.lookup (String.ofList (requestedLevel env level default)) with
  | some n => { j with level := n }
  | none =>
      let name := Quoted.encode (requestedLevel env level "")
      j.log ⟨warningLevel, setupSource, "ignoring unknown log level ".toList ++ name⟩

/-- Whether a level is asked for at all. -/
def isLevelRequested (env : Environment) (level : Option Text) : Bool :=
  !(env.text "JANDENT_LOG_LEVEL" []).isEmpty || !(level.getD []).isEmpty

/-- The journal with its log file in a directory, unless it has one; the file in use. -/
def attachFile (workingDirectory : List Text) (directory : Text) (j : Journal) :
    Journal × Text :=
  match j.filePath? with
  | some path => (j, path)
  | none =>
      let path := (((Path.ofText directory).child fileName).resolve workingDirectory).toText
      ({ j with handlers := j.handlers ++ [.file path] }, path)

/-- What is asked of the setup: a level, a directory for the log file, and whether to log
to the console. -/
structure Setup where
  level : Option Text := none
  directory : Option Text := none
  console : Bool := false

/-- The journal after the console or the level has been set up.  A journal that has a
handler is not given a console. -/
def configureLevel (env : Environment) (setup : Setup) (j : Journal) : Journal :=
  if setup.console then
    if j.handlers.isEmpty then
      setLevel env setup.level "WARNING" { j with handlers := [.console] }
    else j
  else if isLevelRequested env setup.level then setLevel env setup.level "INFO" j
  else j

/-- The journal after the setup, and the log file in use. -/
def configure (env : Environment) (workingDirectory : List Text) (setup : Setup) (j : Journal) :
    Journal × Option Text :=
  let j := configureLevel env setup j
  match setup.directory with
  | none => (j, none)
  | some directory =>
      if env.isTruthy "JANDENT_DISABLE_FILE_LOG" then (j, none)
      else
        let (j, path) := attachFile workingDirectory directory j
        (j, some path)

/-- The setup carried out: a log file that was not in use before is opened. -/
def open? {m : Type → Type} [Monad m] (host : Host m) (env : Environment)
    (workingDirectory : List Text) (setup : Setup) (j : Journal) :
    m (Except FileFault (Journal × Option Text)) := do
  let after := configure env workingDirectory setup j
  match j.filePath?, after.2 with
  | none, some path => return (← host.openLog path).map fun _ => after
  | _, _ => return .ok after

end JapaneseProse.Log
