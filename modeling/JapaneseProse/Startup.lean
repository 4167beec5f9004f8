import JapaneseProse.Log

/-!
# The start of the web service

When the service starts, it opens a log file in the directory that the environment names,
or in the directory `logs` of the installation, and notes that it has done so.
-/

namespace JapaneseProse.Startup

open Log (Journal)

/-- The directory of the log file; `home` is the directory of the installation. -/
def logDirectory (env : Environment) (home : Text) : Text :=
  match env.text "JANDENT_LOG_DIR" [] with
  | [] => ((Path.ofText home).child "logs".toList).toText
  | s => (Path.ofText s).toText

/-- The journal after the service has started, and the log file in use. -/
def start {m : Type → Type} [Monad m] (host : Host m) (env : Environment)
    (workingDirectory : List Text) (home : Text) (j : Journal) :
    m (Except FileFault (Journal × Option Text)) := do
  let setup : Log.Setup := ⟨none, some (logDirectory env home), false⟩
  match ← Log.open? host env workingDirectory setup j with
  | .ok (j, some path) =>
      let message := "file logging enabled: ".toList ++ path
      return .ok (j.log ⟨Log.infoLevel, "jandent.api", message⟩, some path)
  | other => return other

end JapaneseProse.Startup
