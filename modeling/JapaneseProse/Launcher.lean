import JapaneseProse.CommandLine.Parsing
import JapaneseProse.Environment

/-!
# The launcher of the web service

The launcher decides on which host and port the service listens.  The command line goes
before the environment, and the environment before the defaults.
-/

namespace JapaneseProse.Launcher

open CommandLine (Flag Grammar Stop)

/-- How the service is started.  A host, a port or a level is missing if its option was
given no value. -/
structure Launch where
  app : String
  host : Option Text
  port : Option Int
  logLevel : Option Text
  reload : Bool
deriving DecidableEq, Repr

/-- The command line of the launcher. -/
def grammar : Grammar where
  program := "jandent.server"
  flags := [⟨["-h", "--help"], .help⟩, ⟨["--host"], .text⟩, ⟨["--port"], .integer⟩,
    ⟨["--log-level"], .text⟩, ⟨["--reload"], .absent⟩]
  positional := .nothing

/-- The way in which the service is to be started. -/
def launch (env : Environment) (arguments : List Text) : Except Stop Launch := do
  let p ← grammar.parse arguments
  return {
    app := "jandent.api:app"
    host := (p.last? "--host").getD (some (env.text "JANDENT_HOST" "127.0.0.1".toList))
    port := ((p.last? "--port").map fun value => value.bind readInteger?).getD
      (some (env.integer "JANDENT_PORT" 18080))
    logLevel := (p.last? "--log-level").getD (some "info".toList)
    reload := p.has "--reload" }

end JapaneseProse.Launcher
