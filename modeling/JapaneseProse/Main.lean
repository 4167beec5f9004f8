import JapaneseProse.CommandLine.Command

/-!
# The program

The program runs a command line on the files of the machine.
-/

namespace JapaneseProse.Program

/-- The fault that a file operation has met. -/
def faultOf (path : Text) (error : IO.Error) : FileFault :=
  match error with
  | .noFileOrDirectory .. => .notFound path
  | .alreadyExists .. => .alreadyExists path
  | .inappropriateType .. => .isADirectory path
  | .invalidArgument .. => .nameTooLong path
  | _ => .notADirectory path

/-- A file operation on a path, with its fault. -/
def attempt {α : Type} (s : Text) (action : String → IO α) : IO (Except FileFault α) := do
  if '\x00' ∈ s then return .error .nullCharacter
  let path := (Path.ofText s).toText
  try return .ok (← action (String.ofList path))
  catch error => return .error (faultOf path error)

/-- The directory that holds a file. -/
def directoryOf (s : Text) : String :=
  let p := Path.ofText s
  String.ofList (Path.toText { p with names := p.names.dropLast })

/-- The files of the machine. -/
def host : Host IO where
  read s := attempt s fun path => return (← IO.FS.readBinFile path).toList
  write s content := attempt s fun path => IO.FS.writeFile path (String.ofList content)
  openLog s := attempt s fun path => do
    IO.FS.createDirAll (directoryOf s)
    IO.FS.withFile path .append fun _ => return
  append s content :=
    IO.FS.withFile (String.ofList s) .append fun h => h.putStr (String.ofList content)
  readInput := do
    let input ← IO.getStdin
    let mut bytes := ByteArray.empty
    repeat
      let more ← input.read 65536
      if more.isEmpty then break
      bytes := bytes ++ more
    return bytes.toList

/-- The environment variables that the program goes by. -/
def environment : IO Environment := do
  let names := ["JANDENT_LOG_LEVEL", "JANDENT_LOG_DIR", "JANDENT_DISABLE_FILE_LOG"]
  let values ← names.mapM fun name => return (name, ← IO.getEnv name)
  return values.filterMap fun (name, value) => value.map fun s => (name, s.toList)

end JapaneseProse.Program

open JapaneseProse in
/-- The program run on the arguments of its command line. -/
def main (arguments : List String) : IO UInt32 := do
  let directory := (Path.ofText (toString (← IO.currentDir)).toList).names
  let result ← CommandLine.run Program.host (← Program.environment) directory
    (arguments.map String.toList)
  match result with
  | .error (.stop stop) =>
      IO.eprint (String.ofList stop.message)
      return UInt32.ofNat stop.status
  | .error (.logFile fault) =>
      IO.eprintln (String.ofList fault.message)
      return 1
  | .ok outcome =>
      IO.eprint (String.ofList outcome.journal.errors)
      IO.print (String.ofList outcome.output)
      return UInt32.ofNat outcome.status
