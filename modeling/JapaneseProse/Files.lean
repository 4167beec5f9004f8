import JapaneseProse.Encoding.Bytes
import JapaneseProse.Text.Pieces
import JapaneseProse.Text.Quoted

/-!
# Files

A path is a list of names, starting at the root or at the working directory.  Empty names
and single dots do not count.  A tree of files says which directories there are and what
the files hold; it can be read and written through paths, and what goes wrong is told with
the path as it was given.  Names and paths have a greatest length, counted in bytes.
-/

namespace JapaneseProse

open Encoding (Bytes)

/-- A path: the slashes with which it starts, and its names.  A path that starts with
exactly two slashes keeps them; any other number of slashes counts as one. -/
structure Path where
  root : Text
  names : List Text
deriving DecidableEq, Repr

namespace Path

/-- The slashes that stand for the root at the head of a text. -/
def rootOf (s : Text) : Text :=
  match (s.takeWhile (· == '/')).length with
  | 0 => []
  | 2 => ['/', '/']
  | _ => ['/']

/-- The path that a text stands for. -/
def ofText (s : Text) : Path :=
  ⟨rootOf s, (splitAtSlashes s).filter fun name => name ≠ [] ∧ name ≠ ['.']⟩

/-- Whether a path starts at the root. -/
def isAbsolute (p : Path) : Bool := !p.root.isEmpty

/-- The text of a path; the working directory is a single dot. -/
def toText (p : Path) : Text :=
  let s := p.root ++ (p.names.intersperse ['/']).flatten
  if s.isEmpty then ['.'] else s

/-- A path inside another. -/
def child (p : Path) (name : Text) : Path := { p with names := p.names ++ [name] }

/-- The names from the root with every step back carried out. -/
def collapse : List Text → List Text → List Text
  | done, [] => done
  | done, name :: names =>
      if name = ['.', '.'] then collapse done.dropLast names else collapse (done ++ [name]) names

/-- The path from the root, seen from a working directory. -/
def resolve (directory : List Text) (p : Path) : Path :=
  ⟨['/'], if p.isAbsolute then collapse [] p.names else collapse directory p.names⟩

end Path

/-- What can go wrong with a file. -/
inductive FileFault where
  | notFound (path : Text)
  | alreadyExists (path : Text)
  | notADirectory (path : Text)
  | isADirectory (path : Text)
  | nameTooLong (path : Text)
  | nullCharacter
deriving DecidableEq, Repr

/-- What is said about a fault. -/
def FileFault.message : FileFault → Text
  | notFound path => "[Errno 2] No such file or directory: ".toList ++ Quoted.encode path
  | alreadyExists path => "[Errno 17] File exists: ".toList ++ Quoted.encode path
  | notADirectory path => "[Errno 20] Not a directory: ".toList ++ Quoted.encode path
  | isADirectory path => "[Errno 21] Is a directory: ".toList ++ Quoted.encode path
  | nameTooLong path => "[Errno 36] File name too long: ".toList ++ Quoted.encode path
  | nullCharacter => "embedded null byte".toList

/-- The bytes of a text in UTF-8. -/
def encodeText (s : Text) : Bytes := (String.ofList s).toUTF8.toList

/-- The number of bytes of a text in UTF-8. -/
def byteLength (s : Text) : Nat := (String.ofList s).utf8ByteSize

/-- The largest number of bytes of a name. -/
def longestName : Nat := 255

/-- The largest number of bytes of a path. -/
def longestPath : Nat := 4095

/-- The files that a program works with. -/
structure Host (m : Type → Type) where
  /-- The bytes of a file. -/
  read : Text → m (Except FileFault Bytes)
  /-- A text written to a file, in place of what it held. -/
  write : Text → Text → m (Except FileFault Unit)
  /-- A file opened to be added to; the file and its directories are made if missing. -/
  openLog : Text → m (Except FileFault Unit)
  /-- A text added to a file that was opened. -/
  append : Text → Text → m Unit
  /-- The bytes of the standard input. -/
  readInput : m Bytes

/-! ### Trees of files -/

/-- Directories and files by their names from the root, and the working directory. -/
structure FileTree where
  workingDirectory : List Text
  directories : List (List Text)
  files : List (List Text × Bytes)

namespace FileTree

/-- Whether there is a directory; the root always is. -/
def isDirectory (t : FileTree) (names : List Text) : Bool :=
  names.isEmpty || t.directories.contains names

/-- The content of a file. -/
def file? (t : FileTree) (names : List Text) : Option Bytes := t.files.lookup names

/-- The names from the root that a path leads to, step by step through directories. -/
def walk (t : FileTree) (path : Text) (here : List Text) : List Text →
    Except FileFault (List Text)
  | [] => .ok here
  | name :: names =>
      if t.isDirectory here then
        if longestName < byteLength name then .error (.nameTooLong path)
        else walk t path (if name = ['.', '.'] then here.dropLast else here ++ [name]) names
      else if (t.file? here).isSome then .error (.notADirectory path)
      else .error (.notFound path)

/-- The names from the root that the text of a path leads to, and the path to tell of. -/
def locate (t : FileTree) (s : Text) : Except FileFault (List Text × Text) :=
  let p := Path.ofText s
  if '\x00' ∈ s then .error .nullCharacter
  else if longestPath < byteLength p.toText then .error (.nameTooLong p.toText)
  else
    (t.walk p.toText (if p.isAbsolute then [] else t.workingDirectory) p.names).map
      fun names => (names, p.toText)

/-- The bytes of a file. -/
def read (t : FileTree) (s : Text) : Except FileFault Bytes := do
  let (names, path) ← t.locate s
  if t.isDirectory names then .error (.isADirectory path)
  else
    match t.file? names with
    | some b => .ok b
    | none => .error (.notFound path)

/-- The tree with a file of some content, in place of one that was there. -/
def putFile (t : FileTree) (names : List Text) (content : Bytes) : FileTree :=
  { t with files := (names, content) :: t.files.filter (·.1 ≠ names) }

/-- The tree with a directory and all the directories that it lies in. -/
def putDirectory (t : FileTree) (names : List Text) : FileTree :=
  let all := (List.range (names.length + 1)).map fun n => names.take n
  { t with directories := all.filter (fun d => !t.isDirectory d) ++ t.directories }

/-- The fault that keeps a directory from being made, seen from the root. -/
def directoryFault? (t : FileTree) (path : Text) (here : List Text) : List Text → Option FileFault
  | [] => none
  | name :: names =>
      let next := here ++ [name]
      if longestName < byteLength name then some (.nameTooLong path)
      else if (t.file? next).isSome then
        some (if names.isEmpty then .alreadyExists path else .notADirectory path)
      else directoryFault? t path next names

/-- The tree with a file to which texts can be added; the file and its directories are
made if they are missing. -/
def openLog (t : FileTree) (s : Text) : Except FileFault FileTree :=
  let names := ((Path.ofText s).resolve t.workingDirectory).names
  if '\x00' ∈ s then .error .nullCharacter
  else
    match t.directoryFault? s [] names.dropLast with
    | some fault => .error fault
    | none =>
        if t.isDirectory names then .error (.isADirectory s)
        else .ok ((t.putDirectory names.dropLast).putFile names ((t.file? names).getD []))

/-- The tree with a text added to a file. -/
def append (t : FileTree) (s content : Text) : FileTree :=
  let names := ((Path.ofText s).resolve t.workingDirectory).names
  t.putFile names ((t.file? names).getD [] ++ encodeText content)

/-- The tree with a text written to a file whose directory is there. -/
def write (t : FileTree) (s content : Text) : Except FileFault FileTree := do
  let (names, path) ← t.locate s
  if t.isDirectory names then .error (.isADirectory path)
  else if !t.isDirectory names.dropLast then
    .error (if (t.file? names.dropLast).isSome then .notADirectory path else .notFound path)
  else .ok (t.putFile names (encodeText content))

/-- The outcome of an operation, and the tree after it. -/
def update (operation : FileTree → Except FileFault FileTree) :
    StateM FileTree (Except FileFault Unit) := do
  match operation (← get) with
  | .ok t =>
      set t
      return .ok ()
  | .error fault => return .error fault

/-- The files of a tree, for a program that reads `input`. -/
def host (input : Bytes) : Host (StateM FileTree) where
  read s := do return (← get).read s
  write s content := update fun t => t.write s content
  openLog s := update fun t => t.openLog s
  append s content := modify fun t => t.append s content
  readInput := return input

end FileTree

end JapaneseProse
