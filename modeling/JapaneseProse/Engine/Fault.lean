import JapaneseProse.Numeral.Conversion

/-!
# Faults of the engine

What can be wrong with the way an engine is built or used.  Texts are never at fault.
-/

namespace JapaneseProse.Engine

/-- The two things an engine does with a text. -/
inductive Task where
  | convert
  | lint
deriving DecidableEq, Repr

/-- The name of a task. -/
def Task.name : Task → String
  | convert => "convert"
  | lint => "lint"

/-- The task of some name. -/
def Task.ofName? (s : String) : Option Task := [convert, lint].find? fun t => t.name == s

/-- What can be wrong with the use of an engine. -/
inductive Fault where
  /-- No toggle has this name. -/
  | unknownOption (name : String)
  /-- Options that are given as a whole have no toggle of this name. -/
  | malformedOptions (name : String)
  /-- No table has this name. -/
  | unknownTable (name : String)
  /-- What is given for a table is not of the form that is needed. -/
  | malformedTable (name : String)
  /-- What is given for the replacement table has an item that is no pair. -/
  | unpairedItem (index size : Nat)
  /-- A table that was not given as a list cannot be added to. -/
  | closedTable (name : String)
  /-- A name in the numeral configuration means nothing. -/
  | numeral (fault : Numeral.Fault)
  /-- An answer is tagged with something that is no task. -/
  | unknownTag (name : String)
  /-- A task came back with the answer to another one. -/
  | wrongAnswer (task : Task)
deriving DecidableEq, Repr

/-- What is said about a fault. -/
def Fault.message : Fault → String
  | unknownOption name => "unknown option: " ++ name
  | malformedOptions name => "malformed options: " ++ name
  | unknownTable name => "unknown character table: " ++ name
  | malformedTable name => "malformed character table: " ++ name
  | unpairedItem index size =>
      "dictionary update sequence element #" ++ toString index ++ " has length " ++
        toString size ++ "; 2 is required"
  | closedTable name => "closed character table: " ++ name
  | numeral fault => fault.message
  | unknownTag name => String.ofList (Quoted.encode name.toList) ++ " is not a valid ResultType"
  | wrongAnswer task =>
      "JandentError: " ++ task.name ++ "() did not produce a " ++ task.name ++ " result"

end JapaneseProse.Engine
