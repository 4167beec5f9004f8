import JapaneseProse.Engine.Basic

/-!
# Answers of the engine

Every task goes through one entry point, whose answer is tagged with a task.  An answer
is taken only for the task that its tag names and that its content belongs to.
-/

namespace JapaneseProse.Engine

/-- What a task comes back with. -/
inductive Content where
  | text (t : Text)
  | findings (l : List Finding)
deriving DecidableEq, Repr

/-- The task that a content belongs to. -/
def Content.task : Content → Task
  | text _ => .convert
  | findings _ => .lint

/-- A content with the tag of a task. -/
structure Answer where
  content : Content
  tag : Task
deriving DecidableEq, Repr

namespace Answer

/-- A content tagged with the task it belongs to. -/
def ofContent (content : Content) : Answer := ⟨content, content.task⟩

/-- A content tagged by name. -/
def tagged? (content : Content) (tag : String) : Except Fault Answer :=
  match Task.ofName? tag with
  | some t => .ok ⟨content, t⟩
  | none => .error (.unknownTag tag)

/-- Whether an answer is one to the given task. -/
def answers (a : Answer) (task : Task) : Bool := a.tag == task && a.content.task == task

/-- The text of an answer to a conversion. -/
def text? (a : Answer) : Except Fault Text :=
  match a with
  | ⟨.text t, .convert⟩ => .ok t
  | _ => .error (.wrongAnswer .convert)

/-- The findings of an answer to a linting. -/
def findings? (a : Answer) : Except Fault (List Finding) :=
  match a with
  | ⟨.findings l, .lint⟩ => .ok l
  | _ => .error (.wrongAnswer .lint)

end Answer

/-- The answer to a task on a text. -/
def process (e : Engine) (task : Task) (text : Text) : Except Fault Answer :=
  match task with
  | .convert =>
      match convertText e.settings e.tables e.numerals text with
      | .ok t => .ok (.ofContent (.text t))
      | .error f => .error (.numeral f)
  | .lint => .ok (.ofContent (.findings (lintText e.settings e.tables text)))

/-- A text converted by the rules of an engine. -/
def convert (e : Engine) (text : Text) : Except Fault Text := do
  let answer ← e.process .convert text
  answer.text?

/-- The findings of an engine on a text. -/
def lint (e : Engine) (text : Text) : Except Fault (List Finding) := do
  let answer ← e.process .lint text
  answer.findings?

/-- A text converted, and its findings; both see the text as it is. -/
def run (e : Engine) (text : Text) : Except Fault (Text × List Finding) := do
  let findings ← e.lint text
  let converted ← e.convert text
  return (converted, findings)

end JapaneseProse.Engine
