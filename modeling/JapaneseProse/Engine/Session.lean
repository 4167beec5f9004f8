import JapaneseProse.Engine.Answer
import JapaneseProse.Json.Value

/-!
# Engines in use

An engine that is in use gets calls, one after another.  A call comes back with a reply or a
fault, and observers may be told of it on the way.

Texts that are converted or linted leave the engine as it is, and this is by definition.  All that
changes in the course of such a call is the number of the line.  It belongs to the call, which
counts from one (`lintText`), and the engine holds nothing of it, whether the call comes to its end
or not.
-/

namespace JapaneseProse.Engine

/-- What an engine in use is asked to do.  The value for a toggle may be of any kind. -/
inductive Call where
  | convert (text : Text)
  | lint (text : Text)
  | run (text : Text)
  | setOption (name : String) (value : Json.Value)
  | listen (id : String)
  | unlisten (id : String)

/-- What a call comes back with. -/
inductive Reply where
  | done
  | text (t : Text)
  | findings (l : List Finding)
  | both (t : Text) (l : List Finding)
deriving DecidableEq, Repr

/-- A reply or a fault, the announcements to observers, and the engine afterwards. -/
structure Outcome where
  reply : Except Fault Reply
  told : List Announcement
  engine : Engine

/-- What comes of a call.  Calls on a text hold no state, so they hand the engine back.  A toggle is
switched to whether the value counts as true. -/
def perform (e : Engine) : Call → Outcome
  | .convert text => ⟨(e.convert text).map .text, [], e⟩
  | .lint text => ⟨(e.lint text).map .findings, [], e⟩
  | .run text => ⟨(e.run text).map fun r => .both r.1 r.2, [], e⟩
  | .setOption name value =>
      match e.setOption name value.isTruthy with
      | .ok (switched, told) => ⟨.ok .done, told, switched⟩
      | .error fault => ⟨.error fault, [], e⟩
  | .listen id => ⟨.ok .done, [], e.listen (.observer id)⟩
  | .unlisten id => ⟨.ok .done, [], e.unlisten (.observer id)⟩

/-- The engine after calls, one after another. -/
def after (e : Engine) (calls : List Call) : Engine :=
  calls.foldl (fun e call => (e.perform call).engine) e

end JapaneseProse.Engine
