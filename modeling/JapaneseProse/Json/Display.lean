import JapaneseProse.Json.Shortest
import JapaneseProse.Json.Value
import JapaneseProse.Text.Quoted

/-!
# Values in messages

A message that speaks of a value shows it on one line, with its strings as quoted texts
and with words of its own for null and the truth values.
-/

namespace JapaneseProse.Json

mutual

/-- A value as it is shown in a message. -/
def display : Value → Text
  | .null => "None".toList
  | .bool true => "True".toList
  | .bool false => "False".toList
  | .number (.integer n) => (toString n).toList
  | .number (.floating x) => x.toText "inf".toList "nan".toList
  | .string s => Quoted.encode s
  | .array items => '[' :: ((displayItems items).intersperse [',', ' ']).flatten ++ [']']
  | .object members =>
      '\x7b' :: ((displayMembers members).intersperse [',', ' ']).flatten ++ ['\x7d']

/-- Values as they are shown. -/
def displayItems : List Value → List Text
  | [] => []
  | v :: vs => display v :: displayItems vs

/-- Members as they are shown. -/
def displayMembers : List (Text × Value) → List Text
  | [] => []
  | (name, v) :: ms => (Quoted.encode name ++ ':' :: ' ' :: display v) :: displayMembers ms

end

end JapaneseProse.Json
