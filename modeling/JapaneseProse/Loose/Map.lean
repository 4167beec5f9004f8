import JapaneseProse.Engine.Fault
import JapaneseProse.Json.Value
import JapaneseProse.Tables

/-!
# Loose replacement tables

A loose replacement table pairs values of any kind.  Keys that are equal as values are
one key, and a truth value is equal to the number that stands for it.  Arrays and objects
are no keys.
-/

namespace JapaneseProse

open Json (Value Number)

/-! ### Values as lists and keys -/

/-- The items of a value: those of an array, the characters of a string, the names of an
object. -/
def Json.Value.items? : Value → Option (List Value)
  | .array l => some l
  | .string s => some (s.map fun c => .string [c])
  | .object m => some (m.map fun e => .string e.1)
  | _ => none

/-- The texts that are the items of a value. -/
def Json.Value.texts? (v : Value) : Option (List Text) := v.items?.bind (·.mapM Value.text?)

/-- The number that a value is equal to; a whole number is an integer. -/
def Json.Value.number? : Value → Option Number
  | .bool b => some (.integer (if b then 1 else 0))
  | .number (.floating x) => some ((x.toInt?.map Number.integer).getD (.floating x))
  | .number n => some n
  | _ => none

/-- Whether a value can be a key. -/
def Json.Value.isKey : Value → Bool
  | .array _ => false
  | .object _ => false
  | _ => true

/-- Whether two values are one key. -/
def Json.Value.isSameKey : Value → Value → Bool
  | .null, .null => true
  | .string s, .string t => s == t
  | v, w =>
      match v.number?, w.number? with
      | some x, some y => x == y
      | _, _ => false

/-! ### Tables of pairs -/

/-- Values and their replacements, in order. -/
structure LooseMap where
  entries : List (Value × Value)

namespace LooseMap

/-- The table without entries. -/
def empty : LooseMap := ⟨[]⟩

/-- The entries of a replacement table of texts. -/
def ofReplaceMap (m : ReplaceMap) : LooseMap :=
  ⟨m.entries.map fun e => (.string e.1, .string e.2)⟩

/-- Writing an entry keeps the place of its key; a new key goes to the end. -/
def put (m : LooseMap) (key value : Value) : LooseMap :=
  if m.entries.any fun e => e.1.isSameKey key then
    ⟨m.entries.map fun e => if e.1.isSameKey key then (e.1, value) else e⟩
  else ⟨m.entries ++ [(key, value)]⟩

/-- The table without an entry for `key`. -/
def erase (m : LooseMap) (key : Value) : LooseMap :=
  ⟨m.entries.filter fun e => !e.1.isSameKey key⟩

/-- Writing an entry under a value that may be no key. -/
def put? (m : LooseMap) (key value : Value) : Except Engine.Fault LooseMap :=
  if key.isKey then .ok (m.put key value) else .error (.malformedTable "replace_map")

/-- The table with items written one after another, of which the first has the index `i`.
Every item has to be a pair. -/
def putItems (m : LooseMap) (i : Nat) : List Value → Except Engine.Fault LooseMap
  | [] => .ok m
  | item :: items =>
      match item.items? with
      | none => .error (.malformedTable "replace_map")
      | some [key, value] => do
          let m ← m.put? key value
          m.putItems (i + 1) items
      | some l => .error (.unpairedItem i l.length)

/-- The table that a value stands for: an object, or pairs. -/
def ofValue? : Value → Except Engine.Fault LooseMap
  | .object members => .ok ⟨members.map fun m => (.string m.1, m.2)⟩
  | v =>
      match v.items? with
      | some items => empty.putItems 0 items
      | none => .error (.malformedTable "replace_map")

/-- The table with the entries that a toggle stands for, or without them. -/
def sync (m : LooseMap) (t : Toggle) (on : Bool) : LooseMap :=
  t.impliedEntries.foldl (fun m e =>
    if on then m.put (.string e.1) (.string e.2) else m.erase (.string e.1)) m

/-- The texts of the entries whose key counts as true, if they are texts; the others
replace nothing. -/
def texts? (m : LooseMap) : Option (List (Text × Text)) :=
  (m.entries.filter fun e => e.1.isTruthy).mapM fun e => do
    return (← e.1.text?, ← e.2.text?)

end LooseMap

end JapaneseProse
