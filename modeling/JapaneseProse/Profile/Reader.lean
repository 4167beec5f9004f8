import JapaneseProse.Json.Reader
import JapaneseProse.Profile.Validation

/-!
# Reading a profile

A profile is read from a JSON object with the parts `options`, `chars` and `numerals`, of
which any may be missing.  All violations are listed, part by part: in each part those of
the known members in the order of their declaration, and then the unknown members in the
order of the text.

This is one way to validate a profile (`validation`).  Which words and numbers are taken for truth
values is its own affair; a profile can be read by any other validation as well (`readBy`).
-/

namespace JapaneseProse.Profile

open Json (Value Members)

/-! ### Single values -/

/-- The words that are read as true. -/
def trueWords : List String := ["1", "true", "t", "yes", "y", "on"]

/-- The words that are read as false. -/
def falseWords : List String := ["0", "false", "f", "no", "n", "off"]

/-- A whole number read as a truth value, if it is zero or one. -/
def readBit (n : Int) : Except Violation.Kind Bool :=
  if n = 0 then .ok false else if n = 1 then .ok true else .error .unreadableBoolean

/-- Two to the power 63. -/
def wordBound : Int := 9223372036854775808

/-- A number read as a truth value.  Integers have to fit into 64 bits, and other numbers
have to be whole and of smaller size than two to the power 63. -/
def readNumber : Json.Number → Except Violation.Kind Bool
  | .integer n => if -wordBound ≤ n ∧ n < wordBound then readBit n else .error .notABoolean
  | .floating x =>
      match x.toInt? with
      | some n => if -wordBound < n ∧ n < wordBound then readBit n else .error .notABoolean
      | none => .error .notABoolean

/-- A word read as a truth value; the case of ASCII letters does not count. -/
def readWord (s : Text) : Except Violation.Kind Bool :=
  let word := String.ofList (s.map Char.toLower)
  if word ∈ trueWords then .ok true
  else if word ∈ falseWords then .ok false
  else .error .unreadableBoolean

/-- The value of a toggle; null leaves it open. -/
def readToggle : Value → Except Violation.Kind (Option Bool)
  | .null => .ok none
  | .bool b => .ok (some b)
  | .number n => (readNumber n).map some
  | .string s => (readWord s).map some
  | .array _ => .error .notABoolean
  | .object _ => .error .notABoolean

/-- The places of the items of a list that are no strings, from index `i` on. -/
def itemViolations (i : Nat) : List Value → List Violation
  | [] => []
  | v :: vs =>
      let rest := itemViolations (i + 1) vs
      if v.text?.isSome then rest else ⟨.notAString, [.index i]⟩ :: rest

/-- What is wrong with the entries of a table; null leaves the table open. -/
def entriesViolations : Value → List Violation
  | .null => []
  | .array items => itemViolations 0 items
  | _ => [⟨.notAList, []⟩]

/-- The entries of a table. -/
def readEntries : Value → Option (List Text)
  | .array items => some (items.filterMap Value.text?)
  | _ => none

/-- What is wrong with a replacement table; null leaves the table open. -/
def replaceMapViolations : Value → List Violation
  | .null => []
  | .object members =>
      members.filterMap fun m =>
        if m.2.text?.isSome then none else some ⟨.notAString, [.name m.1]⟩
  | _ => [⟨.notADictionary, []⟩]

/-- The replacement table of an object. -/
def readReplaceMap : Value → Option ReplaceMap
  | .object members => some (.ofList (members.filterMap fun m => m.2.text?.map (m.1, ·)))
  | _ => none

/-- What is wrong with a line end; null leaves it open. -/
def newlineViolations : Value → List Violation
  | .null => []
  | .string _ => []
  | _ => [⟨.notAString, []⟩]

/-- The way of writing numbers that a string names. -/
def readMode (v : Value) : Option Numeral.Mode :=
  v.text?.bind fun s => Numeral.Mode.ofName? (String.ofList s)

/-- The glyphs that a string names. -/
def readGlyphs (v : Value) : Option Numeral.Glyphs :=
  v.text?.bind fun s => Numeral.Glyphs.ofName? (String.ofList s)

/-! ### The members of a part -/

/-- The member of some name. -/
def member? (members : Members) (name : String) : Option Value := members.lookup name.toList

/-- Violations one level further down. -/
def under (step : Step) (l : List Violation) : List Violation :=
  l.map fun v => { v with location := step :: v.location }

/-- The violations of the member of some name, if there is one. -/
def memberViolations (members : Members) (name : String) (check : Value → List Violation) :
    List Violation :=
  match member? members name with
  | some v => under (.name name.toList) (check v)
  | none => []

/-- The members whose name is none of the known ones. -/
def unknownMembers (members : Members) (known : List String) : List Violation :=
  (members.filter fun m => !known.contains (String.ofList m.1)).map fun m =>
    ⟨.unknownName, [.name m.1]⟩

/-- A check that finds at most one violation, at the value itself. -/
def checkWith {α : Type} (read : Value → Except Violation.Kind α) (v : Value) : List Violation :=
  match read v with
  | .ok _ => []
  | .error kind => [⟨kind, []⟩]

/-- What is wrong with the toggles. -/
def optionsViolations (members : Members) : List Violation :=
  Toggle.all.flatMap (fun t => memberViolations members t.name (checkWith readToggle)) ++
  unknownMembers members Part.options.memberNames

/-- What is wrong with the tables. -/
def tablesViolations (members : Members) : List Violation :=
  memberViolations members "replace_map" replaceMapViolations ++
  Table.all.flatMap (fun t => memberViolations members t.name entriesViolations) ++
  memberViolations members "newline" newlineViolations ++
  unknownMembers members Part.tables.memberNames

/-- What is wrong with the numerals. -/
def numeralsViolations (members : Members) : List Violation :=
  memberViolations members "mode" (fun v =>
    if (readMode v).isSome then [] else [⟨.unknownMode, []⟩]) ++
  memberViolations members "char_mode" (fun v =>
    if (readGlyphs v).isSome then [] else [⟨.unknownGlyphs, []⟩]) ++
  unknownMembers members Part.numerals.memberNames

/-! ### The whole profile -/

/-- The members of a part; a part that is missing has none. -/
def partMembers (members : Members) (part : Part) : Members :=
  ((member? members part.name).bind Value.members?).getD []

/-- What is wrong with a part. -/
def partViolations (members : Members) (part : Part) (check : Members → List Violation) :
    List Violation :=
  memberViolations members part.name fun v =>
    match v.members? with
    | some m => check m
    | none => [⟨.notAnObject (some part), []⟩]

/-- What is wrong with the members of a profile. -/
def violations (members : Members) : List Violation :=
  partViolations members .options optionsViolations ++
  partViolations members .tables tablesViolations ++
  partViolations members .numerals numeralsViolations

/-- The profile of members that have no violation. -/
def ofMembers (members : Members) : Profile :=
  let options := partMembers members .options
  let tables := partMembers members .tables
  let numerals := partMembers members .numerals
  { toggles := fun t =>
      (member? options t.name).bind fun v => (readToggle v).toOption.join
    replaceMap := (member? tables "replace_map").bind readReplaceMap
    entries := fun t => (member? tables t.name).bind readEntries
    newline := (member? tables "newline").bind Value.text?
    mode := ((member? numerals "mode").bind readMode).getD .simple
    glyphs := ((member? numerals "char_mode").bind readGlyphs).getD .modern }

/-- What a value without violations is read as. -/
def takenBy {α : Type} (check : Value → List Violation) (read : Value → Option α) (v : Value) :
    Option α :=
  if check v = [] then read v else none

/-- The validation that takes members as they are read here. -/
def validation : Validation where
  truth? := takenBy (checkWith readToggle) fun v => (readToggle v).toOption.join
  text? := takenBy newlineViolations Value.text?
  entries? := takenBy entriesViolations readEntries
  replaceMap? := takenBy replaceMapViolations readReplaceMap
  mode? := readMode
  glyphs? := readGlyphs
  validate members :=
    match violations members with
    | [] => .ok (ofMembers members)
    | v :: vs => .error (v, vs)

/-! ### Profiles in texts -/

/-- Why a text is no profile. -/
inductive Refusal where
  | notJson (text : Text) (fault : Json.SyntaxFault)
  | notAnObject
  | violations (first : Violation) (others : List Violation)
deriving DecidableEq, Repr

/-- What is said about a text that is no profile. -/
def Refusal.message : Refusal → String
  | notJson text fault => "options must be valid JSON: " ++ fault.message text
  | notAnObject => "options must be a JSON object"
  | violations _ _ => "invalid options"

/-- The profile of a JSON text, by some validation. -/
def readBy (V : Validation) (text : Text) : Except Refusal Profile :=
  match Json.read text with
  | .error fault => .error (.notJson text fault)
  | .ok (.object members) => (V.validate members).mapError fun w => .violations w.1 w.2
  | .ok _ => .error .notAnObject

/-- The profile of a JSON text. -/
def read (text : Text) : Except Refusal Profile := readBy validation text

end JapaneseProse.Profile
