import JapaneseProse.CommandLine.Grammar

/-!
# Parsing of command lines

The parts of a command line are taken from left to right: the arguments before an option
as far as the grammar wants them, then the option with its value.  What is found wrong
first is told, and the help text is asked for as soon as its option is reached.
-/

namespace JapaneseProse.CommandLine.Grammar

/-! ### Values -/

/-- One of some words, checked. -/
def checkChoice (g : Grammar) (label : String) (words : List String) (value : Text) :
    Except Stop Unit :=
  if words.contains (String.ofList value) then .ok ()
  else
    let choices := (words.map fun w => Quoted.encode w.toList).intersperse [',', ' ']
    g.failAt label ("invalid choice: ".toList ++ Quoted.encode value ++
      " (choose from ".toList ++ choices.flatten ++ [')'])

/-- The value of an option, checked; an option that asks for the help text stops here. -/
def checkValue (g : Grammar) (f : Flag) (value : Option Text) : Except Stop Unit :=
  match f.argument, value with
  | .help, _ => .error .help
  | .choice words, some s => g.checkChoice f.label words s
  | .integer, some s =>
      if (readInteger? s).isSome then .ok ()
      else g.failAt f.label ("invalid int value: ".toList ++ Quoted.encode s)
  | _, _ => .ok ()

/-- An option taken with its value. -/
def takeOption (g : Grammar) (p : Parsed) (option : Flag × Option Text) :
    Except Stop Parsed := do
  g.checkValue option.1 option.2
  return { p with given := p.given ++ [option] }

/-! ### Options -/

/-- What the use of an option comes to: options with their values, and the parts that
follow. -/
structure Taken where
  options : List (Flag × Option Text)
  rest : List Token

/-- An option without a text joined to it; its value is the argument that follows. -/
def useApart (g : Grammar) (before : List (Flag × Option Text)) (rest : List Token) (f : Flag) :
    Except Stop Taken :=
  if f.takesValue then
    match rest with
    | .argument value :: rest => .ok ⟨before ++ [(f, some value)], rest⟩
    | _ => g.failAt f.label "expected one argument".toList
  else .ok ⟨before ++ [(f, none)], rest⟩

/-- The value that a text joined to an option gives it. -/
def joinedValue (s : Text) : Option Text := if s = ['-', '-'] then none else some s

/-- The error about a text joined to an option that takes no value. -/
def refuseJoined (g : Grammar) (f : Flag) (s : Text) : Except Stop Taken :=
  g.failAt f.label ("ignored explicit argument ".toList ++ Quoted.encode s)

/-- An option with a text joined to it.  The text is the value of an option that takes
one; behind a short option that takes none, its first letter is the next short option. -/
def useJoined (g : Grammar) (before : List (Flag × Option Text)) (rest : List Token) (f : Flag)
    (isLong : Bool) (s : Text) : Except Stop Taken :=
  if f.takesValue then .ok ⟨before ++ [(f, joinedValue s)], rest⟩
  else
    match s with
    | [] => g.refuseJoined f []
    | letter :: behind =>
        if isLong then g.refuseJoined f (letter :: behind)
        else
          match g.flag? ['-', letter], behind with
          | some next, [] => g.useApart (before ++ [(f, none)]) rest next
          | some next, c :: cs => g.useJoined (before ++ [(f, none)]) rest next false (c :: cs)
          | none, _ => g.refuseJoined f (letter :: behind)

/-- An option taken from the head of the parts of a command line. -/
def takeUse (g : Grammar) (p : Parsed) (use : Use) (rest : List Token) :
    Except Stop (Parsed × List Token) := do
  let taken ← match use.joined with
    | none => g.useApart [] rest use.flag
    | some s => g.useJoined [] rest use.flag (use.name.take 2 = ['-', '-']) s
  let p ← taken.options.foldlM g.takeOption p
  return (p, taken.rest)

/-! ### Other arguments -/

/-- The parts at the head of a command line that make up a single word. -/
def matchWord : List Token → Option (List Text × List Token)
  | .doubleDash :: .argument s :: rest => some ([['-', '-'], s], rest)
  | .argument s :: .doubleDash :: rest => some ([s, ['-', '-']], rest)
  | .argument s :: rest => some ([s], rest)
  | _ => none

/-- The parts at the head of a command line that make up a command. -/
def matchCommand : List Token → Option (List Text)
  | .doubleDash :: .argument s :: rest => some (['-', '-'] :: s :: rest.map Token.text)
  | .argument s :: rest => some (s :: rest.map Token.text)
  | _ => none

/-- The arguments at the head of a command line, if the grammar still wants them. -/
def takePositional (g : Grammar) (p : Parsed) (tokens : List Token) :
    Except Stop (Parsed × List Token) :=
  match g.positional, p.positional with
  | .word _, none =>
      match matchWord tokens with
      | some (texts, rest) =>
          .ok ({ p with positional := some (texts.erase ['-', '-']) }, rest)
      | none => .ok (p, tokens)
  | .command name words, none =>
      match matchCommand tokens with
      | some texts => do
          g.checkChoice name words (texts.headD [])
          return ({ p with positional := some texts }, [])
      | none => .ok (p, tokens)
  | _, _ => .ok (p, tokens)

/-! ### Whole command lines -/

/-- The parts of a command line taken one after another; `fuel` bounds their number. -/
def takeAll (g : Grammar) : (fuel : Nat) → Parsed → List Token → Except Stop Parsed
  | 0, p, _ => .ok p
  | fuel + 1, p, tokens =>
      if tokens.any Token.isOption then
        match tokens with
        | .option s use :: rest =>
            match use with
            | none => g.takeAll fuel { p with extras := p.extras ++ [s] } rest
            | some use => do
                let (p, rest) ← g.takeUse p use rest
                g.takeAll fuel p rest
        | _ => do
            let (p, rest) ← g.takePositional p tokens
            if rest.length < tokens.length then g.takeAll fuel p rest
            else
              let skipped := tokens.takeWhile (!·.isOption)
              g.takeAll fuel { p with extras := p.extras ++ skipped.map Token.text }
                (tokens.dropWhile (!·.isOption))
      else do
        let (p, rest) ← g.takePositional p tokens
        return { p with extras := p.extras ++ rest.map Token.text }

/-- What a command line says, and what is left over of it. -/
def parseKnown (g : Grammar) (arguments : List Text) : Except Stop Parsed := do
  let tokens ← g.tokens arguments
  let p ← g.takeAll (2 * tokens.length + 1) { } tokens
  match g.positional.name?, p.positional with
  | some name, none =>
      g.fail ("the following arguments are required: " ++ name).toList
  | _, _ => return p

/-- An error if anything is left over of a command line. -/
def refuseExtras (g : Grammar) (extras : List Text) : Except Stop Unit :=
  if extras.isEmpty then .ok ()
  else g.fail ("unrecognized arguments: ".toList ++ (extras.intersperse [' ']).flatten)

/-- What a command line says, if nothing is left over of it. -/
def parse (g : Grammar) (arguments : List Text) : Except Stop Parsed := do
  let p ← g.parseKnown arguments
  g.refuseExtras p.extras
  return p

end JapaneseProse.CommandLine.Grammar
