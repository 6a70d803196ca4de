/-!
# Options of a command

Words of a command line as options and other words. An option has a long name after two dashes
and perhaps a letter after one; letters may share a dash. A value follows as the next word, behind
an equals sign after a long name, or directly behind a letter.

* `Given.read?` reads the words, or nothing if an option is unknown, lacks its value or has one too
  many.
-/

namespace SourceOutline

/-- An option of a command. -/
structure CommandOption where
  /-- The long name, without its dashes. -/
  name : String
  letter : Option Char := none
  takesValue : Bool := false
  deriving DecidableEq

/-- The options that are given, in their order, flags without a value; and the other words. -/
structure Given where
  options : List (String × Option String) := []
  others : List String := []

namespace Given

/-- One more option. -/
def add (g : Given) (name : String) (value : Option String) : Given :=
  { g with options := g.options ++ [(name, value)] }

/-- The flag is given. -/
def flag (g : Given) (name : String) : Bool :=
  g.options.any fun o => o.1 = name

/-- The value of an option; the last one counts. -/
def value? (g : Given) (name : String) : Option String :=
  (g.options.reverse.find? fun o => o.1 = name).bind Prod.snd

/-- Reads a word with a long name. If a value is still to come, it is for the option that is named
in the result. -/
def readLong? (options : List CommandOption) (g : Given) (word : List Char) :
    Option (Given × Option String) := do
  let name := String.ofList (word.takeWhile (· ≠ '='))
  let o ← options.find? fun o => o.name = name
  let value := (word.drop name.length).tail?.map String.ofList
  match o.takesValue, value with
  | true, some v => return (g.add o.name (some v), none)
  | true, none => return (g, some o.name)
  | false, some _ => none
  | false, none => return (g.add o.name none, none)

/-- Reads the letters behind one dash. -/
def readLetters? (options : List CommandOption) (g : Given) :
    List Char → Option (Given × Option String)
  | [] => some (g, none)
  | c :: r => do
    let o ← options.find? fun o => o.letter = some c
    if o.takesValue then
      if r = [] then return (g, some o.name) else return (g.add o.name (some (String.ofList r)), none)
    else readLetters? options (g.add o.name none) r

/-- Reads words. The second argument tells whether options may stand behind other words, the third
names an option that waits for its value. -/
def readFrom? (options : List CommandOption) (mixed : Bool) (waiting : Option String) (g : Given) :
    List String → Option Given
  | [] => if waiting.isSome then none else some g
  | w :: ws =>
    match waiting with
    | some name => readFrom? options mixed none (g.add name (some w)) ws
    | none =>
      match w.toList with
      | ['-', '-'] => some { g with others := g.others ++ ws }
      | '-' :: '-' :: long =>
        match readLong? options g long with
        | some (g, waiting) => readFrom? options mixed waiting g ws
        | none => none
      | '-' :: c :: letters =>
        match readLetters? options g (c :: letters) with
        | some (g, waiting) => readFrom? options mixed waiting g ws
        | none => none
      | _ =>
        if mixed then readFrom? options mixed none { g with others := g.others ++ [w] } ws
        else some { g with others := g.others ++ w :: ws }

/-- Reads the words of a command line. -/
def read? (options : List CommandOption) (mixed : Bool) (words : List String) : Option Given :=
  readFrom? options mixed none {} words

end Given

end SourceOutline
