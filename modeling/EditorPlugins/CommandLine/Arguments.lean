import EditorPlugins.Text.Basic

/-! # Arguments of a command line

Arguments are options and words. A long option starts with two dashes and may hold its value behind
an equals sign; short options of one letter can be written together behind a single dash, where the
value of the last one may follow at once. A value that does not follow in the same argument is the
next argument, whatever that looks like. Two dashes alone make words of everything behind them.
-/

namespace EditorPlugins.CommandLine

open Text

/-- An option that a command knows. -/
structure OptionRule where
  name : String
  letter : Option Char
  takesValue : Bool
deriving DecidableEq, Repr

/-- An option as it is given. -/
inductive Given where
  | flag (name : String)
  | value (name text : String)
deriving DecidableEq, Repr

/-- Why a command line is refused. -/
inductive UsageError where
  | unknownOption (text : String)
  | valueMissing (name : String)
  | valueUnexpected (name : String)
  | commandMissing
  | commandUnknown (text : String)
  | wordsUnexpected (words : List String)
  | projectIsFile (path : String)
deriving DecidableEq, Repr

def UsageError.message : UsageError → String
  | unknownOption text => "No such option: " ++ text
  | valueMissing name => "Option " ++ name ++ " requires an argument."
  | valueUnexpected name => "Option " ++ name ++ " does not take a value."
  | commandMissing => "Missing command."
  | commandUnknown text => "No such command: " ++ text
  | wordsUnexpected words => "Got unexpected extra arguments: " ++ Text.join " " words
  | projectIsFile path => "The project is a file: " ++ path

/-- What one argument gives: some options, and maybe one more whose value is the next argument. -/
structure Reading where
  given : List Given
  open? : Option String
deriving DecidableEq, Repr

/-- What a command line gives: options and words, each in order. -/
structure Arguments where
  given : List Given
  words : List String
deriving DecidableEq, Repr

/-- Read the letters of short options behind a dash. -/
def readLetters (rules : List OptionRule) : List Char → Except UsageError Reading
  | [] => .ok ⟨[], none⟩
  | c :: cs =>
    match rules.find? fun rule => rule.letter = some c with
    | none => .error (.unknownOption (String.ofList ['-', c]))
    | some rule =>
      if rule.takesValue then
        if cs.isEmpty then .ok ⟨[], some rule.name⟩
        else .ok ⟨[.value rule.name (String.ofList cs)], none⟩
      else do
        let later ← readLetters rules cs
        return { later with given := .flag rule.name :: later.given }

/-- Read an option that is written out, with the value behind its equals sign if there is one. -/
def readName (rule : OptionRule) : (attached : Option String) → Except UsageError Reading
  | some text =>
    if rule.takesValue then .ok ⟨[.value rule.name text], none⟩
    else .error (.valueUnexpected rule.name)
  | none => if rule.takesValue then .ok ⟨[], some rule.name⟩ else .ok ⟨[.flag rule.name], none⟩

def readOption (rules : List OptionRule) (argument : String) : Except UsageError Reading :=
  let (name, attached) := cutAt '=' argument.toList
  match rules.find? fun rule => rule.name.toList = name with
  | some rule => readName rule (attached.map String.ofList)
  | none =>
    if startsWith "--" argument then .error (.unknownOption (String.ofList name))
    else readLetters rules (argument.toList.drop 1)

/-- Whether an argument is an option; a single dash is a word. -/
def isOption (argument : String) : Bool := startsWith "-" argument && argument ≠ "-"

/-- Put options in front of what the later arguments give. -/
def Arguments.after (given : List Given) (later : Arguments) : Arguments :=
  { later with given := given ++ later.given }

/-- Read arguments. Unless words and options may be mixed, everything from the first word on is a
word. -/
def readArguments (rules : List OptionRule) (mixed : Bool) :
    List String → Except UsageError Arguments
  | [] => .ok ⟨[], []⟩
  | argument :: rest =>
    if argument = "--" then .ok ⟨[], rest⟩
    else if isOption argument then
      match readOption rules argument, rest with
      | .error error, _ => .error error
      | .ok ⟨given, none⟩, rest => (readArguments rules mixed rest).map (Arguments.after given)
      | .ok ⟨_, some name⟩, [] => .error (.valueMissing name)
      | .ok ⟨given, some name⟩, text :: rest =>
        (readArguments rules mixed rest).map (Arguments.after (given ++ [.value name text]))
    else if mixed then
      (readArguments rules mixed rest).map fun later =>
        { later with words := argument :: later.words }
    else .ok ⟨[], argument :: rest⟩
termination_by arguments => arguments.length

namespace Arguments

/-- Whether an option is given. -/
def has (arguments : Arguments) (name : String) : Bool := arguments.given.contains (.flag name)

/-- The values that an option is given, in order. -/
def values (arguments : Arguments) (name : String) : List String :=
  arguments.given.filterMap fun
    | .value other text => if other = name then some text else none
    | .flag _ => none

/-- The value that counts when an option is given more than once: the last. -/
def value? (arguments : Arguments) (name : String) : Option String :=
  (arguments.values name).getLast?

end Arguments

end EditorPlugins.CommandLine
