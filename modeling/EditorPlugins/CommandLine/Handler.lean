import EditorPlugins.Text.Basic

/-! # Handlers in console text

A tag whose name starts with an at sign attaches a handler to its text. The parameters of the tag
are a name, arguments in parentheses, or both. An argument is a number, a quoted text, one of three
constants, or a group of arguments; anything else cannot be read.
-/

namespace EditorPlugins.CommandLine.Handler

open Text

/-- A part of the arguments of a handler. -/
inductive Lexeme where
  | opening
  | closing
  | comma
  | sign
  | quoted
  | word (text : List Char)
deriving DecidableEq, Repr

/-- The word that has been read, its last character first, as the parts it makes up. -/
def wordLexeme (word : List Char) : List Lexeme :=
  if word.isEmpty then [] else [.word word.reverse]

/-- The part that a character stands for by itself; plus and minus do so only in front of a word. -/
def charLexeme? (word : List Char) (c : Char) : Option Lexeme :=
  match c with
  | '(' => some .opening
  | ')' => some .closing
  | ',' => some .comma
  | '+' | '-' => if word.isEmpty then some .sign else none
  | _ => none

/-- The parts of some arguments, behind a word or inside of quotes. -/
def lexemes? (word : List Char) (quote : Option Char) : List Char → Option (List Lexeme)
  | [] => if quote.isNone then some (wordLexeme word) else none
  | c :: cs =>
    match quote with
    | some mark =>
      if c = mark then (lexemes? [] none cs).map (.quoted :: ·)
      else if c = '\n' then none
      else if c = '\\' then
        match cs with
        | [] => none
        | escaped :: cs =>
          if ['x', 'u', 'U', 'N'].contains escaped then none else lexemes? [] quote cs
      else lexemes? [] quote cs
    | none =>
      if c = '\'' || c = '"' then if word.isEmpty then lexemes? [] (some c) cs else none
      else if isBlank c then (lexemes? [] none cs).map (wordLexeme word ++ ·)
      else
        match charLexeme? word c with
        | some lexeme => (lexemes? [] none cs).map (wordLexeme word ++ lexeme :: ·)
        | none => lexemes? (c :: word) none cs

/-- Digits, between which single underscores may stand. -/
def isDigits (text : List Char) : Bool :=
  (pieces '_' text).all fun group => !group.isEmpty && group.all Char.isDigit

/-- A number without its sign: digits with a point among them or an exponent behind them, or digits
alone that start with no needless zero. -/
def isNumber (text : List Char) : Bool :=
  let (mantissa, exponent) := cutAt 'e' (lower text)
  let (whole, fraction) := cutAt '.' mantissa
  let hasPoint := fraction.isSome
  let fraction := fraction.getD []
  let isWhole := if whole.isEmpty then !fraction.isEmpty else isDigits whole
  let isFraction := fraction.isEmpty || isDigits fraction
  let isExponent :=
    match exponent with
    | none => hasPoint || whole.head? ≠ some '0' || whole.all fun c => c = '0' || c = '_'
    | some ('+' :: digits) | some ('-' :: digits) | some digits => isDigits digits
  isWhole && isFraction && isExponent

def constants : List String := ["True", "False", "None"]

/-- What a part of the arguments follows. -/
inductive Place where
  | start
  | comma
  | sign
  | argument
  | quoted
deriving DecidableEq, Repr

/-- Whether an argument may stand behind some place. -/
def Place.isFree (place : Place) : Bool := place = .start || place = .comma

/-- Whether an argument has been read at some place. -/
def Place.isFilled (place : Place) : Bool := place = .argument || place = .quoted

/-- Whether the parts behind some place, inside of `depth` groups, are arguments set apart by
commas. A comma may also stand behind the last of them. -/
def areArguments (place : Place) (depth : Nat) : List Lexeme → Bool
  | [] => depth = 0 && (place.isFilled || place = .comma)
  | .opening :: rest => place.isFree && areArguments .start (depth + 1) rest
  | .closing :: rest => depth ≠ 0 && place ≠ .sign && areArguments .argument (depth - 1) rest
  | .comma :: rest => place.isFilled && areArguments .comma depth rest
  | .sign :: rest => place.isFree && areArguments .sign depth rest
  | .quoted :: rest => (place.isFree || place = .quoted) && areArguments .quoted depth rest
  | .word text :: rest =>
    let isConstant := place.isFree && constants.contains (String.ofList text)
    let isNumber := (place.isFree || place = .sign) && isNumber text
    (isConstant || isNumber) && areArguments .argument depth rest

def isArguments (text : List Char) : Bool :=
  match lexemes? [] none text with
  | none => false
  | some lexemes => areArguments .start 0 lexemes

/-- Whether a character may stand in the name of a handler. -/
def isNameChar (c : Char) : Bool :=
  c.isAlphanum || c = '_' || c = '.' || (0x7F < c.toNat && !isBlank c)

/-- Whether the parameters of a tag name a handler, its arguments, or both. -/
def isReadable (parameters : List Char) : Bool :=
  let text := trim parameters
  let group := text.dropWhile isNameChar
  if group.isEmpty then true
  else if group.head? = some '(' && group.getLast? = some ')' && !group.contains '\n' then
    isArguments group
  else isArguments text

end EditorPlugins.CommandLine.Handler
