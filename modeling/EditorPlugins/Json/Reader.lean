import EditorPlugins.Text.Digit
import EditorPlugins.Value.Basic

/-! # Reading JSON

A document is one value between blanks, nested to any depth. Numbers without fraction and exponent
are whole numbers of any size up to the digit limit; the names of the special numbers are accepted.
A member whose key came before replaces the earlier value. A refusal says what was expected and
where, the place being given by the text that was left. A half of a pair of units is no character
here: one that stands alone is read as the replacement character.
-/

namespace EditorPlugins.Json

open Number

/-- What is wrong with a text that is not JSON. -/
inductive Fault where
  | expectingValue
  | expectingComma
  | expectingColon
  | expectingName
  | extraData
  | unterminatedText
  | controlCharacter
  | badEscape
  | badUnicodeEscape
  | byteOrderMark
deriving DecidableEq, Repr

namespace Fault

def message : Fault → String
  | expectingValue => "Expecting value"
  | expectingComma => "Expecting ',' delimiter"
  | expectingColon => "Expecting ':' delimiter"
  | expectingName => "Expecting property name enclosed in double quotes"
  | extraData => "Extra data"
  | unterminatedText => "Unterminated string starting at"
  | controlCharacter => "Invalid control character at"
  | badEscape => "Invalid \\escape"
  | badUnicodeEscape => "Invalid \\uXXXX escape"
  | byteOrderMark => "Unexpected UTF-8 BOM (decode using utf-8-sig)"

end Fault

/-- A refusal while reading: a fault with the count of characters from its place to the end of the
text, or a number that is too long. -/
inductive Stop where
  | fault (fault : Fault) (left : Nat)
  | number (error : ConversionError)
deriving DecidableEq, Repr

/-- Stop at the start of some remaining text. -/
def stopAt {α : Type} (fault : Fault) (rest : List Char) : Except Stop α :=
  .error (.fault fault rest.length)

/-- The characters that may stand between tokens. -/
def isSpace (c : Char) : Bool := c == ' ' || c == '\t' || c == '\n' || c == '\r'

def skipSpace (cs : List Char) : List Char := cs.dropWhile isSpace

def hexValue? (c : Char) : Option Nat := if c.toNat < 0x80 then Text.hexValue? c else none

/-- The number that four hexadecimal digits write. -/
def unit? (a b c d : Char) : Option Nat := do
  return Text.ofDigits 16 [← hexValue? a, ← hexValue? b, ← hexValue? c, ← hexValue? d]

def escaped? : Char → Option Char
  | '"' => some '"'
  | '\\' => some '\\'
  | '/' => some '/'
  | 'b' => some '\x08'
  | 'f' => some '\x0c'
  | 'n' => some '\n'
  | 'r' => some '\r'
  | 't' => some '\t'
  | _ => none

/-- Whether a unit is the first of a pair. -/
def isHighUnit (n : Nat) : Bool := 0xD800 ≤ n && n < 0xDC00

/-- Whether a unit is the second of a pair. -/
def isLowUnit (n : Nat) : Bool := 0xDC00 ≤ n && n < 0xE000

/-- The character of a unit that stands alone; half a pair has none, and is replaced. -/
def unitChar (n : Nat) : Char := if isHighUnit n || isLowUnit n then '\uFFFD' else Char.ofNat n

/-- The character of a pair of units. -/
def pairChar (high low : Nat) : Char :=
  Char.ofNat (0x10000 + (high - 0xD800) * 0x400 + (low - 0xDC00))

/-- A part of a text: a character, or a unit that was written by its number. -/
inductive Part where
  | char (c : Char)
  | unit (n : Nat)
deriving DecidableEq, Repr

/-- The characters of some parts, neighbouring halves of a pair being one character. -/
def joinParts : List Part → List Char
  | [] => []
  | .unit high :: .unit low :: parts =>
    if isHighUnit high && isLowUnit low then pairChar high low :: joinParts parts
    else unitChar high :: joinParts (.unit low :: parts)
  | .unit n :: parts => unitChar n :: joinParts parts
  | .char c :: parts => c :: joinParts parts

/-- Put a part in front of those that are read. -/
def consPart (part : Part) (read : Except Stop (List Part × List Char)) :
    Except Stop (List Part × List Char) :=
  read.map fun (parts, rest) => (part :: parts, rest)

/-- Read the parts of a text up to its closing quote. A text that does not end is reported at its
opening quote, from which `left` characters remain. Something must follow an escape by number. -/
def readParts (left : Nat) : List Char → Except Stop (List Part × List Char)
  | [] => .error (.fault .unterminatedText left)
  | '"' :: rest => .ok ([], rest)
  | ['\\'] => .error (.fault .unterminatedText left)
  | '\\' :: 'u' :: a :: b :: c :: d :: rest =>
    match rest.isEmpty, unit? a b c d with
    | false, some n => consPart (.unit n) (readParts left rest)
    | _, _ => .error (.fault .badUnicodeEscape (rest.length + 5))
  | '\\' :: 'u' :: rest => .error (.fault .badUnicodeEscape (rest.length + 1))
  | '\\' :: c :: rest =>
    match escaped? c with
    | some escaped => consPart (.char escaped) (readParts left rest)
    | none => .error (.fault .badEscape (rest.length + 2))
  | c :: rest =>
    if c.toNat < 0x20 then .error (.fault .controlCharacter (rest.length + 1))
    else consPart (.char c) (readParts left rest)

def readText (left : Nat) (cs : List Char) : Except Stop (List Char × List Char) :=
  (readParts left cs).map fun (parts, rest) => (joinParts parts, rest)

/-- The ASCII digits at the start of a text, as numbers, and the rest. -/
def splitDigits : List Char → List Nat × List Char
  | [] => ([], [])
  | c :: cs =>
    if '0' ≤ c && c ≤ '9' then
      let (digits, rest) := splitDigits cs
      ((c.toNat - 0x30) :: digits, rest)
    else ([], c :: cs)

/-- The whole part of a number: a zero alone, or digits that do not start with one. -/
def splitWhole : List Char → List Nat × List Char
  | '0' :: cs => ([0], cs)
  | cs => splitDigits cs

/-- The digits after a point; a point without digits does not belong to the number. -/
def splitFraction : List Char → Option (List Nat) × List Char
  | '.' :: cs =>
    match splitDigits cs with
    | ([], _) => (none, '.' :: cs)
    | (digits, rest) => (some digits, rest)
  | cs => (none, cs)

/-- The exponent; a mark without digits does not belong to the number. -/
def splitExponent (cs : List Char) : Option Int × List Char :=
  match cs with
  | mark :: rest =>
    if mark = 'e' || mark = 'E' then
      let (negative, unsigned) := splitSign rest
      match splitDigits unsigned with
      | ([], _) => (none, cs)
      | (digits, rest) => (some (signed negative (Text.ofDigits 10 digits)), rest)
    else (none, cs)
  | [] => (none, cs)

def readNumber (cs : List Char) : Except Stop (Value × List Char) :=
  let (negative, unsigned) :=
    match cs with
    | '-' :: rest => (true, rest)
    | rest => (false, rest)
  match splitWhole unsigned with
  | ([], _) => stopAt .expectingValue cs
  | (whole, rest) =>
    let (fraction, rest) := splitFraction rest
    let (exponent, rest) := splitExponent rest
    if fraction.isNone && exponent.isNone then
      match readNat whole with
      | .ok n => .ok (.int (signed negative n), rest)
      | .error error => .error (.number error)
    else
      let fraction := fraction.getD []
      let power := exponent.getD 0 - fraction.length
      .ok (.float (Double.ofDecimal negative (whole ++ fraction) power), rest)

/-- The values that are written as a name. -/
def names : List (List Char × Value) :=
  [("null".toList, .null), ("true".toList, .bool true), ("false".toList, .bool false),
    ("NaN".toList, .float Double.nan), ("Infinity".toList, .float (Double.infinity false)),
    ("-Infinity".toList, .float (Double.infinity true))]

def readScalar (cs : List Char) : Except Stop (Value × List Char) :=
  match names.find? fun name => name.1.isPrefixOf cs with
  | some (name, value) => .ok (value, cs.drop name.length)
  | none => readNumber cs

mutual

/-- Read one value; `fuel` bounds the depth and the count of the tokens that remain. -/
def readValue : (fuel : Nat) → List Char → Except Stop (Value × List Char)
  | 0, cs => stopAt .expectingValue cs
  | _ + 1, [] => stopAt .expectingValue []
  | fuel + 1, c :: cs =>
    if c = '"' then (readText (cs.length + 1) cs).map fun (text, rest) =>
      (.text (String.ofList text), rest)
    else if c = '[' then
      match skipSpace cs with
      | ']' :: rest => .ok (.list [], rest)
      | rest => (readItems fuel rest).map fun (items, rest) => (.list items, rest)
    else if c = '\x7b' then
      match skipSpace cs with
      | '\x7d' :: rest => .ok (.map [], rest)
      | rest => (readMembers fuel [] rest).map fun (entries, rest) => (.map entries, rest)
    else readScalar (c :: cs)

def readItems : (fuel : Nat) → List Char → Except Stop (List Value × List Char)
  | 0, cs => stopAt .expectingValue cs
  | fuel + 1, cs => do
    let (item, rest) ← readValue fuel cs
    match skipSpace rest with
    | ']' :: rest => return ([item], rest)
    | ',' :: rest =>
      let (items, rest) ← readItems fuel (skipSpace rest)
      return (item :: items, rest)
    | rest => stopAt .expectingComma rest

/-- Read the members of a map up to its closing brace, after those already read. -/
def readMembers : (fuel : Nat) → Mapping → List Char → Except Stop (Mapping × List Char)
  | 0, _, cs => stopAt .expectingName cs
  | fuel + 1, entries, cs => do
    let (key, rest) ←
      match cs with
      | '"' :: rest => readText cs.length rest
      | _ => stopAt .expectingName cs
    let rest ←
      match skipSpace rest with
      | ':' :: rest => pure (skipSpace rest)
      | rest => stopAt .expectingColon rest
    let (value, rest) ← readValue fuel rest
    let entries := Mapping.setField entries (String.ofList key) value
    match skipSpace rest with
    | '\x7d' :: rest => return (entries, rest)
    | ',' :: rest => readMembers fuel entries (skipSpace rest)
    | rest => stopAt .expectingComma rest

end

/-- Read a document: one value between blanks. -/
def readDocument (cs : List Char) : Except Stop Value := do
  let (value, rest) ← readValue (2 * cs.length + 2) (skipSpace cs)
  match skipSpace rest with
  | [] => return value
  | rest => stopAt .extraData rest

/-- A place in a text: the count of characters before it, and its line and column from one. -/
structure Place where
  offset : Nat
  line : Nat
  column : Nat
deriving DecidableEq, Repr

namespace Place

def next (place : Place) (c : Char) : Place :=
  if c = '\n' then ⟨place.offset + 1, place.line + 1, 1⟩
  else ⟨place.offset + 1, place.line, place.column + 1⟩

/-- The place after some text. -/
def after (cs : List Char) : Place := cs.foldl next ⟨0, 1, 1⟩

end Place

/-- Why a text is refused. -/
inductive ReadError where
  | malformed (fault : Fault) (place : Place)
  | number (error : ConversionError)
deriving DecidableEq, Repr

def faultText (fault : Fault) (place : Place) : String :=
  fault.message ++ ": line " ++ natText place.line ++ " column " ++ natText place.column ++
    " (char " ++ natText place.offset ++ ")"

def read (text : String) : Except ReadError Value :=
  let cs := text.toList
  match cs with
  | '\uFEFF' :: _ => .error (.malformed .byteOrderMark (Place.after []))
  | _ =>
    match readDocument cs with
    | .ok value => .ok value
    | .error (.fault fault left) =>
      .error (.malformed fault (Place.after (cs.take (cs.length - left))))
    | .error (.number error) => .error (.number error)

end EditorPlugins.Json
