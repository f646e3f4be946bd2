import EditorPlugins.Number.Decimal
import EditorPlugins.Text.Quoted

/-! # Places in a YAML text

A cursor is the text that remains with the line and column it starts at. A null character stands
for the end of the text, which never holds one itself. Lines end at a feed, a return, both together
or a next-line character, all of which mean one feed, and at the two separators, which stand for
themselves.
-/

namespace EditorPlugins.Yaml

/-- Why a scalar does not have the value that its tag asks for. -/
inductive Refusal where
  /-- A word that is none of those for truth values. -/
  | notTruth (word : String)
  /-- A number of which nothing is written. -/
  | emptyNumber
  | notDate
  /-- A map whose default entry stands for a date. -/
  | mapForDate
  | tooLarge (wording : String)
deriving DecidableEq, Repr

def Refusal.message : Refusal → String
  | notTruth word => Text.literal word
  | emptyNumber => "string index out of range"
  | notDate => "'NoneType' object has no attribute 'groupdict'"
  | mapForDate => "expected string or bytes-like object, got 'list'"
  | tooLarge wording => wording

/-- Why a text is refused: it is no document, or one of its scalars has no value. A document that
holds a set, a list of pairs, or itself has a value, but none that there is a place for here. -/
inductive ReadError where
  | malformed
  | number (cause : Number.ConversionError)
  | value (wording : String)
  | refused (refusal : Refusal)
  | unsupported
deriving DecidableEq, Repr

abbrev Read (α : Type) := Except ReadError α

/-- The character that stands for the end of the text. -/
def endMark : Char := '\x00'

/-- A character that ends a line. -/
def isBreak (c : Char) : Bool :=
  c == '\n' || c == '\r' || c == '\x85' || c == '\u2028' || c == '\u2029'

/-- The end of a line or of the text. -/
def isLineEnd (c : Char) : Bool := c == endMark || isBreak c

/-- A space, or the end of a line or of the text. -/
def isGap (c : Char) : Bool := c == ' ' || isLineEnd c

/-- A blank between words, or the end of a line or of the text. -/
def isBlankOrEnd (c : Char) : Bool := c == '\t' || isGap c

/-- A blank inside a line. -/
def isSpace (c : Char) : Bool := c == ' ' || c == '\t'

/-- The characters of names: ASCII letters, digits, the dash and the underscore. -/
def isWord (c : Char) : Bool := c.isAlphanum || c == '-' || c == '_'

/-- A text that remains, with its place in the whole. -/
structure Cursor where
  rest : List Char
  index : Nat
  line : Nat
  column : Nat

namespace Cursor

def start (cs : List Char) : Cursor := ⟨cs, 0, 0, 0⟩

/-- The character some places ahead, or the mark of the end. -/
def peek (cursor : Cursor) (ahead : Nat) : Char := cursor.rest[ahead]?.getD endMark

/-- The next character, or the mark of the end. -/
def head (cursor : Cursor) : Char := cursor.rest.head?.getD endMark

/-- Step over one character. The byte order mark takes no column. -/
def step (cursor : Cursor) : Cursor :=
  match cursor.rest with
  | [] => cursor
  | c :: rest =>
    if isBreak c && !(c == '\r' && rest.head? == some '\n') then
      ⟨rest, cursor.index + 1, cursor.line + 1, 0⟩
    else if c == '\uFEFF' then ⟨rest, cursor.index + 1, cursor.line, cursor.column⟩
    else ⟨rest, cursor.index + 1, cursor.line, cursor.column + 1⟩

def skip (cursor : Cursor) : Nat → Cursor
  | 0 => cursor
  | count + 1 => cursor.step.skip count

/-- The characters of a class that come next, and the cursor behind them. -/
def takeWhile (cursor : Cursor) (keep : Char → Bool) : List Char × Cursor :=
  let taken := cursor.rest.takeWhile keep
  (taken, cursor.skip taken.length)

/-- The cursor behind the characters of a class. -/
def dropWhile (cursor : Cursor) (drop : Char → Bool) : Cursor := (cursor.takeWhile drop).2

/-- The end of a line: what it means, and the cursor behind it; nothing elsewhere. -/
def lineBreak (cursor : Cursor) : List Char × Cursor :=
  match cursor.rest with
  | '\r' :: '\n' :: _ => (['\n'], cursor.skip 2)
  | c :: _ =>
    if c == '\u2028' || c == '\u2029' then ([c], cursor.step)
    else if isBreak c then (['\n'], cursor.step)
    else ([], cursor)
  | [] => ([], cursor)

/-- Whether a line of three equal marks and nothing more of a word starts here. -/
def startsMarker (cursor : Cursor) (mark : Char) : Bool :=
  [mark, mark, mark].isPrefixOf cursor.rest && isBlankOrEnd (cursor.peek 3)

/-- Whether a line that separates documents starts here. -/
def startsSeparator (cursor : Cursor) : Bool := cursor.startsMarker '-' || cursor.startsMarker '.'

/-- Skip a comment, if one starts here. -/
def skipComment (cursor : Cursor) : Cursor :=
  if cursor.head == '#' then cursor.dropWhile fun c => !isLineEnd c else cursor

/-- Skip the blanks and the comment at the end of a line, and the line ending; nothing else may
stand there. -/
def finishLine (cursor : Cursor) : Read Cursor :=
  let cursor := (cursor.dropWhile (· == ' ')).skipComment
  if isLineEnd cursor.head then .ok cursor.lineBreak.2 else .error .malformed

end Cursor

end EditorPlugins.Yaml
