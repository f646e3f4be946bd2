import EditorPlugins.Text.Digit
import EditorPlugins.Yaml.Cursor

/-! # Scalars and names in a YAML text

A plain scalar ends where the structure goes on, a quoted one at its quote, and a block scalar
where the indentation falls back. Inside a scalar a single line ending is folded into a space, and
further ones are kept. Loops over the lines of a scalar carry fuel, for which the length of the
remaining text is enough.
-/

namespace EditorPlugins.Yaml

open Text

/-- Fold the ends of lines between two words: the first one becomes a space unless it stands for
itself or others follow. -/
def foldBreaks (first more : List Char) : List Char :=
  if first ≠ ['\n'] then first ++ more else if more.isEmpty then [' '] else more

/-- A name after an indicator; nothing but the end of a word may follow it. -/
def readName (cursor : Cursor) : Read (List Char × Cursor) :=
  let (name, cursor) := cursor.step.takeWhile isWord
  let next := cursor.head
  if name.isEmpty then .error .malformed
  else if isBlankOrEnd next || ['?', ':', ',', ']', '\x7d', '%', '@', '\x60'].contains next then
    .ok (name, cursor)
  else .error .malformed

/-- The characters of a tag besides letters, digits and escapes. -/
def isTagChar (c : Char) : Bool :=
  c.isAlphanum || "-;/?:@&=+$,_.!~*'()[]".toList.contains c

/-- The number that two hexadecimal digits write. -/
def octet? (high low : Char) : Option Nat := do
  if high.toNat < 0x80 && low.toNat < 0x80 then
    return 0x10 * (← hexValue? high) + (← hexValue? low)
  else none

/-- The characters of a tag, where an octet may be escaped. -/
def tagChars : List Char → Option (List Char × Nat)
  | '%' :: a :: b :: cs => do
    let n ← octet? a b
    let (rest, count) := (tagChars cs).getD ([], 0)
    return (Char.ofNat n :: rest, count + 3)
  | c :: cs =>
    if isTagChar c then
      let (rest, count) := (tagChars cs).getD ([], 0)
      some (c :: rest, count + 1)
    else none
  | [] => none

/-- Read the characters of a tag; there must be some. -/
def readTagChars (cursor : Cursor) : Read (List Char × Cursor) :=
  match tagChars cursor.rest with
  | none => .error .malformed
  | some (text, count) => .ok (text, cursor.skip count)

/-- Read the handle of a tag: an exclamation mark, or a word between two. -/
def readHandle (cursor : Cursor) : Read (List Char × Cursor) :=
  if cursor.head ≠ '!' then .error .malformed
  else
    let (word, after) := cursor.step.takeWhile isWord
    if after.head = '!' then .ok ('!' :: word ++ ['!'], after.step)
    else if word.isEmpty && after.head = ' ' then .ok (['!'], after)
    else .error .malformed

/-- A tag: a handle, which verbatim tags do not have, and what it is completed with. -/
structure Tag where
  handle : Option String
  text : String
deriving DecidableEq, Repr

/-- Read a tag; a gap must follow it. -/
def readTag (cursor : Cursor) : Read (Tag × Cursor) := do
  let (tag, cursor) ←
    if cursor.peek 1 = '<' then do
      let (text, cursor) ← readTagChars (cursor.skip 2)
      if cursor.head ≠ '>' then throw .malformed
      pure (Tag.mk none (String.ofList text), cursor.step)
    else if isBlankOrEnd (cursor.peek 1) then pure (Tag.mk none "!", cursor.step)
    else do
      let word := cursor.step.rest.takeWhile fun c => !isGap c
      let (handle, cursor) ←
        if word.contains '!' then readHandle cursor else pure (['!'], cursor.step)
      let (text, cursor) ← readTagChars cursor
      pure (Tag.mk (some (String.ofList handle)) (String.ofList text), cursor)
  if isGap cursor.head then return (tag, cursor) else throw .malformed

/-- Skip the spaces and line ends after a plain word. Gives the text between this word and the
next, whether a line ended, and the cursor; the text is missing before a separator. -/
def skipPlainBreaks : (fuel : Nat) → Cursor → Option (List Char) × Cursor
  | 0, cursor => (some [], cursor)
  | fuel + 1, cursor =>
    let cursor := cursor.dropWhile (· == ' ')
    if isBreak cursor.head then
      let (found, cursor) := cursor.lineBreak
      if cursor.startsSeparator then (none, cursor)
      else
        let (more, cursor) := skipPlainBreaks fuel cursor
        (more.map (found ++ ·), cursor)
    else (some [], cursor)

/-- What stands between two plain words. -/
structure PlainGap where
  text : List Char
  newLine : Bool
  cursor : Cursor

def readPlainGap (cursor : Cursor) : PlainGap :=
  let (spaces, cursor) := cursor.takeWhile (· == ' ')
  if isBreak cursor.head then
    let (first, cursor) := cursor.lineBreak
    if cursor.startsSeparator then ⟨[], true, cursor⟩
    else
      match skipPlainBreaks (cursor.rest.length + 1) cursor with
      | (none, cursor) => ⟨[], true, cursor⟩
      | (some more, cursor) => ⟨foldBreaks first more, true, cursor⟩
  else ⟨spaces, false, cursor⟩

/-- The characters that structure collections written in brackets. -/
def isFlowMark (c : Char) : Bool := c == ',' || c == '[' || c == ']' || c == '\x7b' || c == '\x7d'

/-- The length of the plain word at the start of a text. -/
def plainLength (flow : Bool) : List Char → Nat
  | [] => 0
  | c :: cs =>
    let next := cs.head?.getD endMark
    if isBlankOrEnd c || (c == ':' && (isBlankOrEnd next || (flow && isFlowMark next))) ||
      (flow && (c == '?' || isFlowMark c)) then 0
    else plainLength flow cs + 1

/-- A scalar that was read, whether a new line started behind it, and the cursor there. -/
structure Lexeme where
  text : List Char
  newLine : Bool
  cursor : Cursor

/-- Read the words of a plain scalar whose further lines have at least some indentation. -/
def readPlain (flow : Bool) (indent : Nat) : (fuel : Nat) → Cursor → Lexeme
  | 0, cursor => ⟨[], false, cursor⟩
  | fuel + 1, cursor =>
    let length := if cursor.head == '#' then 0 else plainLength flow cursor.rest
    if length = 0 then ⟨[], false, cursor⟩
    else
      let word := cursor.rest.take length
      let gap := readPlainGap (cursor.skip length)
      if gap.text.isEmpty || gap.cursor.head == '#' || (!flow && gap.cursor.column < indent) then
        ⟨word, gap.newLine, gap.cursor⟩
      else
        let next := readPlain flow indent fuel gap.cursor
        if next.text.isEmpty then ⟨word, gap.newLine, gap.cursor⟩
        else ⟨word ++ gap.text ++ next.text, next.newLine, next.cursor⟩

def escaped? (c : Char) : Option Char :=
  match c with
  | '0' => some '\x00'
  | 'a' => some '\x07'
  | 'b' => some '\x08'
  | 't' => some '\t'
  | '\t' => some '\t'
  | 'n' => some '\n'
  | 'v' => some '\x0b'
  | 'f' => some '\x0c'
  | 'r' => some '\r'
  | 'e' => some '\x1b'
  | ' ' => some ' '
  | '"' => some '"'
  | '\\' => some '\\'
  | '/' => some '/'
  | 'N' => some '\x85'
  | '_' => some '\xa0'
  | 'L' => some '\u2028'
  | 'P' => some '\u2029'
  | _ => none

/-- The count of digits of an escape by number. -/
def escapeWidth? (c : Char) : Option Nat :=
  match c with
  | 'x' => some 2
  | 'u' => some 4
  | 'U' => some 8
  | _ => none

/-- The number that ASCII hexadecimal digits write. -/
def hexNumber? (cs : List Char) : Option Nat :=
  (cs.mapM fun c => if c.toNat < 0x80 then hexValue? c else none).map (ofDigits 16)

/-- Skip the empty lines inside a quoted scalar; a separator may not stand there. -/
def readQuotedBreaks : (fuel : Nat) → Cursor → Read (List Char × Cursor)
  | 0, cursor => .ok ([], cursor)
  | fuel + 1, cursor =>
    if cursor.startsSeparator then .error .malformed
    else
      let cursor := cursor.dropWhile isSpace
      if isBreak cursor.head then do
        let (found, cursor) := cursor.lineBreak
        let (more, cursor) ← readQuotedBreaks fuel cursor
        return (found ++ more, cursor)
      else .ok ([], cursor)

def readEscape (cursor : Cursor) : Read (List Char × Cursor) :=
  let c := cursor.head
  match escaped? c, escapeWidth? c with
  | some escaped, _ => .ok ([escaped], cursor.step)
  | none, some width =>
    let digits := cursor.step.rest.take width
    if digits.length < width then .error .malformed
    else
      match hexNumber? digits with
      | none => .error .malformed
      | some n =>
        if 0x80000000 ≤ n then
          .error (.refused (.tooLarge "Python int too large to convert to C int"))
        else if 0x110000 ≤ n then .error (.value "chr() arg not in range(0x110000)")
        else .ok ([Char.ofNat n], cursor.skip (width + 1))
  | none, none =>
    if isBreak c then
      let cursor := cursor.lineBreak.2
      readQuotedBreaks (cursor.rest.length + 1) cursor
    else .error .malformed

/-- Read the blanks and line ends inside a quoted scalar. -/
def readQuotedGap (cursor : Cursor) : Read (List Char × Cursor) :=
  let (spaces, cursor) := cursor.takeWhile isSpace
  if cursor.head == endMark then .error .malformed
  else if isBreak cursor.head then do
    let (first, cursor) := cursor.lineBreak
    let (more, cursor) ← readQuotedBreaks (cursor.rest.length + 1) cursor
    return (foldBreaks first more, cursor)
  else .ok (spaces, cursor)

def readQuoted (double : Bool) : (fuel : Nat) → Cursor → Read (List Char × Cursor)
  | 0, _ => .error .malformed
  | fuel + 1, cursor => do
    let c := cursor.head
    let (text, cursor) ←
      if !double && c == '\'' && cursor.peek 1 == '\'' then pure (['\''], cursor.skip 2)
      else if c == (if double then '"' else '\'') then return ([], cursor.step)
      else if double && c == '\\' then readEscape cursor.step
      else if isBlankOrEnd c then readQuotedGap cursor
      else pure ([c], cursor.step)
    let (rest, cursor) ← readQuoted double fuel cursor
    return (text ++ rest, cursor)

/-- What a block scalar does with the line ends at its end. -/
inductive Chomping where
  | strip
  | clip
  | keep
deriving DecidableEq, Repr

/-- The chomping that a sign asks for. -/
def chomping? (c : Char) : Option Chomping :=
  if c == '+' then some .keep else if c == '-' then some .strip else none

/-- The indentation that a digit asks for; there is no indentation of zero. -/
def indentation? (c : Char) : Option Nat :=
  if '0' ≤ c && c ≤ '9' then some (c.toNat - 0x30) else none

/-- The header of a block scalar: its chomping and its indentation, in either order. -/
def readHeader (cursor : Cursor) : Read (Chomping × Option Nat × Cursor) := do
  let (chomping, indentation, cursor) :=
    match chomping? cursor.head, indentation? cursor.head with
    | some chomping, _ =>
      match indentation? cursor.step.head with
      | some n => (chomping, some n, cursor.skip 2)
      | none => (chomping, none, cursor.step)
    | none, some n =>
      match chomping? cursor.step.head with
      | some chomping => (chomping, some n, cursor.skip 2)
      | none => (.clip, some n, cursor.step)
    | none, none => (Chomping.clip, none, cursor)
  if indentation = some 0 || !isGap cursor.head then throw .malformed
  return (chomping, indentation, ← cursor.finishLine)

/-- Skip the empty lines in front of a block scalar: their ends, and the greatest indentation. -/
def readLeading : (fuel : Nat) → Nat → Cursor → List Char × Nat × Cursor
  | 0, deepest, cursor => ([], deepest, cursor)
  | fuel + 1, deepest, cursor =>
    let cursor := cursor.dropWhile (· == ' ')
    let deepest := max deepest cursor.column
    if isBreak cursor.head then
      let (found, cursor) := cursor.lineBreak
      let (more, deepest, cursor) := readLeading fuel deepest cursor
      (found ++ more, deepest, cursor)
    else ([], deepest, cursor)

def skipIndent (cursor : Cursor) (indent : Nat) : Cursor :=
  let spaces := (cursor.rest.takeWhile (· == ' ')).length
  cursor.skip (min spaces (indent - cursor.column))

/-- Skip the empty lines between the lines of a block scalar, and the next line's indentation. -/
def readBlockBreaks (indent : Nat) : (fuel : Nat) → Cursor → List Char × Cursor
  | 0, cursor => ([], cursor)
  | fuel + 1, cursor =>
    let cursor := skipIndent cursor indent
    if isBreak cursor.head then
      let (found, cursor) := cursor.lineBreak
      let (more, cursor) := readBlockBreaks indent fuel cursor
      (found ++ more, cursor)
    else ([], cursor)

/-- Read the lines of a block scalar. Between two lines that start with no blank, folding makes a
space of a single line end. -/
def readBlockLines (folded : Bool) (chomping : Chomping) (indent : Nat) :
    (fuel : Nat) → (breaks : List Char) → Cursor → List Char × Cursor
  | 0, _, cursor => ([], cursor)
  | fuel + 1, breaks, cursor =>
    let flush := !isSpace cursor.head
    let (line, cursor) := cursor.takeWhile fun c => !isLineEnd c
    let (ending, cursor) := cursor.lineBreak
    let (more, cursor) := readBlockBreaks indent (cursor.rest.length + 1) cursor
    if cursor.column = indent && cursor.head ≠ endMark then
      let between :=
        if folded && ending = ['\n'] && flush && !isSpace cursor.head then
          if more.isEmpty then [' '] else []
        else ending
      let (rest, cursor) := readBlockLines folded chomping indent fuel more cursor
      (breaks ++ line ++ between ++ rest, cursor)
    else
      let tail :=
        match chomping with
        | .strip => []
        | .clip => ending
        | .keep => ending ++ more
      (breaks ++ line ++ tail, cursor)

/-- Read a block scalar that stands in a collection with some indentation. -/
def readBlock (folded : Bool) (minimum : Nat) (cursor : Cursor) : Read (List Char × Cursor) := do
  let (chomping, indentation, cursor) ← readHeader cursor.step
  let minimum := max minimum 1
  let (breaks, indent, cursor) :=
    match indentation with
    | none =>
      let (breaks, deepest, cursor) := readLeading (cursor.rest.length + 1) 0 cursor
      (breaks, max minimum deepest, cursor)
    | some n =>
      let indent := minimum + n - 1
      let (breaks, cursor) := readBlockBreaks indent (cursor.rest.length + 1) cursor
      (breaks, indent, cursor)
  if cursor.column = indent && cursor.head ≠ endMark then
    return readBlockLines folded chomping indent (cursor.rest.length + 1) breaks cursor
  else
    return (if chomping = .keep then breaks else [], cursor)

end EditorPlugins.Yaml
