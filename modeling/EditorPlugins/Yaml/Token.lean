import EditorPlugins.Yaml.Lexeme

/-! # The tokens of a YAML text

Indentation is made visible: a token starts each block collection and another one ends it. A word
turns out to be a key only at the colon behind it, so its place among the tokens is remembered, and
the tokens of the key are put in front of it then. Such a place is given up at the end of its line;
where the indentation asks for a key, giving it up is an error.
-/

namespace EditorPlugins.Yaml

/-- A piece of the structure of a text. -/
inductive Token where
  | version (major : Nat)
  | tagHandle (handle meaning : String)
  | otherDirective
  | documentStart
  | documentEnd
  | blockList
  | blockMap
  | blockEnd
  | flowListStart
  | flowListEnd
  | flowMapStart
  | flowMapEnd
  | blockEntry
  | flowEntry
  | key
  | value
  | alias (name : String)
  | anchor (name : String)
  | tag (tag : Tag)
  | scalar (plain : Bool) (text : String)
deriving DecidableEq, Repr

/-- The place of a word that may turn out to be a key. -/
structure KeyPlace where
  flowLevel : Nat
  number : Nat
  required : Bool
  index : Nat
  line : Nat
  column : Nat

/-- The state between tokens. The latest token comes first, and so does the deepest indentation;
columns are counted from one there, so that the indentation of the whole text is zero. -/
structure Scan where
  cursor : Cursor
  tokens : List Token
  flowLevel : Nat
  indents : List Nat
  keyAllowed : Bool
  keyPlaces : List KeyPlace

namespace Scan

def start (cs : List Char) : Scan := ⟨Cursor.start cs, [], 0, [], true, []⟩

/-- The indentation of the innermost block collection, one more than its column. -/
def indent (scan : Scan) : Nat := scan.indents.head?.getD 0

def inFlow (scan : Scan) : Bool := scan.flowLevel ≠ 0

def push (scan : Scan) (token : Token) : Scan := { scan with tokens := token :: scan.tokens }

/-- Put a token in front of the one with some number. -/
def insert (scan : Scan) (number : Nat) (token : Token) : Scan :=
  let later := scan.tokens.length - number
  { scan with tokens := scan.tokens.take later ++ token :: scan.tokens.drop later }

def skip (scan : Scan) (count : Nat) : Scan := { scan with cursor := scan.cursor.skip count }

/-- End the block collections that are indented further than some column, counted from one. -/
def unwindTo (column : Nat) : (indents : List Nat) → List Token → List Nat × List Token
  | [], tokens => ([], tokens)
  | indent :: rest, tokens =>
    if column < indent then unwindTo column rest (.blockEnd :: tokens) else (indent :: rest, tokens)

/-- End the block collections that are indented further than some column, outside brackets. -/
def unwind (scan : Scan) (column : Nat) : Scan :=
  if scan.inFlow then scan
  else
    let (indents, tokens) := unwindTo column scan.indents scan.tokens
    { scan with indents := indents, tokens := tokens }

/-- Start a block collection at a column, counted from zero, if it is indented further than the
innermost one; says whether it was. -/
def deepen (scan : Scan) (column : Nat) : Bool × Scan :=
  if scan.indent < column + 1 then (true, { scan with indents := (column + 1) :: scan.indents })
  else (false, scan)

/-- Give up the place at the level of the scan. -/
def forgetPlace (scan : Scan) : Read Scan :=
  if scan.keyPlaces.any fun place => place.flowLevel = scan.flowLevel && place.required then
    .error .malformed
  else
    .ok { scan with
      keyPlaces := scan.keyPlaces.filter fun place => place.flowLevel ≠ scan.flowLevel }

/-- Whether a place is too far back for the cursor. -/
def isStale (scan : Scan) (place : KeyPlace) : Bool :=
  place.line ≠ scan.cursor.line || 1024 < scan.cursor.index - place.index

/-- Give up the places that are too far back. -/
def dropStale (scan : Scan) : Read Scan :=
  if scan.keyPlaces.any fun place => scan.isStale place && place.required then .error .malformed
  else .ok { scan with keyPlaces := scan.keyPlaces.filter fun place => !scan.isStale place }

/-- Remember the place of the next token if it may be a key. -/
def savePlace (scan : Scan) : Read Scan := do
  if !scan.keyAllowed then return scan
  let cursor := scan.cursor
  let required := !scan.inFlow && scan.indent = cursor.column + 1
  let kept ← scan.forgetPlace
  let place : KeyPlace :=
    ⟨scan.flowLevel, scan.tokens.length, required, cursor.index, cursor.line, cursor.column⟩
  return { kept with keyPlaces := place :: kept.keyPlaces }

/-- Skip blanks, comments and line ends; outside brackets a key may start on a new line. -/
def toNextToken : (fuel : Nat) → Scan → Scan
  | 0, scan => scan
  | fuel + 1, scan =>
    let cursor := (scan.cursor.dropWhile (· == ' ')).skipComment
    if isBreak cursor.head then
      toNextToken fuel { scan with
        cursor := cursor.lineBreak.2, keyAllowed := scan.keyAllowed || !scan.inFlow }
    else { scan with cursor := cursor }

/-- The end of all block collections, before a directive, a separator or the end of the text. -/
def closeBlocks (scan : Scan) : Read Scan := do
  let scan ← (scan.unwind 0).forgetPlace
  return { scan with keyAllowed := false }

/-- Read the digits of a version's number. -/
def readVersionNumber (cursor : Cursor) : Read (Nat × Cursor) :=
  let (digits, cursor) := cursor.takeWhile Char.isDigit
  if digits.isEmpty then .error .malformed
  else
    match Number.readNat (digits.filterMap Text.digitValue?) with
    | .ok n => .ok (n, cursor)
    | .error cause => .error (.number cause)

/-- Read a directive: the version, the meaning of a tag handle, or one that means nothing. -/
def readDirective (cursor : Cursor) : Read (Token × Cursor) := do
  let (name, cursor) := cursor.step.takeWhile isWord
  if name.isEmpty || !isGap cursor.head then throw .malformed
  let (token, cursor) ←
    if name = "YAML".toList then do
      let (major, cursor) ← readVersionNumber (cursor.dropWhile (· == ' '))
      if cursor.head ≠ '.' then throw .malformed
      let (_, cursor) ← readVersionNumber cursor.step
      if !isGap cursor.head then throw .malformed
      pure (Token.version major, cursor)
    else if name = "TAG".toList then do
      let (handle, cursor) ← readHandle (cursor.dropWhile (· == ' '))
      if cursor.head ≠ ' ' then throw .malformed
      let (meaning, cursor) ← readTagChars (cursor.dropWhile (· == ' '))
      if !isGap cursor.head then throw .malformed
      pure (Token.tagHandle (String.ofList handle) (String.ofList meaning), cursor)
    else pure (Token.otherDirective, cursor.dropWhile fun c => !isLineEnd c)
  return (token, ← cursor.finishLine)

def scanDirective (scan : Scan) : Read Scan := do
  let scan ← scan.closeBlocks
  let (token, cursor) ← readDirective scan.cursor
  return { scan.push token with cursor := cursor }

def scanSeparator (scan : Scan) (token : Token) : Read Scan := do
  return (← scan.closeBlocks).skip 3 |>.push token

def scanFlowStart (scan : Scan) (token : Token) : Read Scan := do
  let scan ← scan.savePlace
  return { scan.skip 1 |>.push token with flowLevel := scan.flowLevel + 1, keyAllowed := true }

def scanFlowEnd (scan : Scan) (token : Token) : Read Scan := do
  let scan ← scan.forgetPlace
  return { scan.skip 1 |>.push token with flowLevel := scan.flowLevel - 1, keyAllowed := false }

def scanFlowEntry (scan : Scan) : Read Scan := do
  let scan ← scan.forgetPlace
  return { scan.skip 1 |>.push .flowEntry with keyAllowed := true }

/-- Outside brackets, start a block collection at the cursor if it is indented further. -/
def openBlock (scan : Scan) (token : Token) : Scan :=
  if scan.inFlow then scan
  else
    match scan.deepen scan.cursor.column with
    | (true, scan) => scan.push token
    | (false, scan) => scan

def scanBlockEntry (scan : Scan) : Read Scan := do
  if !scan.inFlow && !scan.keyAllowed then throw .malformed
  let scan ← (scan.openBlock .blockList).forgetPlace
  return { scan.skip 1 |>.push .blockEntry with keyAllowed := true }

/-- The mark of an explicit key. -/
def scanKey (scan : Scan) : Read Scan := do
  if !scan.inFlow && !scan.keyAllowed then throw .malformed
  let scan ← (scan.openBlock .blockMap).forgetPlace
  return { scan.skip 1 |>.push .key with keyAllowed := !scan.inFlow }

/-- The colon in front of a value. The word at the place of this level, if there is one, is its
key. -/
def scanValue (scan : Scan) : Read Scan := do
  match scan.keyPlaces.find? fun place => place.flowLevel = scan.flowLevel with
  | some place =>
    let scan := { scan with
      keyPlaces := scan.keyPlaces.filter fun place => place.flowLevel ≠ scan.flowLevel }
    let scan := scan.insert place.number .key
    let scan :=
      if scan.inFlow then scan
      else
        match scan.deepen place.column with
        | (true, scan) => scan.insert place.number .blockMap
        | (false, scan) => scan
    return { scan.skip 1 |>.push .value with keyAllowed := false }
  | none =>
    if !scan.inFlow && !scan.keyAllowed then throw .malformed
    let scan := scan.openBlock .blockMap
    return { scan.skip 1 |>.push .value with keyAllowed := !scan.inFlow }

def scanName (scan : Scan) (token : String → Token) : Read Scan := do
  let scan ← scan.savePlace
  let (name, cursor) ← readName scan.cursor
  return { scan.push (token (String.ofList name)) with cursor := cursor, keyAllowed := false }

def scanTag (scan : Scan) : Read Scan := do
  let scan ← scan.savePlace
  let (tag, cursor) ← readTag scan.cursor
  return { scan.push (.tag tag) with cursor := cursor, keyAllowed := false }

/-- A block scalar; a key may follow it. -/
def scanBlock (scan : Scan) (folded : Bool) : Read Scan := do
  let scan ← scan.forgetPlace
  let (text, cursor) ← readBlock folded scan.indent scan.cursor
  let scan := scan.push (.scalar false (String.ofList text))
  return { scan with cursor := cursor, keyAllowed := true }

def scanQuoted (scan : Scan) (double : Bool) : Read Scan := do
  let scan ← scan.savePlace
  let (text, cursor) ← readQuoted double scan.cursor.rest.length scan.cursor.step
  return { scan.push (.scalar false (String.ofList text)) with
    cursor := cursor, keyAllowed := false }

/-- A plain scalar; a key may follow it on a new line. -/
def scanPlain (scan : Scan) : Read Scan := do
  let scan ← scan.savePlace
  let word := readPlain scan.inFlow scan.indent scan.cursor.rest.length scan.cursor
  return { scan.push (.scalar true (String.ofList word.text)) with
    cursor := word.cursor, keyAllowed := word.newLine }

/-- The characters that do not start a plain scalar. -/
def isIndicator (c : Char) : Bool :=
  isBlankOrEnd c || isFlowMark c || "-?:#&*!|>'\"%@".toList.contains c || c == '\x60'

/-- Whether a plain scalar starts at the cursor. -/
def startsPlain (scan : Scan) : Bool :=
  let c := scan.cursor.head
  !isIndicator c ||
    (!isBlankOrEnd (scan.cursor.peek 1) && (c == '-' || (!scan.inFlow && (c == '?' || c == ':'))))

def scanToken (scan : Scan) : Read Scan :=
  let c := scan.cursor.head
  let alone := isBlankOrEnd (scan.cursor.peek 1)
  let first := scan.cursor.column = 0
  if c == '%' && first then scan.scanDirective
  else if first && scan.cursor.startsMarker '-' then scan.scanSeparator .documentStart
  else if first && scan.cursor.startsMarker '.' then scan.scanSeparator .documentEnd
  else if c == '[' then scan.scanFlowStart .flowListStart
  else if c == '\x7b' then scan.scanFlowStart .flowMapStart
  else if c == ']' then scan.scanFlowEnd .flowListEnd
  else if c == '\x7d' then scan.scanFlowEnd .flowMapEnd
  else if c == ',' then scan.scanFlowEntry
  else if c == '-' && alone then scan.scanBlockEntry
  else if c == '?' && (scan.inFlow || alone) then scan.scanKey
  else if c == ':' && (scan.inFlow || alone) then scan.scanValue
  else if c == '*' then scan.scanName .alias
  else if c == '&' then scan.scanName .anchor
  else if c == '!' then scan.scanTag
  else if c == '|' && !scan.inFlow then scan.scanBlock false
  else if c == '>' && !scan.inFlow then scan.scanBlock true
  else if c == '\'' then scan.scanQuoted false
  else if c == '"' then scan.scanQuoted true
  else if scan.startsPlain then scan.scanPlain
  else .error .malformed

/-- Scan the rest of the text; every token takes at least one character. -/
def run : (fuel : Nat) → Scan → Read (List Token)
  | 0, _ => .error .malformed
  | fuel + 1, scan => do
    let scan ← (scan.toNextToken (scan.cursor.rest.length + 1)).dropStale
    let scan := scan.unwind (scan.cursor.column + 1)
    if scan.cursor.rest.isEmpty then
      let scan ← scan.closeBlocks
      return scan.tokens.reverse
    else run fuel (← scan.scanToken)

end Scan

/-- The characters that may stand in a text. -/
def isAllowed (c : Char) : Bool :=
  let n := c.toNat
  n == 0x09 || n == 0x0A || n == 0x0D || (0x20 ≤ n && n ≤ 0x7E) || n == 0x85 ||
    (0xA0 ≤ n && n ≤ 0xD7FF) || (0xE000 ≤ n && n ≤ 0xFFFD) || 0x10000 ≤ n

/-- The tokens of a text. A byte order mark may stand in front of it. -/
def tokens (cs : List Char) : Read (List Token) :=
  if cs.all isAllowed then
    let scan := Scan.start cs
    let scan := if scan.cursor.head == '\uFEFF' then scan.skip 1 else scan
    scan.run (cs.length + 1)
  else .error .malformed

end EditorPlugins.Yaml
