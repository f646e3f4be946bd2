import EditorPlugins.Yaml.Kind
import EditorPlugins.Yaml.Token

/-! # The tree of a YAML document

The tokens of a document are read as a tree of nodes. A node may be named by an anchor and repeated
by an alias, which stands for the same tree; a map may merge others in, whose entries come before
its own. Trees may be of any depth, and a node that holds itself is none. Reading carries fuel, for
which four times the count of the tokens is enough.
-/

namespace EditorPlugins.Yaml

/-- A node with its kind. -/
inductive Node where
  | scalar (kind : Kind) (text : String)
  | list (kind : Kind) (items : List Node)
  | map (kind : Kind) (entries : List (Node × Node))

namespace Node

def empty : Node := .scalar .null ""

def kind : Node → Kind
  | scalar kind _ => kind
  | list kind _ => kind
  | map kind _ => kind

end Node

/-- What is known between tokens: the tokens ahead, the named nodes, and the tag handles. A node
whose name is known already, but whose end is not, has no tree yet. -/
structure Reader where
  tokens : List Token
  anchors : List (String × Option Node)
  handles : List (String × String)

namespace Reader

def head? (reader : Reader) : Option Token := reader.tokens.head?

def drop (reader : Reader) : Reader := { reader with tokens := reader.tokens.tail }

/-- Whether the next token is one of some, the end of the text being none of them. -/
def sees (reader : Reader) (tokens : List Token) : Bool :=
  match reader.head? with
  | some token => tokens.contains token
  | none => false

/-- The properties in front of a node: its anchor and its tag, in either order. -/
def properties (reader : Reader) : Option String × Option Tag × Reader :=
  match reader.tokens with
  | .anchor name :: .tag tag :: rest => (some name, some tag, { reader with tokens := rest })
  | .tag tag :: .anchor name :: rest => (some name, some tag, { reader with tokens := rest })
  | .anchor name :: rest => (some name, none, { reader with tokens := rest })
  | .tag tag :: rest => (none, some tag, { reader with tokens := rest })
  | _ => (none, none, reader)

/-- The kind that a tag asks for; the lone mark asks for none. -/
def tagKind? (reader : Reader) (tag : Tag) : Read (Option Kind) :=
  match tag.handle with
  | none => .ok (if tag.text = "!" then none else some (Kind.ofTag tag.text))
  | some handle =>
    match reader.handles.lookup handle with
    | some meaning => .ok (some (Kind.ofTag (meaning ++ tag.text)))
    | none => .error .malformed

/-- Begin a node with a name, which may be given once. -/
def beginNamed (reader : Reader) (name : Option String) : Read Reader :=
  match name with
  | none => .ok reader
  | some name =>
    if (reader.anchors.lookup name).isSome then .error .malformed
    else .ok { reader with anchors := (name, none) :: reader.anchors }

def endNamed (reader : Reader) (name : Option String) (node : Node) : Node × Reader :=
  match name with
  | none => (node, reader)
  | some name => (node, { reader with anchors := (name, some node) :: reader.anchors })

/-- Where a node stands: in a block, in a block as the value of a key, or between brackets. -/
inductive Position where
  | block
  | value
  | flow
deriving DecidableEq, Repr

mutual

def readNode (position : Position) : (fuel : Nat) → Reader → Read (Node × Reader)
  | 0, _ => .error .malformed
  | fuel + 1, reader => do
    if let some (.alias name) := reader.head? then
      match reader.anchors.lookup name with
      | some (some node) => return (node, reader.drop)
      | some none => throw .unsupported
      | none => throw .malformed
    let (anchor, tag, reader) := reader.properties
    let reader ← reader.beginNamed anchor
    let asked ←
      match tag with
      | none => pure none
      | some tag => reader.tagKind? tag
    let (node, reader) ←
      match reader.head?, position with
      | some .blockEntry, .value => do
        let (items, reader) ← readIndentless fuel reader
        pure (Node.list (asked.getD .list) items, reader)
      | some (.scalar plain text), _ =>
        let spelled :=
          if plain then Kind.ofText text
          else if tag.isSome then Kind.ofMarked text
          else .text
        pure (Node.scalar (asked.getD spelled) text, reader.drop)
      | some .flowListStart, _ => do
        let (items, reader) ← readFlowItems fuel true reader.drop
        pure (Node.list (asked.getD .list) items, reader)
      | some .flowMapStart, _ => do
        let (entries, reader) ← readFlowEntries fuel true reader.drop
        pure (Node.map (asked.getD .map) entries, reader)
      | some .blockList, .block | some .blockList, .value => do
        let (items, reader) ← readBlockItems fuel reader.drop
        pure (Node.list (asked.getD .list) items, reader)
      | some .blockMap, .block | some .blockMap, .value => do
        let (entries, reader) ← readBlockEntries fuel reader.drop
        pure (Node.map (asked.getD .map) entries, reader)
      | _, _ =>
        if anchor.isSome || tag.isSome then
          pure (Node.scalar (asked.getD (if tag.isSome then Kind.ofText "" else .null)) "", reader)
        else throw .malformed
    return reader.endNamed anchor node

/-- Read a node unless one of some tokens shows that nothing is written. -/
def readUnless (position : Position) (stops : List Token) :
    (fuel : Nat) → Reader → Read (Node × Reader)
  | 0, _ => .error .malformed
  | fuel + 1, reader =>
    if reader.sees stops then .ok (Node.empty, reader) else readNode position fuel reader

/-- Read a value behind its colon; without a colon nothing is written. -/
def readValue (position : Position) (stops : List Token) :
    (fuel : Nat) → Reader → Read (Node × Reader)
  | 0, _ => .error .malformed
  | fuel + 1, reader =>
    if reader.sees [.value] then readUnless position stops fuel reader.drop
    else .ok (Node.empty, reader)

def readBlockItems : (fuel : Nat) → Reader → Read (List Node × Reader)
  | 0, _ => .error .malformed
  | fuel + 1, reader => do
    if reader.sees [.blockEntry] then
      let (item, reader) ← readUnless .block [.blockEntry, .blockEnd] fuel reader.drop
      let (items, reader) ← readBlockItems fuel reader
      return (item :: items, reader)
    else if reader.sees [.blockEnd] then return ([], reader.drop)
    else throw .malformed

/-- Read the items of a list that is not indented further than the key above it. -/
def readIndentless : (fuel : Nat) → Reader → Read (List Node × Reader)
  | 0, _ => .error .malformed
  | fuel + 1, reader => do
    if reader.sees [.blockEntry] then
      let (item, reader) ←
        readUnless .block [.blockEntry, .key, .value, .blockEnd] fuel reader.drop
      let (items, reader) ← readIndentless fuel reader
      return (item :: items, reader)
    else return ([], reader)

def readBlockEntries : (fuel : Nat) → Reader → Read (List (Node × Node) × Reader)
  | 0, _ => .error .malformed
  | fuel + 1, reader => do
    if reader.sees [.key] then
      let stops := [Token.key, .value, .blockEnd]
      let (key, reader) ← readUnless .value stops fuel reader.drop
      let (value, reader) ← readValue .value stops fuel reader
      let (entries, reader) ← readBlockEntries fuel reader
      return ((key, value) :: entries, reader)
    else if reader.sees [.blockEnd] then return ([], reader.drop)
    else throw .malformed

/-- Read the items of a bracketed list up to its end. An item with a key is a map of one entry. -/
def readFlowItems : (fuel : Nat) → (first : Bool) → Reader → Read (List Node × Reader)
  | 0, _, _ => .error .malformed
  | fuel + 1, first, reader => do
    if reader.sees [.flowListEnd] then return ([], reader.drop)
    let reader ←
      if first then pure reader
      else if reader.sees [.flowEntry] then pure reader.drop
      else throw .malformed
    if reader.sees [.flowListEnd] then return ([], reader.drop)
    let (item, reader) ←
      if reader.sees [.key] then do
        let (key, reader) ←
          readUnless .flow [.value, .flowEntry, .flowListEnd] fuel reader.drop
        let (value, reader) ← readValue .flow [.flowEntry, .flowListEnd] fuel reader
        pure (Node.map .map [(key, value)], reader)
      else readNode .flow fuel reader
    let (items, reader) ← readFlowItems fuel false reader
    return (item :: items, reader)

/-- Read the entries of a bracketed map up to its end. A node without a key is a key itself. -/
def readFlowEntries : (fuel : Nat) → (first : Bool) → Reader → Read (List (Node × Node) × Reader)
  | 0, _, _ => .error .malformed
  | fuel + 1, first, reader => do
    if reader.sees [.flowMapEnd] then return ([], reader.drop)
    let reader ←
      if first then pure reader
      else if reader.sees [.flowEntry] then pure reader.drop
      else throw .malformed
    if reader.sees [.flowMapEnd] then return ([], reader.drop)
    let (entry, reader) ←
      if reader.sees [.key] then do
        let (key, reader) ←
          readUnless .flow [.value, .flowEntry, .flowMapEnd] fuel reader.drop
        let (value, reader) ← readValue .flow [.flowEntry, .flowMapEnd] fuel reader
        pure ((key, value), reader)
      else do
        let (key, reader) ← readNode .flow fuel reader
        pure ((key, Node.empty), reader)
    let (entries, reader) ← readFlowEntries fuel false reader
    return (entry :: entries, reader)

end

/-- The handles that every document has. -/
def standardHandles : List (String × String) := [("!", "!"), ("!!", "tag:yaml.org,2002:")]

/-- Read the directives in front of a document; a version and a handle may be given once. -/
def readDirectives (versioned : Bool) (handles : List (String × String)) :
    List Token → Read (List (String × String) × List Token)
  | .version major :: rest =>
    if versioned || major ≠ 1 then .error .malformed else readDirectives true handles rest
  | .tagHandle handle meaning :: rest =>
    if (handles.lookup handle).isSome then .error .malformed
    else readDirectives versioned ((handle, meaning) :: handles) rest
  | .otherDirective :: rest => readDirectives versioned handles rest
  | rest => .ok (handles ++ standardHandles, rest)

def isDirective : Token → Bool
  | .version _ | .tagHandle _ _ | .otherDirective => true
  | _ => false

def readRoot (handles : List (String × String)) (tokens : List Token) :
    Read (Node × List Token) := do
  let (node, reader) ← readNode .block (4 * tokens.length + 8) ⟨tokens, [], handles⟩
  return (node, reader.tokens)

/-- Read a document behind its separator, where nothing may be written. -/
def readExplicit (handles : List (String × String)) (tokens : List Token) :
    Read (Node × List Token) :=
  match tokens with
  | [] => .ok (Node.empty, [])
  | token :: _ =>
    if isDirective token || token = .documentStart || token = .documentEnd then
      .ok (Node.empty, tokens)
    else readRoot handles tokens

def skipEnds (tokens : List Token) : List Token := tokens.dropWhile (· = .documentEnd)

/-- Read the only document of a text; `none` when there is no document at all. -/
def readOnly (tokens : List Token) : Read (Option Node) := do
  match tokens with
  | [] => return none
  | token :: _ =>
    let (node, rest) ←
      if isDirective token || token = .documentStart then do
        let (handles, rest) ← readDirectives false [] tokens
        match rest with
        | .documentStart :: rest => readExplicit handles rest
        | _ => throw .malformed
      else readRoot standardHandles tokens
    if (skipEnds rest).isEmpty then return some node else throw .malformed

end Reader

end EditorPlugins.Yaml
