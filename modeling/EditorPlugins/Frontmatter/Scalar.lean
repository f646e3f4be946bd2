import EditorPlugins.Number.Literal
import EditorPlugins.Value.Basic

/-! # Scalars of frontmatter

A value written on one line is a bracketed list of texts, a quoted text, or a plain one; a plain
text that spells a truth value, nothing, or a number stands for it unless values are kept as texts.
Reading a scalar fails only on a whole number with too many digits.
-/

namespace EditorPlugins.Frontmatter

open Text Number

/-- The character that an escape by number stands for; without one the escape stands for its own
letter and digits. Halves of pairs are no characters here, and become the null character. -/
def numberedChar (digits : List Char) : List Char :=
  match readBased? 16 digits with
  | some (.ofNat n) => [Char.ofNat n]
  | _ => 'u' :: digits

/-- The text inside double quotes. An unknown escape stands for its letter. -/
def unescape : List Char → List Char
  | [] => []
  | ['\\'] => []
  | '\\' :: 'n' :: cs => '\n' :: unescape cs
  | '\\' :: 'r' :: cs => '\r' :: unescape cs
  | '\\' :: 't' :: cs => '\t' :: unescape cs
  | '\\' :: 'u' :: a :: b :: c :: d :: cs => numberedChar [a, b, c, d] ++ unescape cs
  | '\\' :: 'u' :: cs => numberedChar cs
  | '\\' :: c :: cs => c :: unescape cs
  | c :: cs => c :: unescape cs

/-- The text between quotes of the given kind, if there are any at both ends. -/
def between? (quote : Char) (cs : List Char) : Option (List Char) :=
  match cs with
  | first :: rest =>
    if first = quote && rest.getLast? = some quote then some rest.dropLast else none
  | [] => none

/-- The content of a quoted text; `none` when the text is not quoted. -/
def unquote? (cs : List Char) : Option (List Char) :=
  match between? '"' cs with
  | some inner => some (unescape inner)
  | none => (between? '\'' cs).map (replaceAll ['\'', '\''] ['\''])

/-- Where a scan stands with respect to quotes. -/
inductive Quoting where
  | outside
  | inside (quote : Char)
  | escaped
deriving DecidableEq, Repr

/-- A backslash escapes the next character between double quotes only. -/
def Quoting.next (quoting : Quoting) (c : Char) : Quoting :=
  match quoting with
  | .escaped => .inside '"'
  | .inside quote =>
    if c = '\\' && quote = '"' then .escaped
    else if c = quote then .outside
    else quoting
  | .outside => if c = '"' || c = '\'' then .inside c else .outside

def splitItems (quoting : Quoting) : List Char → List (List Char)
  | [] => [[]]
  | c :: cs =>
    if quoting = .outside && c = ',' then [] :: splitItems .outside cs
    else
      match splitItems (quoting.next c) cs with
      | [] => [[c]]
      | item :: items => (c :: item) :: items

/-- An item of a list, or a key: a text that may be quoted. -/
def itemText (cs : List Char) : List Char :=
  let trimmed := trim cs
  (unquote? trimmed).getD trimmed

/-- The items of a bracketed list; blank items are dropped. -/
def bracketedItems (inner : List Char) : List String :=
  let items := (splitItems .outside inner).filter fun item => !isBlankText item
  items.map fun item => String.ofList (itemText item)

/-- Read a number with a point, an exponent or both. -/
def readFloat? (cs : List Char) : Option Double :=
  let (negative, unsigned) := splitSign cs
  let (whole, rest) := splitDigits unsigned
  match rest with
  | '.' :: rest =>
    let (fraction, rest) := splitDigits rest
    if whole.isEmpty && fraction.isEmpty then none
    else
      let power? := if rest.isEmpty then some 0 else exponent? rest
      power?.map fun power =>
        Double.ofDecimal negative (whole ++ fraction) (power - fraction.length)
  | rest =>
    if whole.isEmpty then none
    else (exponent? rest).map fun power => Double.ofDecimal negative whole power

/-- The value of a plain text: a truth value, nothing, a number, or the text itself. -/
def plainValue (cs : List Char) : Except ConversionError Value :=
  let folded := lower cs
  if folded = "true".toList then .ok (.bool true)
  else if folded = "false".toList then .ok (.bool false)
  else if folded = "null".toList || cs = ['~'] || cs.isEmpty then .ok .null
  else
    match readInt? cs, readFloat? cs with
    | some read, _ => read.map Value.int
    | none, some x => .ok (.float x)
    | none, none => .ok (.text (String.ofList cs))

/-- Whether plain texts are read as the values they spell or kept as they are. -/
inductive Typing where
  | typed
  | texts
deriving DecidableEq, Repr

/-- The text between brackets, if there are any at both ends. -/
def bracketed? (cs : List Char) : Option (List Char) :=
  match cs with
  | '[' :: rest => if rest.getLast? = some ']' then some rest.dropLast else none
  | _ => none

def readScalar (typing : Typing) (cs : List Char) : Except ConversionError Value :=
  let trimmed := trim cs
  match bracketed? trimmed with
  | some inner => .ok (Value.texts (bracketedItems (trim inner)))
  | none =>
    match unquote? trimmed with
    | some content => .ok (.text (String.ofList content))
    | none =>
      match typing with
      | .texts => .ok (.text (String.ofList trimmed))
      | .typed => plainValue trimmed

end EditorPlugins.Frontmatter
