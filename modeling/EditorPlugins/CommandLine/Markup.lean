import EditorPlugins.CommandLine.Emoji
import EditorPlugins.CommandLine.Handler
import EditorPlugins.CommandLine.Style

/-! # Markup of console text

A tag is a name between brackets that starts with a lower-case letter or one of three signs; it
styles the text up to its closing tag and is not shown itself. Other brackets are plain text. An odd
count of backslashes in front of a tag makes plain text of it; each pair of the others shows one. A
closing tag without a partner spoils the whole text, and so does a tag that cannot be read. The text
between two tags may name emoji.
-/

namespace EditorPlugins.CommandLine

open Text

/-- A piece of marked text: plain characters, or what stands between the brackets of a tag. -/
inductive Piece where
  | plain (text : List Char)
  | tag (name : List Char)
deriving DecidableEq, Repr

namespace Markup

/-- Whether a name of a tag may start with a character. -/
def startsTag (c : Char) : Bool := ('a' ≤ c && c ≤ 'z') || c = '#' || c = '/' || c = '@'

/-- What stands before the next closing bracket and what follows it, if no bracket opens before. -/
def untilClosing? : List Char → Option (List Char × List Char)
  | [] => none
  | c :: cs =>
    if c = ']' then some ([], cs)
    else if c = '[' then none
    else (untilClosing? cs).map fun (inner, rest) => (c :: inner, rest)

private theorem untilClosing?_length {cs inner rest : List Char}
    (found : untilClosing? cs = some (inner, rest)) : rest.length < cs.length := by
  induction cs generalizing inner with
  | nil => simp [untilClosing?] at found
  | cons c cs ih =>
    simp only [untilClosing?] at found
    split at found
    · simp_all
    · split at found
      · simp at found
      · obtain ⟨⟨inner', rest'⟩, below, same⟩ := Option.map_eq_some_iff.1 found
        cases same
        exact Nat.lt_succ_of_lt (ih below)

/-- The tag whose opening bracket has just been passed, and what follows it. -/
def tagAfter? : List Char → Option (List Char × List Char)
  | [] => none
  | c :: cs =>
    if startsTag c then (untilClosing? cs).map fun (inner, rest) => (c :: inner, rest) else none

private theorem tagAfter?_length {cs name rest : List Char}
    (found : tagAfter? cs = some (name, rest)) :
    rest.length < cs.length := by
  cases cs with
  | nil => simp [tagAfter?] at found
  | cons c cs =>
    simp only [tagAfter?] at found
    split at found
    · obtain ⟨⟨inner, rest'⟩, below, same⟩ := Option.map_eq_some_iff.1 found
      cases same
      exact Nat.lt_succ_of_lt (untilClosing?_length below)
    · simp at found

def tagPieces (backslashes : Nat) (name : List Char) : List Piece :=
  .plain (List.replicate (backslashes / 2) '\\') ::
    [if backslashes % 2 = 1 then .plain ('[' :: name ++ [']']) else .tag name]

/-- Cut a text into pieces at its tags; `read` is the plain text since the last of them, its last
character first, and some backslashes follow it. A backslash in front of a bracket that opens no tag
is not shown. -/
def pieces (read : List Char) (backslashes : Nat) : List Char → List Piece
  | [] => [.plain (read.reverse ++ List.replicate backslashes '\\')]
  | c :: cs =>
    if c = '\\' then pieces read (backslashes + 1) cs
    else if c = '[' then
      match found : tagAfter? cs with
      | some (name, rest) =>
        have := tagAfter?_length found
        .plain read.reverse :: tagPieces backslashes name ++ pieces [] 0 rest
      | none => pieces ('[' :: List.replicate (backslashes - 1) '\\' ++ read) 0 cs
    else pieces (c :: List.replicate backslashes '\\' ++ read) 0 cs
termination_by cs => cs.length
decreasing_by all_goals simp_all <;> omega

/-- A tag that has been opened: the normal form of its name, and its parameters if it has any. -/
structure OpenTag where
  name : List Char
  parameters : Option (List Char)
deriving DecidableEq, Repr

namespace OpenTag

def style (tag : OpenTag) : List Char :=
  match tag.parameters with
  | none => tag.name
  | some parameters => tag.name ++ ' ' :: parameters

/-- Whether a tag can be closed: its handler, if it has one, is readable. -/
def isClosable (tag : OpenTag) : Bool :=
  tag.name.head? ≠ some '@' || (tag.parameters.map Handler.isReadable).getD true

end OpenTag

/-- The open tags after the closing of one of them, if that is open and can be closed. A closing tag
without a name closes the tag that was opened last. -/
def close? (opened : List OpenTag) (name : List Char) : Option (List OpenTag) := do
  let style ← (Style.normalForm (trim name)).toOption
  let isMeant (tag : OpenTag) := isBlankText name || tag.name = style
  let tag ← opened.find? isMeant
  if tag.isClosable then some (opened.eraseP isMeant) else none

/-- The open tags after one more, the last opened first. There are none when the tag closes what
cannot be closed, or asks for a style that cannot be shown. -/
def openTags? (opened : List OpenTag) (tag : List Char) : Option (List OpenTag) :=
  match cutAt '=' tag with
  | ('/' :: name, _) => close? opened name
  | (name, parameters) => do
    let tag : OpenTag := ⟨← (Style.normalForm name).toOption, parameters⟩
    if Style.isShowable tag.style then some (tag :: opened) else none

/-- The plain text of some pieces. A name of an emoji ends with its piece. -/
def plainText? (opened : List OpenTag) : List Piece → Option (List Char)
  | [] => some []
  | .plain text :: rest => (plainText? opened rest).map (Emoji.replaceIn text ++ ·)
  | .tag tag :: rest => do plainText? (← openTags? opened tag) rest

/-- Characters that a console never shows: bells, backspaces and feeds other than line feeds. -/
def isControl (c : Char) : Bool := [7, 8, 11, 12, 13].contains c.toNat

/-- The text that is shown for a marked text; `none` when its tags spoil it. -/
def shown? (text : String) : Option String :=
  (plainText? [] (pieces [] 0 text.toList)).map fun plain =>
    String.ofList (plain.filter fun c => !isControl c)

end Markup

end EditorPlugins.CommandLine
