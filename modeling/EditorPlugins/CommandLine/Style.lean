import EditorPlugins.CommandLine.Color

/-! # Styles of console text

A style is a sequence of words: effects that are switched on or off, a color, the color of the
ground, and the target of a link. Of several settings of one thing the last one counts. Two texts
with one meaning have one normal form, and this is what a closing tag is compared by.
-/

namespace EditorPlugins.CommandLine

open Text

/-- A style of console text. -/
structure Style where
  /-- Effects that are on or off, the last setting first. -/
  switches : List (String × Bool) := []
  color : Option (List Char) := none
  ground : Option (List Char) := none
  link : Option (List Char) := none

namespace Style

/-- The effects, in the order of the normal form. -/
def effects : List String :=
  ["bold", "dim", "italic", "underline", "blink", "blink2", "reverse", "conceal", "strike",
    "underline2", "frame", "encircle", "overline"]

def abbreviations : List (String × String) :=
  [("b", "bold"), ("d", "dim"), ("i", "italic"), ("u", "underline"), ("r", "reverse"),
    ("c", "conceal"), ("s", "strike"), ("uu", "underline2"), ("o", "overline")]

def effect? (word : List Char) : Option String :=
  let word := String.ofList word
  if effects.contains word then some word else abbreviations.lookup word

def switched (style : Style) (effect : String) (isOn : Bool) : Style :=
  { style with switches := (effect, isOn) :: style.switches }

/-- A style with the settings of some more words. -/
def withWords (style : Style) : List (List Char) → Except StyleFault Style
  | [] => .ok style
  | word :: rest =>
    let folded := lowerCase word
    if folded = "on".toList then
      match rest with
      | [] => .error .unknown
      | ground :: rest => do withWords { style with ground := some (← Color.read ground) } rest
    else if folded = "not".toList then
      match rest with
      | [] => .error .unknown
      | word :: rest =>
        match effect? word with
        | none => .error .unknown
        | some effect => withWords (style.switched effect false) rest
    else if folded = "link".toList then
      match rest with
      | [] => .error .unknown
      | target :: rest => withWords { style with link := some target } rest
    else
      match effect? folded with
      | some effect => withWords (style.switched effect true) rest
      | none => do withWords { style with color := some (← Color.read folded) } rest

def switchText (effect : String) (isOn : Bool) : List Char :=
  (if isOn then effect else "not " ++ effect).toList

/-- The words of a style in a fixed order. -/
def text (style : Style) : List Char :=
  let switches := effects.filterMap fun effect =>
    (style.switches.lookup effect).map (switchText effect)
  let ground := (style.ground.map ("on ".toList ++ ·)).toList
  let link := (style.link.map ("link ".toList ++ ·)).toList
  joinWith [' '] (switches ++ style.color.toList ++ ground ++ link)

/-- The text that stands for a style without any setting. -/
def plainName : List Char := "none".toList

/-- The normal form of a style; a text that describes no style is its own, but for its case and the
blanks around it. -/
def normalForm (definition : List Char) : Except StyleFault (List Char) :=
  if trim definition = plainName then .ok plainName
  else
    match withWords {} (words definition) with
    | .ok style => .ok (if style.text.isEmpty then plainName else style.text)
    | .error .unknown => .ok (lowerCase (trim definition))
    | .error .unreadable => .error .unreadable

/-- Whether a text can be asked for as a style. A text that describes none can. -/
def isShowable (definition : List Char) : Bool := (normalForm definition).toOption.isSome

end Style

end EditorPlugins.CommandLine
