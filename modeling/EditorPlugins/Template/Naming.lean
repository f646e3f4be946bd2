import EditorPlugins.Text.Basic

/-! # Names of templates and of what is made from them

Everything that is generated carries a glyph in front of its name, once. Names that start with a
dot are hidden, and a few directories never hold templates.
-/

namespace EditorPlugins.Template

open Text

def glyph : String := "🧠"

/-- The glyph with the dash that separates it from a name. -/
def glyphMark : String := glyph ++ "-"

/-- A name with the mark in front, unless it is there already. -/
def withGlyph (name : String) : String :=
  if startsWith glyphMark name then name else glyphMark ++ name

def withoutGlyph (name : String) : String :=
  if startsWith glyphMark name then String.ofList (name.toList.drop glyphMark.length) else name

/-- Files that only keep a directory alive or that a desktop leaves behind. -/
def ignoredNames : List String := [".gitkeep", ".DS_Store"]

/-- Directories that hold no templates. -/
def ignoredDirectories : List String := ["node_modules", ".git", "__pycache__"]

/-- Whether a name is skipped when templates are listed. -/
def isHidden (name : String) : Bool := ignoredNames.contains name || startsWith "." name

def markdownEnding : String := ".md"

def withoutMarkdown (name : String) : String :=
  if endsWith markdownEnding name then
    String.ofList (name.toList.take (name.length - markdownEnding.length))
  else name

end EditorPlugins.Template
