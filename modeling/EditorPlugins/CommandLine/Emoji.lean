import EditorPlugins.CommandLine.Emoji.Names
import EditorPlugins.Text.Basic
import EditorPlugins.Text.Case
import EditorPlugins.Text.Digit

/-! # Emoji in console text

A name of an emoji between two colons stands for the emoji. The name is read in any case, and may be
followed by a wish for one of two presentations. What stands between the colons holds no blank; when
it names nothing, it stays as it is, and its second colon starts no further name.
-/

namespace EditorPlugins.CommandLine.Emoji

open Text

/-- The names of a table, each with what stands behind its equals sign. -/
def entriesOf (table : String) : List (List Char × List Char) :=
  (words table.toList).map fun entry =>
    let (name, value) := cutAt '=' entry
    (name, value.getD [])

/-- The character of a code point in hexadecimal digits. -/
def ofCodePoint (digits : List Char) : Char :=
  Char.ofNat (ofDigits 16 (digits.filterMap hexValue?))

/-- The characters of code points with dashes between them. -/
def ofCodePoints (text : List Char) : List Char := (pieces '-' text).map ofCodePoint

/-- The flag of a region: for each of its letters the sign that stands for the letter in flags. -/
def flagOf (region : List Char) : List Char :=
  region.map fun letter => Char.ofNat (0x1F1E6 + (letter.toNat - 'A'.toNat))

/-- Emoji that come in one color, by name. -/
def untoned : List (List Char × List Char) :=
  (entriesOf untonedTable).map fun (name, text) => (name, ofCodePoints text)

/-- Emoji that take a skin tone, by name. -/
def toned : List (List Char × List Char) :=
  (entriesOf tonedTable).map fun (name, text) => (name, ofCodePoints text)

/-- Flags that a region alone stands for, by region. -/
def flags : List (List Char × List Char) :=
  (entriesOf regionTable).map fun (name, region) => (name, flagOf region)

/-- Flags that need words in front of the region, by region. -/
def markedFlags : List (List Char × List Char) :=
  (entriesOf markedRegionTable).map fun (name, region) => (name, flagOf region)

/-- The words in front of a region that say that its flag is meant. -/
def flagMark : List Char := "flag_for_".toList

def flag? (name : List Char) : Option (List Char) :=
  if flagMark.isPrefixOf name then
    (flags ++ markedFlags).lookup (name.drop flagMark.length)
  else flags.lookup name

/-- The skin tones, by the words behind the name of an emoji. -/
def tones : List (List Char × Char) :=
  [("_light_skin_tone".toList, Char.ofNat 0x1F3FB),
    ("_medium-light_skin_tone".toList, Char.ofNat 0x1F3FC),
    ("_medium_skin_tone".toList, Char.ofNat 0x1F3FD),
    ("_medium-dark_skin_tone".toList, Char.ofNat 0x1F3FE),
    ("_dark_skin_tone".toList, Char.ofNat 0x1F3FF)]

/-- A mark behind a character that asks for its picture. -/
def pictureMark : Char := Char.ofNat 0xFE0F

/-- A mark behind a character that asks for its plain sign. -/
def signMark : Char := Char.ofNat 0xFE0E

/-- An emoji in a skin tone. The tone goes behind the first character and takes the place of a wish
for a picture. -/
def withTone (tone : Char) : List Char → List Char
  | [] => []
  | first :: rest =>
    first :: tone :: (if rest.head? = some pictureMark then rest.tail else rest)

def before? (ending text : List Char) : Option (List Char) :=
  if ending.isSuffixOf text then some (text.take (text.length - ending.length)) else none

/-- The emoji of a name that ends in a skin tone. -/
def inTone? (name : List Char) : Option (List Char) :=
  tones.findSome? fun (ending, tone) => do
    let name ← before? ending name
    let emoji ← toned.lookup name
    return withTone tone emoji

def named? (name : List Char) : Option (List Char) :=
  untoned.lookup name <|> toned.lookup name <|> flag? name <|> inTone? name

/-- The endings of a name that ask for a presentation, with the marks that stand for them. -/
def presentations : List (List Char × Char) :=
  [("-emoji".toList, pictureMark), ("-text".toList, signMark)]

/-- What a name between colons stands for. -/
def ofCode? (code : List Char) : Option (List Char) :=
  let asked := presentations.findSome? fun (ending, mark) =>
    (before? ending code).map fun name => (name, [mark])
  let (name, mark) := asked.getD (code, [])
  (named? (lowerCase name)).map (· ++ mark)

/-- What stands before the next colon and what follows it, if no blank comes first. -/
def untilColon? : List Char → Option (List Char × List Char)
  | [] => none
  | c :: cs =>
    if c = ':' then some ([], cs)
    else if isBlank c then none
    else (untilColon? cs).map fun (code, rest) => (c :: code, rest)

private theorem untilColon?_eq_append {cs code rest : List Char}
    (found : untilColon? cs = some (code, rest)) : cs = code ++ ':' :: rest := by
  induction cs generalizing code with
  | nil => simp [untilColon?] at found
  | cons c cs ih =>
    simp only [untilColon?] at found
    split at found
    · simp_all
    · split at found
      · simp at found
      · obtain ⟨⟨code', rest'⟩, below, same⟩ := Option.map_eq_some_iff.1 found
        cases same
        simp [ih below]

def replaceIn : List Char → List Char
  | [] => []
  | c :: cs =>
    if c = ':' then
      match found : untilColon? cs with
      | some (code, rest) =>
        have : rest.length < cs.length := by simp [untilColon?_eq_append found]; omega
        (ofCode? code).getD (':' :: code ++ [':']) ++ replaceIn rest
      | none => c :: replaceIn cs
    else c :: replaceIn cs
termination_by cs => cs.length
decreasing_by all_goals simp_all <;> omega

end EditorPlugins.CommandLine.Emoji
