/-! # Character classes and trimming

Texts are scanned as lists of characters. Two classes decide where a line or a value ends: blanks,
which trimming removes, and line breaks, which are blanks that also end a line. Trimming at both
ends is built from one-sided removal by an arbitrary class, because the envelope of a document and
the sections of a composed body trim different classes.
-/

namespace EditorPlugins.Text

/-- Blanks are the white space of every script, and the four information separators. -/
def isBlank (c : Char) : Bool :=
  let n := c.toNat
  (0x09 ≤ n && n ≤ 0x0D) || (0x1C ≤ n && n ≤ 0x20) || n == 0x85 || n == 0xA0 || n == 0x1680 ||
    (0x2000 ≤ n && n ≤ 0x200A) || n == 0x2028 || n == 0x2029 || n == 0x202F || n == 0x205F ||
    n == 0x3000

/-- A line ends at a feed, a return, a separator of lines or paragraphs, or at three controls. -/
def isLineBreak (c : Char) : Bool :=
  let n := c.toNat
  (0x0A ≤ n && n ≤ 0x0D) || (0x1C ≤ n && n ≤ 0x1E) || n == 0x85 || n == 0x2028 || n == 0x2029

theorem isBlank_of_isLineBreak {c : Char} (isBreak : isLineBreak c = true) : isBlank c = true := by
  simp only [isLineBreak, isBlank, Bool.or_eq_true, Bool.and_eq_true, decide_eq_true_eq,
    beq_iff_eq] at isBreak ⊢
  omega

/-- The blanks that may surround a number; the information separators are not among them. -/
def isNumberBlank (c : Char) : Bool := isBlank c && !(0x1C ≤ c.toNat && c.toNat ≤ 0x1F)

/-- The ends of lines in files written on any of the common systems. -/
def isNewline (c : Char) : Bool := c == '\n' || c == '\r'

/-- Remove a class of characters from the end only. -/
def dropEndWhile (drop : Char → Bool) (cs : List Char) : List Char :=
  (cs.reverse.dropWhile drop).reverse

def trimStart (cs : List Char) : List Char := cs.dropWhile isBlank

def trimEnd (cs : List Char) : List Char := dropEndWhile isBlank cs

def trim (cs : List Char) : List Char := trimEnd (trimStart cs)

/-- A number without the blanks around it. -/
def trimNumber (cs : List Char) : List Char :=
  dropEndWhile isNumberBlank (cs.dropWhile isNumberBlank)

/-- A text of blanks alone, or of nothing. -/
def isBlankText (cs : List Char) : Bool := cs.all isBlank

@[simp] theorem dropEndWhile_nil (drop : Char → Bool) : dropEndWhile drop [] = [] := rfl

@[simp] theorem trim_nil : trim [] = [] := rfl

theorem dropEndWhile_append_of_drop (drop : Char → Bool) (cs : List Char) {c : Char}
    (dropped : drop c = true) : dropEndWhile drop (cs ++ [c]) = dropEndWhile drop cs := by
  simp [dropEndWhile, dropped]

def startsWith (start text : String) : Bool := start.toList.isPrefixOf text.toList

def endsWith (ending text : String) : Bool := ending.toList.isSuffixOf text.toList

/-- The part of a text before the first occurrence of a character, and the part after it. -/
def cutAt (sep : Char) : List Char → List Char × Option (List Char)
  | [] => ([], none)
  | c :: cs =>
    if c = sep then ([], some cs)
    else
      let (before, after) := cutAt sep cs
      (c :: before, after)

/-- The pieces of a text between the occurrences of a character; there is always at least one. -/
def pieces (sep : Char) : List Char → List (List Char)
  | [] => [[]]
  | c :: cs =>
    if c = sep then [] :: pieces sep cs
    else
      match pieces sep cs with
      | [] => [[c]]
      | piece :: rest => (c :: piece) :: rest

/-- The words of a text, which blanks set apart; `word` is what has been read of the next one, its
last character first. -/
def wordsFrom (word : List Char) : List Char → List (List Char)
  | [] => if word.isEmpty then [] else [word.reverse]
  | c :: cs =>
    if !isBlank c then wordsFrom (c :: word) cs
    else if word.isEmpty then wordsFrom [] cs
    else word.reverse :: wordsFrom [] cs

/-- The words of a text: its longest parts without blanks. -/
def words (cs : List Char) : List (List Char) := wordsFrom [] cs

/-- Join texts with a separator between neighbours. -/
def joinWith (sep : List Char) : List (List Char) → List Char
  | [] => []
  | [piece] => piece
  | piece :: rest => piece ++ sep ++ joinWith sep rest

theorem pieces_ne_nil (sep : Char) (cs : List Char) : pieces sep cs ≠ [] := by
  cases cs with
  | nil => simp [pieces]
  | cons c cs =>
    simp only [pieces]
    split
    · simp
    · split <;> simp

/-- Joining undoes cutting into pieces. -/
theorem joinWith_pieces (sep : Char) (cs : List Char) : joinWith [sep] (pieces sep cs) = cs := by
  induction cs with
  | nil => rfl
  | cons c cs ih =>
    simp only [pieces]
    split
    · rename_i same
      cases rest : pieces sep cs with
      | nil => exact absurd rest (pieces_ne_nil sep cs)
      | cons piece others =>
        rw [rest] at ih
        simp [joinWith, ih, same]
    · cases rest : pieces sep cs with
      | nil => exact absurd rest (pieces_ne_nil sep cs)
      | cons piece others =>
        rw [rest] at ih
        cases others <;> simp_all [joinWith]

/-- Replace the occurrences of a text from left to right; `skip` characters of the last one are
still to be passed over. -/
def replaceFrom (old new : List Char) : (skip : Nat) → List Char → List Char
  | _, [] => []
  | skip + 1, _ :: cs => replaceFrom old new skip cs
  | 0, c :: cs =>
    if old.isPrefixOf (c :: cs) then new ++ replaceFrom old new (old.length - 1) cs
    else c :: replaceFrom old new 0 cs

/-- Replace every occurrence of a non-empty text that does not overlap an earlier one. -/
def replaceAll (old new cs : List Char) : List Char := replaceFrom old new 0 cs

def occursIn (old : List Char) : List Char → Bool
  | [] => old.isEmpty
  | c :: cs => old.isPrefixOf (c :: cs) || occursIn old cs

/-- Fold the letters of ASCII to lower case. -/
def lower (cs : List Char) : List Char := cs.map Char.toLower

/-- A text on a list of texts, with a separator between neighbours. -/
def join (sep : String) (texts : List String) : String :=
  String.ofList (joinWith sep.toList (texts.map String.toList))

end EditorPlugins.Text
