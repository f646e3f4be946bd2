import EditorPlugins.Frontmatter.Reader
import EditorPlugins.Proofs.Frontmatter.Scalar
import EditorPlugins.Proofs.Text.Pieces

/-! # Marks between quotes

A comment starts, and an item of a list ends, at a mark that stands outside quotes. Both scans keep
track of quotes and escapes in the same way, so they pass over a text that hides the mark: one that
has it between quotes only, and leaves no quotes open. Quoted texts hide every mark, in either kind
of quotes.
-/

namespace EditorPlugins.Frontmatter

open Text

/-- A character as it stands between single quotes. -/
def doubledChar (c : Char) : List Char := if c = '\'' then ['\'', '\''] else [c]

/-- A text between single quotes, with its own single quotes doubled. -/
def singleQuoted (cs : List Char) : List Char := '\'' :: cs.flatMap doubledChar ++ ['\'']

/-- Reading takes the doubled quotes for one each. -/
theorem replaceAll_doubled (cs : List Char) :
    replaceAll ['\'', '\''] ['\''] (cs.flatMap doubledChar) = cs := by
  induction cs with
  | nil => rfl
  | cons c cs ih =>
    rw [replaceAll] at ih
    rw [List.flatMap_cons, doubledChar, replaceAll]
    split
    · next same => simp [replaceFrom, same, ih]
    · next other => simp [replaceFrom, List.isPrefixOf, Ne.symm other, ih]

theorem isOneLine_singleQuoted {cs : List Char} (oneLine : IsOneLine cs) :
    IsOneLine (singleQuoted cs) := by
  have inner : IsOneLine (cs.flatMap doubledChar) := by
    intro c member
    obtain ⟨source, present, inside⟩ := List.mem_flatMap.mp member
    unfold doubledChar at inside
    split at inside
    · have quote : c = '\'' := by simpa using inside
      rw [quote]
      decide
    · rw [List.mem_singleton.mp inside]
      exact oneLine source present
  exact (inner.cons (by decide)).append (List.forall_mem_singleton.mpr (by decide))

private theorem unquote?_singleQuoted (cs : List Char) : unquote? (singleQuoted cs) = some cs := by
  have notDouble : between? '"' (singleQuoted cs) = none :=
    between?_eq_none (by simp [singleQuoted])
  rw [unquote?, notDouble, singleQuoted, between?_quoted]
  exact congrArg some (replaceAll_doubled cs)

/-- The two ways to quote a text. -/
inductive Quotes where
  | double
  | single
deriving DecidableEq, Repr

def Quotes.form : Quotes → List Char → List Char
  | double => quoted
  | single => singleQuoted

namespace Quotes

variable (quotes : Quotes) (cs : List Char)

theorem form_ne_nil : quotes.form cs ≠ [] := by
  cases quotes <;> exact List.cons_ne_nil _ _

theorem trim_form : trim (quotes.form cs) = quotes.form cs := by
  cases quotes <;> exact trim_enclosed _ (by decide) (by decide)

/-- A quoted text is read as the text, whatever the quotes are. -/
theorem itemText_form : itemText (quotes.form cs) = cs := by
  have unquoted : unquote? (quotes.form cs) = some cs := by
    cases quotes with
    | double => exact unquote?_quoted cs
    | single => exact unquote?_singleQuoted cs
  rw [itemText, trim_form, unquoted]
  rfl

end Quotes

/-- A text that has some mark between quotes only, and leaves no quotes open. -/
inductive Hides (mark : Char) : Quoting → List Char → Prop where
  | nil : Hides mark .outside []
  | cons {quoting : Quoting} {c : Char} {cs : List Char} (other : quoting = .outside → c ≠ mark)
      (rest : Hides mark (quoting.next c) cs) : Hides mark quoting (c :: cs)

namespace Hides

variable {mark : Char} {quoting : Quoting} {cs more : List Char}

theorem append (first : Hides mark quoting cs) (second : Hides mark .outside more) :
    Hides mark quoting (cs ++ more) := by
  induction first with
  | nil => exact second
  | cons other _ ih => exact .cons other ih

/-- Outside quotes, a character that is neither a quote nor the mark. -/
theorem ordinary {c : Char} (plain : c ≠ mark ∧ c ≠ '"' ∧ c ≠ '\'')
    (rest : Hides mark .outside more) : Hides mark .outside (c :: more) := by
  obtain ⟨other, notDouble, notSingle⟩ := plain
  have stays : Quoting.outside.next c = .outside := by simp [Quoting.next, notDouble, notSingle]
  exact .cons (fun _ => other) (by rwa [stays])

theorem plain (each : ∀ c ∈ cs, c ≠ mark ∧ c ≠ '"' ∧ c ≠ '\'') : Hides mark .outside cs := by
  induction cs with
  | nil => exact .nil
  | cons c cs ih =>
    obtain ⟨here, later⟩ := List.forall_mem_cons.mp each
    exact .ordinary here (ih later)

/-- Between quotes, a character that is neither the quote nor starts an escape. -/
theorem inside {quote c : Char} (other : c ≠ quote) (noEscape : c ≠ '\\' ∨ quote ≠ '"')
    (rest : Hides mark (.inside quote) more) : Hides mark (.inside quote) (c :: more) := by
  have stays : (Quoting.inside quote).next c = .inside quote := by
    simp only [Quoting.next, Bool.and_eq_true, decide_eq_true_eq, if_neg other]
    rw [if_neg fun escapes => noEscape.elim (· escapes.1) (· escapes.2)]
  exact .cons nofun (by rwa [stays])

/-- Between double quotes, an escape of one character. -/
theorem escape (c : Char) (rest : Hides mark (.inside '"') more) :
    Hides mark (.inside '"') ('\\' :: c :: more) :=
  .cons nofun (.cons nofun rest)

theorem quotedChar (c : Char) (rest : Hides mark (.inside '"') more) :
    Hides mark (.inside '"') (Frontmatter.quotedChar c ++ more) := by
  unfold Frontmatter.quotedChar
  split
  · exact .escape '\\' rest
  split
  · exact .escape '"' rest
  split
  · exact .escape 'n' rest
  split
  · exact .escape 'r' rest
  split
  · have digits : ∀ digit ∈ hexDigits 4 c.toNat, digit ≠ '"' ∧ digit ≠ '\\' :=
      forall_mem_hexDigits (by decide) 4 c.toNat
    refine .escape 'u' ?_
    generalize hexDigits 4 c.toNat = number at digits
    induction number with
    | nil => exact rest
    | cons digit number ih =>
      obtain ⟨⟨notQuote, notEscape⟩, later⟩ := List.forall_mem_cons.mp digits
      exact .inside notQuote (.inl notEscape) (ih later)
  · next notEscape notQuote _ _ _ => exact .inside notQuote (.inl notEscape) rest

theorem doubledChar (notQuote : mark ≠ '\'') (c : Char) (rest : Hides mark (.inside '\'') more) :
    Hides mark (.inside '\'') (Frontmatter.doubledChar c ++ more) := by
  unfold Frontmatter.doubledChar
  split
  · -- Between the two quotes the scan is outside for a moment.
    exact .cons nofun (.cons (fun _ same => notQuote same.symm) rest)
  · next other => exact .inside other (.inr (by decide)) rest

theorem flatMap {write : Char → List Char} {quote : Char}
    (each : ∀ c more, Hides mark (.inside quote) more →
      Hides mark (.inside quote) (write c ++ more))
    (cs : List Char) (closing : Hides mark (.inside quote) more) :
    Hides mark (.inside quote) (cs.flatMap write ++ more) := by
  induction cs with
  | nil => exact closing
  | cons c cs ih =>
    rw [List.flatMap_cons, List.append_assoc]
    exact each c _ ih

/-- Either kind of quotes hides every mark that is no quote. -/
theorem form (notDouble : mark ≠ '"') (notSingle : mark ≠ '\'') (quotes : Quotes)
    (cs : List Char) : Hides mark .outside (quotes.form cs) := by
  cases quotes with
  | double =>
    refine .cons (fun _ same => notDouble same.symm) ?_
    exact flatMap (fun c _ => .quotedChar c) cs (.cons nofun .nil)
  | single =>
    refine .cons (fun _ same => notSingle same.symm) ?_
    exact flatMap (fun c _ => .doubledChar notSingle c) cs (.cons nofun .nil)

private theorem not_marked {c : Char} (other : quoting = .outside → c ≠ mark) (spaced : Bool) :
    (decide (quoting = .outside) && spaced && decide (c = mark)) = false := by
  by_cases outside : quoting = .outside
  · simp [other outside]
  · simp [outside]

/-- No comment starts in a text that hides its mark. -/
theorem cutComment_append (hides : Hides '#' quoting cs) (start : more.head? ≠ some '#')
    (spaced : Bool) :
    cutComment quoting spaced (cs ++ more) = cs ++ cutComment .outside false more := by
  induction hides generalizing spaced with
  | nil =>
    cases more with
    | nil => rfl
    | cons c more =>
      have other : c ≠ '#' := fun same => start (congrArg some same)
      simp [cutComment, other]
  | @cons quoting c cs other _ ih =>
    rw [List.cons_append, cutComment, not_marked other spaced, ih]
    rfl

theorem cutComment_eq (hides : Hides '#' quoting cs) (spaced : Bool) :
    cutComment quoting spaced cs = cs := by
  have cut := hides.cutComment_append (by simp : ([] : List Char).head? ≠ some '#') spaced
  rwa [cutComment, List.append_nil] at cut

/-- No item ends in a text that hides the comma. -/
theorem splitItems_append (hides : Hides ',' quoting cs) {item : List Char}
    {items : List (List Char)} (split : splitItems .outside more = item :: items) :
    splitItems quoting (cs ++ more) = (cs ++ item) :: items := by
  induction hides with
  | nil => exact split
  | @cons quoting c cs other _ ih =>
    have noEnd := not_marked other true
    rw [Bool.and_true] at noEnd
    rw [List.cons_append, splitItems, noEnd, ih]
    rfl

end Hides

theorem uncomment_metadata (cs : List Char) :
    Dialect.metadata.uncomment cs = cutComment .outside true cs := rfl

/-- Without its mark there is no comment, whatever quotes are open. -/
theorem cutComment_of_not_mem {cs : List Char} (absent : '#' ∉ cs) (quoting : Quoting)
    (spaced : Bool) : cutComment quoting spaced cs = cs := by
  induction cs generalizing quoting spaced with
  | nil => rfl
  | cons c cs ih =>
    simp only [List.mem_cons, not_or] at absent
    simp [cutComment, Ne.symm absent.1, ih absent.2]

/-- Where a scan stands behind a text. -/
def Quoting.behind (quoting : Quoting) (cs : List Char) : Quoting := cs.foldl Quoting.next quoting

/-- A text without the mark hides it just when it leaves no quotes open. -/
theorem hides_iff {mark : Char} {cs : List Char} (absent : mark ∉ cs) {quoting : Quoting} :
    Hides mark quoting cs ↔ quoting.behind cs = .outside := by
  induction cs generalizing quoting with
  | nil =>
    constructor
    · rintro ⟨⟩
      rfl
    · rintro (rfl : quoting = .outside)
      exact .nil
  | cons c cs ih =>
    simp only [List.mem_cons, not_or] at absent
    constructor
    · rintro (_ | ⟨_, rest⟩)
      exact (ih absent.2).mp rest
    · intro closed
      exact .cons (fun _ => Ne.symm absent.1) ((ih absent.2).mpr closed)

/-- The quotes that a scan can be inside of. -/
def Quoting.IsSound (quoting : Quoting) : Prop :=
  ∀ quote, quoting = .inside quote → quote = '"' ∨ quote = '\''

namespace Quoting.IsSound

variable {quoting : Quoting}

theorem outside : Quoting.outside.IsSound := fun _ inside => nomatch inside

theorem next (sound : quoting.IsSound) (c : Char) : (quoting.next c).IsSound := by
  intro quote inside
  unfold Quoting.next at inside
  split at inside
  · exact .inl (Quoting.inside.inj inside).symm
  · next open_ =>
    split at inside
    · cases inside
    split at inside
    · cases inside
    · exact sound quote inside
  · split at inside
    · next isQuote =>
      rw [← Quoting.inside.inj inside]
      simpa using isQuote
    · cases inside

theorem behind (sound : quoting.IsSound) (cs : List Char) : (quoting.behind cs).IsSound := by
  induction cs generalizing quoting with
  | nil => exact sound
  | cons c cs ih => exact ih (sound.next c)

/-- A space neither opens nor closes quotes. -/
theorem next_space_iff (sound : quoting.IsSound) :
    quoting.next ' ' = .outside ↔ quoting = .outside := by
  cases quoting with
  | outside => exact iff_of_true rfl rfl
  | escaped => exact iff_of_false nofun nofun
  | inside quote =>
    rcases sound quote rfl with rfl | rfl <;> exact iff_of_false (by decide) nofun

end Quoting.IsSound

/-- A text without the mark is passed over; whether a comment starts behind it depends on the quotes
that it leaves open. -/
theorem cutComment_append_space {cs : List Char} (absent : '#' ∉ cs) (quoting : Quoting)
    (spaced : Bool) (more : List Char) :
    cutComment quoting spaced (cs ++ ' ' :: more) =
      cs ++ ' ' :: cutComment ((quoting.behind cs).next ' ') true more := by
  induction cs generalizing quoting spaced with
  | nil => simp [cutComment, Quoting.behind]
  | cons c cs ih =>
    simp only [List.mem_cons, not_or] at absent
    rw [List.cons_append, cutComment, ih absent.2]
    simp [Ne.symm absent.1, Quoting.behind]

/-- Trimming leaves a comment behind a trimmed text. -/
theorem trim_append_comment {cs : List Char} (nonempty : cs ≠ []) (trimmed : trim cs = cs)
    (comment : List Char) :
    trim (cs ++ ' ' :: '#' :: comment) = cs ++ ' ' :: '#' :: trimEnd comment := by
  have split : cs ++ ' ' :: '#' :: comment = cs ++ [' '] ++ '#' :: comment := by simp
  have mark := dropEndWhile_cons_of_keep isBlank comment (by decide : isBlank '#' = false)
  have kept : dropEndWhile isBlank ('#' :: comment) ≠ [] := by
    rw [mark]
    exact List.cons_ne_nil _ _
  rw [trim, trimStart_append _ nonempty trimmed, split, trimEnd, dropEndWhile_append _ kept, mark]
  simp [trimEnd]

/-- Behind a text that leaves quotes open, a comment stays. -/
theorem exists_trim_cutComment {cs : List Char} (absent : '#' ∉ cs) (nonempty : cs ≠ [])
    (trimmed : trim cs = cs) (open_ : Quoting.outside.behind cs ≠ .outside) (spaced : Bool)
    (comment : List Char) :
    ∃ rest, trim (cutComment .outside spaced (cs ++ ' ' :: '#' :: comment)) =
      cs ++ ' ' :: '#' :: rest := by
  have sound : (Quoting.outside.behind cs).IsSound := Quoting.IsSound.outside.behind cs
  have still : (Quoting.outside.behind cs).next ' ' ≠ .outside := mt sound.next_space_iff.mp open_
  rw [cutComment_append_space absent, cutComment]
  simp only [still, decide_false, Bool.false_and, Bool.false_eq_true, if_false]
  exact ⟨_, trim_append_comment nonempty trimmed _⟩

/-- What is taken off behind a value as a comment, if it is anything. -/
def IsTrailing (cs : List Char) : Prop := cs = [] ∨ ∃ comment, cs = ' ' :: '#' :: comment

namespace IsTrailing

variable {trailing cs : List Char}

/-- Trimming shortens a comment, but not what stands before it. -/
theorem exists_trim (isTrailing : IsTrailing trailing) (nonempty : cs ≠ [])
    (trimmed : trim cs = cs) : ∃ rest, IsTrailing rest ∧ trim (cs ++ trailing) = cs ++ rest := by
  rcases isTrailing with rfl | ⟨comment, rfl⟩
  · exact ⟨[], .inl rfl, by rw [List.append_nil, trimmed]⟩
  · exact ⟨' ' :: '#' :: trimEnd comment, .inr ⟨_, rfl⟩, trim_append_comment nonempty trimmed _⟩

/-- Behind a text that hides its mark, a comment is taken off. -/
theorem trim_cutComment (isTrailing : IsTrailing trailing) (hides : Hides '#' .outside cs)
    (nonempty : cs ≠ []) (trimmed : trim cs = cs) (spaced : Bool) :
    trim (cutComment .outside spaced (cs ++ trailing)) = cs := by
  rcases isTrailing with rfl | ⟨comment, rfl⟩
  · rw [List.append_nil, hides.cutComment_eq, trimmed]
  · have mark : cutComment .outside false (' ' :: '#' :: comment) = [' '] := by
      simp [cutComment, Quoting.next]
    rw [hides.cutComment_append (by simp), mark, trim_append_blank nonempty trimmed (by decide)]

/-- Where nothing stands before a comment, blanks are left. -/
theorem isBlankText_cutComment (isTrailing : IsTrailing trailing) (spaced : Bool) :
    isBlankText (cutComment .outside spaced trailing) = true := by
  rcases isTrailing with rfl | ⟨comment, rfl⟩
  · rfl
  · simp [cutComment, Quoting.next, isBlankText]
    decide

end IsTrailing

def listed (items : List (Quotes × String)) : List Char :=
  joinWith [',', ' '] (items.map fun item => item.1.form item.2.toList)

private theorem listed_cons (item : Quotes × String) {items : List (Quotes × String)}
    (more : items ≠ []) :
    listed (item :: items) = item.1.form item.2.toList ++ ',' :: ' ' :: listed items := by
  rw [listed, List.map_cons, joinWith_cons _ _ (mt List.map_eq_nil_iff.mp more), List.append_assoc]
  rfl

private theorem listed_ne_nil {items : List (Quotes × String)} (nonempty : items ≠ []) :
    listed items ≠ [] := by
  obtain ⟨item, items, rfl⟩ := List.exists_cons_of_ne_nil nonempty
  by_cases more : items = []
  · rw [more]
    exact Quotes.form_ne_nil _ _
  · rw [listed_cons item more]
    exact List.append_ne_nil_of_left_ne_nil (Quotes.form_ne_nil _ _) _

theorem hides_listed (items : List (Quotes × String)) : Hides '#' .outside (listed items) := by
  induction items with
  | nil => exact .nil
  | cons item items ih =>
    have first : Hides '#' .outside (item.1.form item.2.toList) := .form (by decide) (by decide) _ _
    by_cases more : items = []
    · rw [more]
      exact first
    · rw [listed_cons item more]
      exact first.append (.ordinary (by decide) (.ordinary (by decide) ih))

/-- A list of quoted texts is cut into their forms; each but the first has a blank before it. -/
theorem splitItems_listed (item : Quotes × String) (items : List (Quotes × String)) :
    splitItems .outside (listed (item :: items)) =
      item.1.form item.2.toList :: items.map fun item => ' ' :: item.1.form item.2.toList := by
  induction items generalizing item with
  | nil =>
    have hides : Hides ',' .outside (item.1.form item.2.toList) := .form (by decide) (by decide) _ _
    have alone := hides.splitItems_append (rfl : splitItems .outside [] = [[]])
    rwa [List.append_nil] at alone
  | cons next items ih =>
    have hides : Hides ',' .outside (item.1.form item.2.toList) := .form (by decide) (by decide) _ _
    have rest : splitItems .outside (',' :: ' ' :: listed (next :: items)) =
        [] :: (next :: items).map fun item => ' ' :: item.1.form item.2.toList := by
      simp [splitItems, Quoting.next, ih]
    rw [listed_cons item (List.cons_ne_nil _ _), hides.splitItems_append rest, List.append_nil]

/-- A list of quoted texts is read as the texts, the empty ones too. -/
theorem bracketedItems_listed (items : List (Quotes × String)) :
    bracketedItems (listed items) = items.map Prod.snd := by
  have trimmed (item : Quotes × String) : trim (' ' :: item.1.form item.2.toList) =
      item.1.form item.2.toList := by rw [trim_cons_blank _ (by decide), Quotes.trim_form]
  cases items with
  | nil => rfl
  | cons item items =>
    have filled : ∀ form ∈ item.1.form item.2.toList ::
        items.map fun item => ' ' :: item.1.form item.2.toList, (!isBlankText form) = true := by
      refine List.forall_mem_cons.mpr ⟨?_, fun form member => ?_⟩
      · rw [isBlankText_of_trim (Quotes.form_ne_nil _ _) (Quotes.trim_form _ _)]
        rfl
      · obtain ⟨item, -, rfl⟩ := List.mem_map.mp member
        rw [isBlankText_of_trim (Quotes.form_ne_nil _ _) (trimmed item)]
        rfl
    have read (item : Quotes × String) :
        String.ofList (itemText (item.1.form item.2.toList)) = item.2 := by
      rw [Quotes.itemText_form, String.ofList_toList]
    have spaced (item : Quotes × String) :
        String.ofList (itemText (' ' :: item.1.form item.2.toList)) = item.2 := by
      rw [itemText, trimmed, ← Quotes.trim_form, ← itemText, read]
    simp only [bracketedItems, splitItems_listed, List.filter_eq_self.mpr filled, List.map_cons,
      List.map_map, Function.comp_def, read, spaced]

private theorem trim_listed (items : List (Quotes × String)) :
    trim (listed items) = listed items := by
  induction items with
  | nil => rfl
  | cons item items ih =>
    have first := Quotes.trim_form item.1 item.2.toList
    by_cases more : items = []
    · rw [more]
      exact first
    · obtain ⟨c, cs, shape⟩ := List.exists_cons_of_ne_nil (item.1.form_ne_nil item.2.toList)
      have plain : isBlank c = false := (trim_eq_self_iff.mp first).1 c (by rw [shape]; rfl)
      have split : listed (item :: items) = c :: (cs ++ [',', ' ']) ++ listed items := by
        simp [listed_cons item more, shape]
      rw [split, trim_cons_append _ plain (listed_ne_nil more) ih]

/-- A list of quoted texts between brackets is read as the list of them. -/
theorem readScalar_listed (typing : Typing) (items : List (Quotes × String)) :
    readScalar typing ('[' :: listed items ++ [']']) = .ok (Value.texts (items.map Prod.snd)) := by
  have brackets : bracketed? ('[' :: listed items ++ [']']) = some (listed items) := by
    simp [bracketed?]
  have trimmed : trim ('[' :: listed items ++ [']']) = '[' :: listed items ++ [']'] :=
    trim_enclosed _ (by decide) (by decide)
  simp only [readScalar, trimmed, brackets, trim_listed, bracketedItems_listed]

end EditorPlugins.Frontmatter
