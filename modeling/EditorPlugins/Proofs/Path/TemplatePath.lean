import EditorPlugins.Path.TemplatePath
import EditorPlugins.Proofs.Text.Pieces
import EditorPlugins.Proofs.Text.Trim

/-! # Paths that read back

What reading a path gives are pieces of its text, each of which can be a name. A path is read back
from its own text exactly when its names can be names, its text has no blank at either end, and it
names no drive. So a path that is read back still is when a plain name is put below it.
-/

namespace EditorPlugins

open Text

theorem isSafeRelative_iff {path : String} : isSafeRelative path = true ↔
    path ≠ "" ∧ '\\' ∉ path.toList ∧ path.toList.head? ≠ some '/' ∧
      namesDrive path.toList = false ∧ ['.', '.'] ∉ pieces '/' path.toList := by
  simp [isSafeRelative, and_assoc]

namespace TemplatePath

/-- A name that reading a path keeps. -/
structure IsName (name : String) : Prop where
  nonempty : name ≠ ""
  notDot : name ≠ "."
  notDots : name ≠ ".."
  noSlash : '/' ∉ name.toList
  noBackslash : '\\' ∉ name.toList

/-- A path text that reading and writing leave as it is. -/
def IsNormal (path : String) : Prop := (ofText? path).map text = some path

instance (path : String) : Decidable (IsNormal path) :=
  inferInstanceAs (Decidable ((ofText? path).map text = some path))

section Scan

/-- A piece that is neither passed over nor takes a name back. -/
def IsKept (piece : List Char) : Prop := piece ≠ [] ∧ piece ≠ ['.'] ∧ piece ≠ ['.', '.']

/-- One step leaves names that are pieces, in their order. -/
private theorem scanPiece?_eq_some {kept next : List (List Char)} {piece : List Char}
    (scanned : scanPiece? kept piece = some next) (real : ∀ name ∈ kept, IsKept name) :
    (∀ name ∈ next, IsKept name) ∧ next.reverse.Sublist (kept.reverse ++ [piece]) := by
  unfold scanPiece? at scanned
  split at scanned
  · cases scanned
    exact ⟨real, List.sublist_append_left _ _⟩
  · next some =>
    simp only [Bool.or_eq_true, List.isEmpty_iff, decide_eq_true_eq, not_or] at some
    split at scanned
    · cases kept with
      | nil => cases scanned
      | cons name kept =>
        cases scanned
        rw [List.reverse_cons, List.append_assoc]
        exact ⟨fun other member => real other (List.mem_cons_of_mem _ member),
          List.sublist_append_left _ _⟩
    · next other =>
      cases scanned
      rw [List.reverse_cons]
      exact ⟨List.forall_mem_cons.mpr ⟨⟨some.1, some.2, other⟩, real⟩, List.Sublist.refl _⟩

private theorem foldlM_scanPiece? {pieces kept names : List (List Char)}
    (scanned : pieces.foldlM scanPiece? kept = some names) (real : ∀ name ∈ kept, IsKept name) :
    (∀ name ∈ names, IsKept name) ∧ names.reverse.Sublist (kept.reverse ++ pieces) := by
  induction pieces generalizing kept with
  | nil =>
    cases scanned
    exact ⟨real, by simp⟩
  | cons piece pieces ih =>
    rw [List.foldlM_cons, Option.bind_eq_bind, Option.bind_eq_some_iff] at scanned
    obtain ⟨next, step, rest⟩ := scanned
    obtain ⟨nextReal, moved⟩ := scanPiece?_eq_some step real
    obtain ⟨namesReal, sublist⟩ := ih rest nextReal
    refine ⟨namesReal, sublist.trans ?_⟩
    rw [List.append_cons]
    exact moved.append_right pieces

/-- The names that scanning leaves are pieces, in their order. -/
theorem scan?_eq_some {pieces names : List (List Char)}
    (scanned : scan? pieces = some names) :
    (∀ name ∈ names, IsKept name) ∧ names.Sublist pieces := by
  obtain ⟨reversed, folded, rfl⟩ := Option.map_eq_some_iff.mp scanned
  obtain ⟨real, sublist⟩ := foldlM_scanPiece? folded fun _ member => nomatch member
  exact ⟨fun name member => real name (List.mem_reverse.mp member), sublist⟩

/-- A piece that scanning does not pass over. -/
private def isReal (piece : List Char) : Bool := !(piece.isEmpty || piece = ['.'])

private theorem scanPiece?_of_ne {piece : List Char} (notDots : piece ≠ ['.', '.'])
    (kept : List (List Char)) :
    scanPiece? kept piece = some (if isReal piece then piece :: kept else kept) := by
  unfold scanPiece?
  by_cases passed : (piece.isEmpty || piece = ['.']) = true
  · simp [isReal, passed]
  · simp [isReal, passed, notDots]

/-- Where no piece takes a name back, scanning only passes pieces over. -/
private theorem scan?_of_noDots {pieces : List (List Char)} (noDots : ['.', '.'] ∉ pieces) :
    scan? pieces = some (pieces.filter isReal) := by
  suffices folded : ∀ kept,
      pieces.foldlM scanPiece? kept = some ((pieces.filter isReal).reverse ++ kept) by
    simp [scan?, folded]
  intro kept
  induction pieces generalizing kept with
  | nil => rfl
  | cons piece pieces ih =>
    simp only [List.mem_cons, not_or] at noDots
    rw [List.foldlM_cons, scanPiece?_of_ne (Ne.symm noDots.1)]
    cases real : isReal piece with
    | false =>
      rw [List.filter_cons_of_neg (by simp [real])]
      exact ih noDots.2 kept
    | true =>
      rw [List.filter_cons_of_pos real, List.reverse_cons, List.append_assoc]
      exact ih noDots.2 (piece :: kept)

private theorem filter_isReal {pieces : List (List Char)} (keep : ∀ piece ∈ pieces, IsKept piece) :
    pieces.filter isReal = pieces :=
  List.filter_eq_self.mpr fun piece member => by
    simp [isReal, (keep piece member).1, (keep piece member).2.1]

private theorem scan?_of_isKept {pieces : List (List Char)}
    (keep : ∀ piece ∈ pieces, IsKept piece) :
    scan? pieces = some pieces := by
  rw [scan?_of_noDots fun dots => (keep _ dots).2.2 rfl, filter_isReal keep]

end Scan

theorem isKept_toList {name : String} (isName : IsName name) : IsKept name.toList :=
  ⟨fun empty => isName.nonempty (String.toList_inj.mp empty),
    fun dot => isName.notDot (String.toList_inj.mp dot),
    fun dots => isName.notDots (String.toList_inj.mp dots)⟩

theorem toList_text (names : TemplatePath) :
    (text names).toList = joinWith ['/'] (names.map String.toList) := by
  rw [text, Text.join, String.toList_ofList]
  rfl

/-- A text without backslashes only loses the blanks around it. -/
theorem clean_of_noBackslash {cs : List Char} (plain : '\\' ∉ cs) : clean cs = trim cs := by
  have same : (cs.map fun c => if c = '\\' then '/' else c) = cs := by
    refine (List.map_congr_left fun c member => ?_).trans (List.map_id cs)
    exact if_neg (ne_of_mem_of_not_mem member plain)
  rw [clean, same]

private theorem noBackslash_clean (cs : List Char) : '\\' ∉ clean cs := by
  intro member
  have present := (isPrefix_dropEndWhile isBlank _).sublist.subset member
  have mapped := (List.dropWhile_sublist isBlank).subset present
  obtain ⟨c, -, same⟩ := List.mem_map.mp mapped
  split at same
  · cases same
  · next other => exact other same

theorem trim_sublist (cs : List Char) : (trim cs).Sublist cs :=
  (isPrefix_dropEndWhile isBlank _).sublist.trans (List.dropWhile_sublist isBlank)

theorem ofText?_eq_some_iff {path : String} {names : TemplatePath} :
    ofText? path = some names ↔
      (clean path.toList).head? ≠ some '/' ∧
        scan? (pieces '/' (clean path.toList)) = some (names.map String.toList) ∧
        namesDrive (text names).toList = false := by
  by_cases rooted : (clean path.toList).head? = some '/'
  · simp [ofText?, rooted]
  · cases scanned : scan? (pieces '/' (clean path.toList)) with
    | none => simp [ofText?, rooted, scanned]
    | some kept =>
      have written : kept.map String.ofList = names ↔ kept = names.map String.toList := by
        constructor <;> (rintro rfl; simp [Function.comp_def])
      have joined : kept = names.map String.toList →
          (text names).toList = joinWith ['/'] kept := by
        rintro rfl
        exact toList_text names
      by_cases drive : namesDrive (joinWith ['/'] kept) = true
      · simp only [ofText?, rooted, scanned, drive, if_true, if_false, reduceCtorEq, false_iff,
          Option.some.injEq]
        rintro ⟨-, same, local'⟩
        rw [joined same, drive] at local'
        cases local'
      · simp only [ofText?, rooted, scanned, drive, ↓reduceIte, Bool.false_eq_true,
          Option.some.injEq, written, ne_eq, not_false_eq_true, true_and]
        refine ⟨fun same => ⟨same, ?_⟩, And.left⟩
        rw [joined same]
        exact Bool.eq_false_iff.mpr drive

/-- What scanning leaves of a cleaned text are names. -/
theorem isName_of_scan? {cs : List Char} {names : TemplatePath}
    (scanned : scan? (pieces '/' (clean cs)) = some (names.map String.toList)) :
    ∀ name ∈ names, IsName name := by
  intro name member
  obtain ⟨real, sublist⟩ := scan?_eq_some scanned
  have present : name.toList ∈ names.map String.toList := List.mem_map_of_mem member
  have piece := sublist.subset present
  obtain ⟨nonempty, notDot, notDots⟩ := real _ present
  exact {
    nonempty := fun same => nonempty (by rw [same]; rfl)
    notDot := fun same => notDot (by rw [same]; rfl)
    notDots := fun same => notDots (by rw [same]; rfl)
    noSlash := not_mem_of_mem_pieces piece
    noBackslash := fun inside => noBackslash_clean _ (mem_of_mem_pieces piece inside) }

/-- Reading a path gives names. -/
theorem isName_of_ofText? {path : String} {names : TemplatePath}
    (read : ofText? path = some names) : ∀ name ∈ names, IsName name :=
  isName_of_scan? (ofText?_eq_some_iff.mp read).2.1

section Text

variable {names : TemplatePath} {name : String}

theorem pieces_text (nonempty : names ≠ []) (plain : ∀ name ∈ names, '/' ∉ name.toList) :
    pieces '/' (text names).toList = names.map String.toList := by
  rw [toList_text, pieces_joinWith (by simpa using nonempty)]
  simpa using plain

theorem text_append_singleton (nonempty : names ≠ []) (name : String) :
    text (names ++ [name]) = text names ++ "/" ++ name := by
  apply String.toList_inj.mp
  rw [toList_text, List.map_append, List.map_singleton,
    joinWith_append_singleton _ (by simpa using nonempty)]
  simp [toList_text]

theorem text_cons (name : String) (nonempty : names ≠ []) :
    text (name :: names) = name ++ "/" ++ text names := by
  obtain ⟨next, rest, rfl⟩ := List.exists_cons_of_ne_nil nonempty
  apply String.toList_inj.mp
  simp [toList_text, joinWith]

theorem text_singleton (name : String) : text [name] = name := by
  simp [text, Text.join, joinWith]

private theorem head?_text (plain : ∀ name ∈ names, name ≠ "") :
    (text names).toList.head? = names.head?.bind fun name => name.toList.head? := by
  cases names with
  | nil => rfl
  | cons name names =>
    have present : name.toList ≠ [] := fun empty =>
      plain name List.mem_cons_self (String.toList_inj.mp empty)
    obtain ⟨c, cs, chars⟩ := List.exists_cons_of_ne_nil present
    cases names <;> simp [toList_text, joinWith, chars]

theorem getLast?_text (names : TemplatePath) (nonempty : name ≠ "") :
    (text (names ++ [name])).toList.getLast? = name.toList.getLast? := by
  by_cases none : names = []
  · rw [none, List.nil_append, text_singleton]
  · have present : name.toList ≠ [] := fun empty => nonempty (String.toList_inj.mp empty)
    rw [text_append_singleton none, String.toList_append, List.getLast?_append,
      List.getLast?_eq_some_getLast present, Option.some_or]

private theorem head?_text_ne (isName : ∀ name ∈ names, IsName name) :
    (text names).toList.head? ≠ some '/' := by
  rw [head?_text fun name member => (isName name member).nonempty]
  intro slash
  obtain ⟨name, first, start⟩ := Option.bind_eq_some_iff.mp slash
  exact (isName name (List.mem_of_mem_head? first)).noSlash (List.mem_of_mem_head? start)

theorem noBackslash_text (isName : ∀ name ∈ names, IsName name) :
    '\\' ∉ (text names).toList := by
  intro inside
  rw [toList_text] at inside
  rcases mem_joinWith inside with slash | ⟨chars, member, found⟩
  · simp at slash
  · obtain ⟨name, present, rfl⟩ := List.mem_map.mp member
    exact (isName name present).noBackslash found

theorem text_ne_empty (nonempty : names ≠ []) (plain : ∀ name ∈ names, name ≠ "") :
    text names ≠ "" := by
  intro empty
  have start := head?_text plain
  obtain ⟨name, rest, rfl⟩ := List.exists_cons_of_ne_nil nonempty
  rw [empty] at start
  have none : name.toList = [] := List.head?_eq_none_iff.mp start.symm
  exact plain name List.mem_cons_self (String.toList_inj.mp none)

/-- The text of names is safe when there are names and they name no drive. -/
theorem isSafeRelative_text_iff (isName : ∀ name ∈ names, IsName name) :
    isSafeRelative (text names) = true ↔ names ≠ [] ∧ namesDrive (text names).toList = false := by
  rw [isSafeRelative_iff]
  constructor
  · rintro ⟨nonempty, -, -, local', -⟩
    refine ⟨?_, local'⟩
    rintro rfl
    exact nonempty rfl
  · rintro ⟨nonempty, local'⟩
    refine ⟨text_ne_empty nonempty fun name member => (isName name member).nonempty,
      noBackslash_text isName, head?_text_ne isName, local', ?_⟩
    rw [pieces_text nonempty fun name member => (isName name member).noSlash]
    intro dots
    obtain ⟨name, member, same⟩ := List.mem_map.mp dots
    exact (isKept_toList (isName name member)).2.2 same

/-- A path text is read as the names that it was written from exactly when these can be names and
their text is trimmed and names no drive. -/
theorem ofText?_text_iff :
    ofText? (text names) = some names ↔ (∀ name ∈ names, IsName name) ∧
      trim (text names).toList = (text names).toList ∧
        namesDrive (text names).toList = false := by
  constructor
  · intro read
    have isName := isName_of_ofText? read
    obtain ⟨-, scanned, local'⟩ := ofText?_eq_some_iff.mp read
    refine ⟨isName, ?_, local'⟩
    -- The names are some of the pieces of the cleaned text, so cleaning takes nothing away.
    rw [clean_of_noBackslash (noBackslash_text isName)] at scanned
    have shorter := length_joinWith_le_of_sublist ['/'] (scan?_eq_some scanned).2
    rw [joinWith_pieces, ← toList_text] at shorter
    exact (trim_sublist _).eq_of_length (Nat.le_antisymm (length_trim_le _) shorter)
  · rintro ⟨isName, trimmed, local'⟩
    rw [ofText?_eq_some_iff, clean_of_noBackslash (noBackslash_text isName), trimmed]
    refine ⟨head?_text_ne isName, ?_, local'⟩
    by_cases nonempty : names = []
    · rw [nonempty]
      rfl
    · rw [pieces_text nonempty fun name member => (isName name member).noSlash]
      apply scan?_of_isKept
      rintro piece member
      obtain ⟨name, present, rfl⟩ := List.mem_map.mp member
      exact isKept_toList (isName name present)

/-- Names without slashes are determined by their text. -/
theorem text_inj {other : TemplatePath} (plain : ∀ name ∈ names, name ≠ "" ∧ '/' ∉ name.toList)
    (also : ∀ name ∈ other, name ≠ "" ∧ '/' ∉ name.toList) (same : text names = text other) :
    names = other := by
  by_cases none : names = []
  · by_cases noneAlso : other = []
    · rw [none, noneAlso]
    · rw [none] at same
      exact absurd same.symm (text_ne_empty noneAlso fun name member => (also name member).1)
  · by_cases noneAlso : other = []
    · rw [noneAlso] at same
      exact absurd same (text_ne_empty none fun name member => (plain name member).1)
    · have written := pieces_text none fun name member => (plain name member).2
      rw [same, pieces_text noneAlso fun name member => (also name member).2] at written
      exact (List.map_inj_right fun _ _ => String.toList_inj.mp).mp written.symm

/-- A normal path text is read as the names that it was written from. -/
theorem ofText?_text_of_isNormal (plain : ∀ name ∈ names, name ≠ "" ∧ '/' ∉ name.toList)
    (normal : IsNormal (text names)) : ofText? (text names) = some names := by
  obtain ⟨other, read, same⟩ := Option.map_eq_some_iff.mp normal
  have isName := isName_of_ofText? read
  have also : ∀ name ∈ other, name ≠ "" ∧ '/' ∉ name.toList := fun name member =>
    ⟨(isName name member).nonempty, (isName name member).noSlash⟩
  rw [read, text_inj also plain same]

/-- What does not start at the root is joined with a slash to the text of a path. -/
private theorem joinPath_of_relative (nonempty : names ≠ [])
    (plain : ∀ name ∈ names, name ≠ "" ∧ '/' ∉ name.toList) {path : String}
    (relative : path.toList.head? ≠ some '/') :
    joinPath (text names) path = text names ++ "/" ++ path := by
  have notRooted : startsWith "/" path = false := by
    apply Bool.eq_false_iff.mpr
    intro rooted
    exact relative
      (List.singleton_prefix_iff_head?_eq_some.mp (List.isPrefixOf_iff_prefix.mp rooted))
  obtain ⟨above, last, rfl⟩ := (List.eq_nil_or_concat names).resolve_left nonempty
  rw [List.concat_eq_append] at plain ⊢
  obtain ⟨lastNonempty, lastPlain⟩ := plain last (by simp)
  have lastChar := getLast?_text above lastNonempty
  have first : text (above ++ [last]) ≠ "" :=
    text_ne_empty (by simp) fun name member => (plain name member).1
  have open' : endsWith "/" (text (above ++ [last])) = false := by
    apply Bool.eq_false_iff.mpr
    intro ends
    obtain ⟨before, whole⟩ := List.isSuffixOf_iff_suffix.mp ends
    rw [← whole, List.getLast?_append] at lastChar
    exact lastPlain (List.mem_of_getLast? lastChar.symm)
  simp [joinPath, notRooted, first, open']

/-- Joining a name to the text of a path writes the path with the name below it. -/
theorem joinPath_text (plain : ∀ name ∈ names, name ≠ "" ∧ '/' ∉ name.toList)
    (noSlash : '/' ∉ name.toList) : joinPath (text names) name = text (names ++ [name]) := by
  have relative : name.toList.head? ≠ some '/' := fun first =>
    noSlash (List.mem_of_mem_head? first)
  by_cases root : names = []
  · have notRooted : startsWith "/" name = false := by
      apply Bool.eq_false_iff.mpr
      intro rooted
      exact noSlash ((List.isPrefixOf_iff_prefix.mp rooted).subset (by simp))
    rw [root, List.nil_append, text_singleton, joinPath, notRooted, if_neg Bool.false_ne_true]
    exact String.empty_append
  · rw [joinPath_of_relative root plain relative, text_append_singleton root]

theorem namesDrive_append {cs : List Char} (nonempty : cs ≠ [])
    (local' : namesDrive cs = false) (rest : List Char) :
    namesDrive (cs ++ '/' :: rest) = false := by
  obtain ⟨c, cs, rfl⟩ := List.exists_cons_of_ne_nil nonempty
  cases cs with
  | nil => rfl
  | cons d cs =>
    by_cases colon : d = ':'
    · rw [colon] at local'
      cases local'
    · simp [namesDrive, colon]

/-- Names of a directory below which paths read back; the directory itself need not read back, for
its text may end with a blank. -/
structure IsBase (names : TemplatePath) : Prop where
  nonempty : names ≠ []
  isName : ∀ name ∈ names, IsName name
  start : ∀ c ∈ (text names).toList.head?, isBlank c = false
  local' : namesDrive (text names).toList = false

namespace IsBase

theorem of_ofText? (read : ofText? (text names) = some names) (nonempty : names ≠ []) :
    IsBase names := by
  obtain ⟨isName, trimmed, local'⟩ := ofText?_text_iff.mp read
  exact ⟨nonempty, isName, (trim_eq_self_iff.mp trimmed).1, local'⟩

/-- A text that reading leaves as it is writes names below which paths read back. -/
theorem of_isNormal {path : String} (normal : IsNormal path) (nonempty : path ≠ "") :
    ∃ names, IsBase names ∧ text names = path := by
  obtain ⟨names, read, rfl⟩ := Option.map_eq_some_iff.mp normal
  have isName := isName_of_ofText? read
  refine ⟨names, of_ofText? (ofText?_text_of_isNormal (fun name member => ?_) normal) ?_, rfl⟩
  · exact ⟨(isName name member).nonempty, (isName name member).noSlash⟩
  · rintro rfl
    exact nonempty rfl

variable (base : IsBase names)

include base

theorem toList_ne_nil : (text names).toList ≠ [] := fun empty =>
  text_ne_empty base.nonempty (fun name member => (base.isName name member).nonempty)
    (String.toList_inj.mp empty)

theorem plain : ∀ name ∈ names, name ≠ "" ∧ '/' ∉ name.toList := fun name member =>
  ⟨(base.isName name member).nonempty, (base.isName name member).noSlash⟩

theorem child (isName : IsName name) : IsBase (names ++ [name]) := by
  have written : (text (names ++ [name])).toList = (text names).toList ++ '/' :: name.toList := by
    rw [text_append_singleton base.nonempty]
    simp
  refine ⟨by simp, ?_, ?_, ?_⟩
  · rintro other member
    rcases List.mem_append.mp member with above | last
    · exact base.isName other above
    · rw [List.mem_singleton.mp last]
      exact isName
  · obtain ⟨c, cs, chars⟩ := List.exists_cons_of_ne_nil base.toList_ne_nil
    simpa [written, chars] using base.start
  · rw [written]
    exact namesDrive_append base.toList_ne_nil base.local' _

/-- A base reads back unless its last name ends with a blank. -/
theorem ofText?_text (unblank : ∀ c ∈ (text names).toList.getLast?, isBlank c = false) :
    ofText? (text names) = some names :=
  ofText?_text_iff.mpr ⟨base.isName, trim_eq_self_iff.mpr ⟨base.start, unblank⟩, base.local'⟩

/-- A name that does not end in a blank reads back below a base. -/
theorem ofText?_child (isName : IsName name)
    (unblank : ∀ c ∈ name.toList.getLast?, isBlank c = false) :
    ofText? (text (names ++ [name])) = some (names ++ [name]) :=
  (base.child isName).ofText?_text (by rwa [getLast?_text _ isName.nonempty])

end IsBase

/-- A path that is read back still is when a name that does not end in a blank is put below it. -/
theorem ofText?_text_child (read : ofText? (text names) = some names) (nonempty : names ≠ [])
    (isName : IsName name) (unblank : ∀ c ∈ name.toList.getLast?, isBlank c = false) :
    ofText? (text (names ++ [name])) = some (names ++ [name]) :=
  (IsBase.of_ofText? read nonempty).ofText?_child isName unblank

/-- A path text that stays inside every directory that it is joined to. -/
structure IsInside (path : String) : Prop where
  relative : path.toList.head? ≠ some '/'
  noBackslash : '\\' ∉ path.toList
  noDots : ['.', '.'] ∉ pieces '/' path.toList
  unblank : ∀ c ∈ path.toList.getLast?, isBlank c = false
  nonempty : path ≠ ""

private theorem isInside_iff {path : String} : IsInside path ↔
    (path.toList.head? ≠ some '/' ∧ '\\' ∉ path.toList ∧ ['.', '.'] ∉ pieces '/' path.toList) ∧
      path.toList.getLast?.all (fun c => !isBlank c) = true ∧ path ≠ "" := by
  have unblank : path.toList.getLast?.all (fun c => !isBlank c) = true ↔
      ∀ c ∈ path.toList.getLast?, isBlank c = false := by
    simp [Option.all_eq_true, Option.mem_def]
  rw [unblank]
  exact ⟨fun inside => ⟨⟨inside.relative, inside.noBackslash, inside.noDots⟩, inside.unblank,
      inside.nonempty⟩,
    fun ⟨⟨relative, noBackslash, noDots⟩, unblank, nonempty⟩ =>
      ⟨relative, noBackslash, noDots, unblank, nonempty⟩⟩

-- The last character is looked at, for a statement about every character is not to be decided.
instance (path : String) : Decidable (IsInside path) := decidable_of_iff' _ isInside_iff

/-- A path that stays inside is read below the directory that it is joined to. -/
theorem IsBase.ofText?_joinPath (base : IsBase names) {path : String} (inside : IsInside path) :
    ∃ below, ofText? (joinPath (text names) path) = some (names ++ below) := by
  let parts := names.map String.toList ++ pieces '/' path.toList
  have proper : names.map String.toList ≠ [] := by simpa using base.nonempty
  have joined : joinPath (text names) path = text names ++ "/" ++ path :=
    joinPath_of_relative base.nonempty base.plain inside.relative
  have written : (joinPath (text names) path).toList = joinWith ['/'] parts := by
    rw [joined, joinWith_append _ proper (pieces_ne_nil _ _), joinWith_pieces, ← toList_text]
    simp
  have cut : pieces '/' (joinWith ['/'] parts) = parts := by
    refine pieces_joinWith (List.append_ne_nil_of_left_ne_nil proper _) fun part member => ?_
    rcases List.mem_append.mp member with above | below
    · obtain ⟨name, present, rfl⟩ := List.mem_map.mp above
      exact (base.isName name present).noSlash
    · exact not_mem_of_mem_pieces below
  have cleaned : clean (joinPath (text names) path).toList =
      (joinPath (text names) path).toList := by
    have noBackslash : '\\' ∉ (joinPath (text names) path).toList := by
      simp only [joined, String.toList_append, List.mem_append, not_or]
      exact ⟨⟨noBackslash_text base.isName, by decide⟩, inside.noBackslash⟩
    obtain ⟨c, cs, start⟩ := List.exists_cons_of_ne_nil base.toList_ne_nil
    have ends : path.toList ≠ [] := fun empty => inside.nonempty (String.toList_inj.mp empty)
    rw [clean_of_noBackslash noBackslash, trim_eq_self_iff, joined]
    refine ⟨by simpa [start] using base.start, ?_⟩
    rw [String.toList_append, List.getLast?_append, List.getLast?_eq_some_getLast ends,
      Option.some_or, ← List.getLast?_eq_some_getLast ends]
    exact inside.unblank
  refine ⟨((pieces '/' path.toList).filter isReal).map String.ofList,
    ofText?_eq_some_iff.mpr ⟨?_, ?_, ?_⟩⟩
  · obtain ⟨c, cs, start⟩ := List.exists_cons_of_ne_nil base.toList_ne_nil
    rw [cleaned, joined]
    simpa [start] using head?_text_ne base.isName
  · have noDots : ['.', '.'] ∉ parts := by
      rw [List.mem_append, not_or]
      refine ⟨fun above => ?_, inside.noDots⟩
      obtain ⟨name, present, same⟩ := List.mem_map.mp above
      exact (isKept_toList (base.isName name present)).2.2 same
    have names' : (names.map String.toList).filter isReal = names.map String.toList := by
      refine filter_isReal fun part member => ?_
      obtain ⟨name, present, rfl⟩ := List.mem_map.mp member
      exact isKept_toList (base.isName name present)
    rw [cleaned, written, cut, scan?_of_noDots noDots, List.filter_append, names']
    simp [Function.comp_def]
  · by_cases none : (pieces '/' path.toList).filter isReal = []
    · rw [none, List.map_nil, List.append_nil]
      exact base.local'
    · rw [toList_text, List.map_append, joinWith_append _ proper (by simpa using none),
        ← toList_text, List.append_assoc, List.singleton_append]
      exact namesDrive_append base.toList_ne_nil base.local' _

end Text

end TemplatePath

end EditorPlugins
