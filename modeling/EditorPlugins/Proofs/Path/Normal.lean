import EditorPlugins.Proofs.Path.FilePath
import EditorPlugins.Proofs.Template.Source
import Mathlib.Data.List.Induction

/-! # Normal forms of path texts

There are two ways to tell what a path text denotes. Reading scans its pieces and stops at the first
one that leaves the tree. The other way writes the text without dots first, where double dots that
find no name to take back stay at the start, and checks only what it has written. Both accept the
same texts, for the same names: those that do not start at the root, whose double dots always find a
name to take back, and whose names do not start with a drive.

What is written for the names is read as these names again, unless a blank that stood inside the
text comes to one of its ends.
-/

namespace EditorPlugins.TemplatePath

open Text Template

section Kept

/-- The pieces that are kept when one more is scanned: double dots take back the last one. -/
def keepPiece (kept : List (List Char)) (piece : List Char) : List (List Char) :=
  if piece = [] ∨ piece = ['.'] then kept
  else if piece = ['.', '.'] then kept.dropLast
  else kept ++ [piece]

/-- The pieces that are kept of all. -/
def keptPieces (pieces : List (List Char)) : List (List Char) := pieces.foldl keepPiece []

/-- Double dots always find a piece that was kept before them. -/
def StaysInside (pieces : List (List Char)) : Prop :=
  ∀ before after, pieces = before ++ ['.', '.'] :: after → keptPieces before ≠ []

variable {pieces : List (List Char)} {piece : List Char}

private theorem keptPieces_append (pieces : List (List Char)) (piece : List Char) :
    keptPieces (pieces ++ [piece]) = keepPiece (keptPieces pieces) piece := by
  rw [keptPieces, List.foldl_append]
  rfl

/-- One more piece stays inside when it is no double dots, or finds a piece that was kept. -/
theorem staysInside_append_iff : StaysInside (pieces ++ [piece]) ↔
    StaysInside pieces ∧ (piece = ['.', '.'] → keptPieces pieces ≠ []) := by
  constructor
  · intro stays
    refine ⟨fun before after split => stays before (after ++ [piece]) (by simp [split]), ?_⟩
    rintro rfl
    exact stays pieces [] rfl
  · rintro ⟨stays, last⟩ before after split
    rcases List.eq_nil_or_concat after with rfl | ⟨after, other, rfl⟩
    · obtain ⟨rfl, same⟩ := List.append_inj' split rfl
      exact last (List.singleton_inj.mp same)
    · rw [List.concat_eq_append, ← List.cons_append, ← List.append_assoc] at split
      exact stays before after (List.append_inj' split rfl).1

/-- The scan of one more piece, for the pieces that are kept with the last one first. -/
private theorem scanPiece?_reverse (kept : List (List Char)) (piece : List Char) :
    scanPiece? kept.reverse piece =
      if piece = ['.', '.'] ∧ kept = [] then none else some (keepPiece kept piece).reverse := by
  unfold scanPiece? keepPiece
  by_cases passed : piece = [] ∨ piece = ['.']
  · have notDots : piece ≠ ['.', '.'] := by
      rcases passed with rfl | rfl <;> decide
    simp [passed, notDots]
  · by_cases dots : piece = ['.', '.']
    · rcases List.eq_nil_or_concat kept with rfl | ⟨kept, last, rfl⟩ <;> simp [dots]
    · simp [passed, dots]

/-- Scanning goes on for as long as the pieces stay inside. -/
private theorem foldlM_scanPiece?_eq_some_iff {reversed : List (List Char)} :
    pieces.foldlM scanPiece? [] = some reversed ↔
      StaysInside pieces ∧ (keptPieces pieces).reverse = reversed := by
  -- From the end, for the last piece goes by what is kept of those before it.
  induction pieces using List.reverseRecOn generalizing reversed with
  | nil =>
    have stays : StaysInside [] := fun before after split => by simp at split
    simp [stays, keptPieces]
  | append_singleton pieces piece ih =>
    simp only [List.foldlM_append, List.foldlM_cons, List.foldlM_nil, bind_pure,
      staysInside_append_iff, keptPieces_append]
    by_cases stays : StaysInside pieces
    · rw [ih.mpr ⟨stays, rfl⟩, Option.bind_eq_bind, Option.bind_some, scanPiece?_reverse]
      by_cases climbs : piece = ['.', '.'] ∧ keptPieces pieces = []
      · simp [climbs]
      · rw [if_neg climbs, Option.some.injEq]
        exact ⟨fun same => ⟨⟨stays, fun dots none => climbs ⟨dots, none⟩⟩, same⟩, And.right⟩
    · have none : pieces.foldlM scanPiece? [] = none :=
        Option.eq_none_iff_forall_ne_some.mpr fun reversed found => stays (ih.mp found).1
      simp [none, stays]

/-- Scanning leaves what is kept of pieces that stay inside, and fails for all others. -/
theorem scan?_eq_some_iff {names : List (List Char)} :
    scan? pieces = some names ↔ StaysInside pieces ∧ keptPieces pieces = names := by
  simp only [scan?, Option.map_eq_some_iff, foldlM_scanPiece?_eq_some_iff]
  constructor
  · rintro ⟨reversed, ⟨stays, rfl⟩, rfl⟩
    exact ⟨stays, (List.reverse_reverse _).symm⟩
  · rintro ⟨stays, rfl⟩
    exact ⟨_, ⟨stays, rfl⟩, List.reverse_reverse _⟩

/-- What is kept of pieces that stay inside are some of the pieces, each of which can be kept. -/
theorem isKept_of_mem_keptPieces (stays : StaysInside pieces) :
    (∀ name ∈ keptPieces pieces, IsKept name) ∧ (keptPieces pieces).Sublist pieces :=
  scan?_eq_some (scan?_eq_some_iff.mpr ⟨stays, rfl⟩)

end Kept

section Normal

/-- The names of a normal form when one more piece is written: double dots take back a name, and
stay where there is none; behind a root they have nothing to take back. -/
def normalPiece (rooted : Bool) (names : List (List Char)) (piece : List Char) :
    List (List Char) :=
  if piece = [] ∨ piece = ['.'] then names
  else if piece ≠ ['.', '.'] ∨ (rooted = false ∧ names = []) ∨ names.getLast? = some ['.', '.'] then
    names ++ [piece]
  else names.dropLast

/-- The names of the normal form of a path text. -/
def normalNames (rooted : Bool) (pieces : List (List Char)) : List (List Char) :=
  pieces.foldl (normalPiece rooted) []

/-- The normal form of a path text; nothing at all is a dot. -/
def normalForm (cs : List Char) : List Char :=
  let root := (FilePath.rootOf cs).toList
  let written := root ++ joinWith ['/'] (normalNames (!root.isEmpty) (pieces '/' cs))
  if written.isEmpty then ['.'] else written

/-- Write a path text in its normal form, and check that this form stays inside the tree. -/
def normalize? (path : String) : Option String :=
  let cleaned := clean path.toList
  if cleaned = [] ∨ cleaned = ['.'] ∨ cleaned = ['.', '/'] then some ""
  else
    let normal := String.ofList (normalForm cleaned)
    if normal = "." then some "" else if isSafeRelative normal then some normal else none

variable {pieces : List (List Char)} {piece : List Char}

private theorem normalNames_append (rooted : Bool) (pieces : List (List Char)) (piece : List Char) :
    normalNames rooted (pieces ++ [piece]) =
      normalPiece rooted (normalNames rooted pieces) piece := by
  rw [normalNames, List.foldl_append]
  rfl

/-- Pieces that stay inside leave the same names in both ways. -/
theorem normalNames_of_staysInside (stays : StaysInside pieces) :
    normalNames false pieces = keptPieces pieces := by
  induction pieces using List.reverseRecOn with
  | nil => rfl
  | append_singleton pieces piece ih =>
    obtain ⟨before, last⟩ := staysInside_append_iff.mp stays
    rw [normalNames_append, keptPieces_append, ih before, normalPiece, keepPiece]
    have plain : (keptPieces pieces).getLast? ≠ some ['.', '.'] := fun dots =>
      ((isKept_of_mem_keptPieces before).1 _ (List.mem_of_getLast? dots)).2.2 rfl
    by_cases dots : piece = ['.', '.']
    · simp [dots, last dots, plain]
    · simp [dots]

/-- Double dots at the start of a normal form stay there. -/
private theorem head?_normalPiece {names : List (List Char)}
    (climbs : names.head? = some ['.', '.']) (piece : List Char) :
    (normalPiece false names piece).head? = some ['.', '.'] := by
  unfold normalPiece
  split
  · exact climbs
  · split
    · rw [List.head?_append, climbs, Option.some_or]
    · next other =>
      obtain ⟨rest, rfl⟩ := List.head?_eq_some_iff.mp climbs
      cases rest with
      | nil => simp at other
      | cons next rest => rfl

/-- Pieces that leave the tree leave double dots at the start. -/
theorem head?_normalNames (leaves : ¬StaysInside pieces) :
    (normalNames false pieces).head? = some ['.', '.'] := by
  induction pieces using List.reverseRecOn with
  | nil => exact absurd (fun before after split => by simp at split) leaves
  | append_singleton pieces piece ih =>
    rw [normalNames_append]
    by_cases stays : StaysInside pieces
    · obtain ⟨rfl, none⟩ : piece = ['.', '.'] ∧ keptPieces pieces = [] := by
        simpa [staysInside_append_iff, stays] using leaves
      rw [normalNames_of_staysInside stays, none]
      rfl
    · exact head?_normalPiece (ih stays) piece

/-- The names of a normal form are some of the pieces. -/
theorem normalNames_subset (rooted : Bool) (pieces : List (List Char)) :
    normalNames rooted pieces ⊆ pieces := by
  induction pieces using List.reverseRecOn with
  | nil => exact List.Subset.refl _
  | append_singleton pieces piece ih =>
    rw [normalNames_append]
    have before : normalNames rooted pieces ⊆ pieces ++ [piece] :=
      List.subset_append_of_subset_left _ ih
    unfold normalPiece
    split
    · exact before
    · split
      · exact List.append_subset.mpr ⟨before, List.subset_append_right _ _⟩
      · exact List.Subset.trans (List.dropLast_subset _) before

/-- The normal form of a text with a root has a root. -/
theorem head?_normalForm {cs : List Char} (rooted : cs.head? = some '/') :
    (normalForm cs).head? = some '/' := by
  obtain ⟨root, start⟩ := List.head?_eq_some_iff.mp (FilePath.head?_rootOf rooted)
  simp [normalForm, start]

/-- The normal form of a relative text joins its names. -/
theorem normalForm_of_relative {cs : List Char} (relative : cs.head? ≠ some '/') :
    normalForm cs =
      let written := joinWith ['/'] (normalNames false (Text.pieces '/' cs))
      if written.isEmpty then ['.'] else written := by
  simp [normalForm, FilePath.rootOf_eq_empty_iff.mpr relative]

/-- The normal form decides alone, for the texts that are told apart before have a dot for it. -/
theorem normalize?_eq_ite (path : String) : normalize? path =
    if normalForm (clean path.toList) = ['.'] then some ""
    else if isSafeRelative (String.ofList (normalForm (clean path.toList))) then
      some (String.ofList (normalForm (clean path.toList)))
    else none := by
  have dot : String.ofList (normalForm (clean path.toList)) = "." ↔
      normalForm (clean path.toList) = ['.'] :=
    (String.ofList_inj : String.ofList _ = String.ofList ['.'] ↔ _)
  simp only [normalize?, dot]
  split
  · next short =>
    have form : normalForm (clean path.toList) = ['.'] := by
      rcases short with same | same | same <;> rw [same] <;> rfl
    rw [if_pos form]
  · rfl

end Normal

section Read

variable {path : String} {names : TemplatePath}

/-- The pieces of a path text, with slashes for backslashes and without blanks around it. -/
def piecesOf (path : String) : List (List Char) := pieces '/' (clean path.toList)

def keptText (path : String) : List Char := joinWith ['/'] (keptPieces (piecesOf path))

private theorem namesDrive_iff {cs : List Char} : namesDrive cs = true ↔ cs[1]? = some ':' := by
  unfold namesDrive
  split
  · simp
  · next other =>
    refine iff_of_false Bool.false_ne_true fun colon => ?_
    obtain ⟨c, d, rest, rfl⟩ : ∃ c d rest, cs = c :: d :: rest := by
      match cs, colon with
      | c :: d :: rest, _ => exact ⟨c, d, rest, rfl⟩
    cases colon
    exact other c rest rfl

/-- A text is read as what is kept of its pieces, if it is relative, its pieces stay inside and what
is kept names no drive. -/
theorem ofText?_eq_some_iff_kept : ofText? path = some names ↔
    (clean path.toList).head? ≠ some '/' ∧ StaysInside (piecesOf path) ∧
      namesDrive (keptText path) = false ∧
        names = (keptPieces (piecesOf path)).map String.ofList := by
  have written : keptPieces (piecesOf path) = names.map String.toList ↔
      names = (keptPieces (piecesOf path)).map String.ofList := by
    constructor
    · intro same
      simp [same, Function.comp_def]
    · rintro rfl
      simp [Function.comp_def]
  rw [ofText?_eq_some_iff, ← piecesOf, scan?_eq_some_iff, toList_text, keptText, written]
  constructor
  · rintro ⟨relative, ⟨stays, kept⟩, local'⟩
    rw [← written.mpr kept] at local'
    exact ⟨relative, stays, local', kept⟩
  · rintro ⟨relative, stays, local', kept⟩
    rw [written.mpr kept] at local'
    exact ⟨relative, ⟨stays, kept⟩, local'⟩

/-- The names that are kept, and their text. -/
private theorem isName_of_staysInside (stays : StaysInside (piecesOf path)) :
    (∀ name ∈ (keptPieces (piecesOf path)).map String.ofList, IsName name) ∧
      text ((keptPieces (piecesOf path)).map String.ofList) = String.ofList (keptText path) := by
  have chars : ((keptPieces (piecesOf path)).map String.ofList).map String.toList =
      keptPieces (piecesOf path) := by simp [Function.comp_def]
  refine ⟨isName_of_scan? (chars.symm ▸ scan?_eq_some_iff.mpr ⟨stays, rfl⟩), ?_⟩
  rw [← String.toList_inj, toList_text, chars, String.toList_ofList, keptText]

/-- Where nothing leaves the tree, the check of the normal form is the one for a drive. -/
private theorem normalize?_of_staysInside (relative : (clean path.toList).head? ≠ some '/')
    (stays : StaysInside (piecesOf path)) : normalize? path = (ofText? path).map text := by
  obtain ⟨isName, written⟩ := isName_of_staysInside stays
  have form : normalForm (clean path.toList) =
      if (keptText path).isEmpty then ['.'] else keptText path := by
    rw [normalForm_of_relative relative, ← piecesOf, normalNames_of_staysInside stays]
    rfl
  by_cases bare : keptPieces (piecesOf path) = []
  · have empty : keptText path = [] := by
      rw [keptText, bare]
      rfl
    have read : ofText? path = some [] := ofText?_eq_some_iff_kept.mpr
      ⟨relative, stays, by rw [empty]; rfl, by rw [bare]; rfl⟩
    rw [normalize?_eq_ite, form, empty, read]
    rfl
  · have proper : (keptPieces (piecesOf path)).map String.ofList ≠ [] := by simpa using bare
    have nonempty : keptText path ≠ [] := fun empty => by
      refine text_ne_empty proper (fun name member => (isName name member).nonempty) ?_
      rw [written, empty]
    have notDot : keptText path ≠ ['.'] := fun dot => by
      have cut := pieces_text proper fun name member => (isName name member).noSlash
      rw [written, String.toList_ofList, dot] at cut
      have alone : keptPieces (piecesOf path) = [['.']] := by
        simpa [Function.comp_def, pieces] using cut.symm
      exact ((isKept_of_mem_keptPieces stays).1 ['.'] (by simp [alone])).2.1 rfl
    have safe := isSafeRelative_text_iff isName
    rw [written, String.toList_ofList] at safe
    rw [List.isEmpty_eq_false_iff.mpr nonempty, if_neg Bool.false_ne_true] at form
    rw [normalize?_eq_ite, form, if_neg notDot]
    cases drive : namesDrive (keptText path) with
    | true =>
      have unread : ofText? path = none := Option.eq_none_iff_forall_ne_some.mpr fun names read =>
        Bool.false_ne_true ((ofText?_eq_some_iff_kept.mp read).2.2.1.symm.trans drive)
      rw [unread, if_neg (mt safe.mp (by simp [drive]))]
      rfl
    | false =>
      rw [ofText?_eq_some_iff_kept.mpr ⟨relative, stays, drive, rfl⟩,
        if_pos (safe.mpr ⟨proper, drive⟩), Option.map_some, written]

private theorem normalize?_of_leaves (relative : (clean path.toList).head? ≠ some '/')
    (leaves : ¬StaysInside (piecesOf path)) : normalize? path = none := by
  obtain ⟨names, start⟩ := List.head?_eq_some_iff.mp (head?_normalNames leaves)
  have noSlash : ∀ name ∈ ['.', '.'] :: names, '/' ∉ name := fun name member =>
    not_mem_of_mem_pieces (normalNames_subset false _ (start ▸ member))
  have cut := pieces_joinWith (List.cons_ne_nil _ _) noSlash
  have form : normalForm (clean path.toList) = joinWith ['/'] (['.', '.'] :: names) := by
    rw [normalForm_of_relative relative, ← piecesOf, start]
    cases names <;> rfl
  have notDot : joinWith ['/'] (['.', '.'] :: names) ≠ ['.'] := by
    cases names <;> simp [joinWith]
  have refused : isSafeRelative (String.ofList (joinWith ['/'] (['.', '.'] :: names))) = false := by
    refine Bool.eq_false_iff.mpr fun safe => (isSafeRelative_iff.mp safe).2.2.2.2 ?_
    rw [String.toList_ofList, cut]
    exact List.mem_cons_self
  rw [normalize?_eq_ite, form, if_neg notDot, refused]
  rfl

private theorem normalize?_of_rooted (rooted : (clean path.toList).head? = some '/') :
    normalize? path = none := by
  have start := head?_normalForm rooted
  have notDot : normalForm (clean path.toList) ≠ ['.'] := by
    intro dot
    rw [dot] at start
    cases start
  have refused : isSafeRelative (String.ofList (normalForm (clean path.toList))) = false := by
    refine Bool.eq_false_iff.mpr fun safe => (isSafeRelative_iff.mp safe).2.2.1 ?_
    rw [String.toList_ofList]
    exact start
  rw [normalize?_eq_ite, if_neg notDot, refused]
  rfl

/-- Reading a path text gives the same answer as checking its normal form. -/
theorem normalize?_eq (path : String) : normalize? path = (ofText? path).map text := by
  by_cases rooted : (clean path.toList).head? = some '/'
  · have unread : ofText? path = none := Option.eq_none_iff_forall_ne_some.mpr fun names read =>
      (ofText?_eq_some_iff_kept.mp read).1 rooted
    rw [normalize?_of_rooted rooted, unread]
    rfl
  · by_cases stays : StaysInside (piecesOf path)
    · exact normalize?_of_staysInside rooted stays
    · have unread : ofText? path = none := Option.eq_none_iff_forall_ne_some.mpr fun names read =>
        stays (ofText?_eq_some_iff_kept.mp read).2.1
      rw [normalize?_of_leaves rooted stays, unread]
      rfl

end Read

/-- A path text is accepted exactly when it stays inside the tree, whether it is scanned or brought
into its normal form: it is relative, no double dots lack a name to take back, and what is kept has
no drive. What is accepted is what is kept; everything else is refused as a path outside. -/
theorem readPath_accepts (path : String) :
    ((∃ names, readPath path = .ok names) ↔
      (clean path.toList).head? ≠ some '/' ∧ StaysInside (piecesOf path) ∧
        (keptText path)[1]? ≠ some ':') ∧
    (∀ names, readPath path = .ok names → text names = String.ofList (keptText path)) ∧
    (∀ error, readPath path = .error error →
      error = .pathOutsideTemplates path ∧ error.category = .source) ∧
    (readPath path).map text = (normalize? path).elim (.error (.pathOutsideTemplates path)) .ok := by
  have local' : namesDrive (keptText path) = false ↔ (keptText path)[1]? ≠ some ':' := by
    rw [← Bool.not_eq_true, namesDrive_iff]
  refine ⟨?_, fun names read => ?_, fun error refused => ?_, ?_⟩
  · simp only [readPath_eq_ok_iff, ofText?_eq_some_iff_kept, local']
    exact ⟨fun ⟨names, relative, stays, drive, _⟩ => ⟨relative, stays, drive⟩,
      fun ⟨relative, stays, drive⟩ => ⟨_, relative, stays, drive, rfl⟩⟩
  · obtain ⟨-, stays, -, rfl⟩ := ofText?_eq_some_iff_kept.mp (readPath_eq_ok_iff.mp read)
    exact (isName_of_staysInside stays).2
  · unfold readPath at refused
    split at refused
    · cases refused
    · cases refused
      exact ⟨rfl, rfl⟩
  · rw [normalize?_eq, readPath]
    cases ofText? path <;> rfl

section Reread

variable {path : String} {names other : TemplatePath}

/-- What the text of names is read as is no longer than this text without the blanks around it. -/
private theorem length_text_le (isName : ∀ name ∈ names, IsName name)
    (read : ofText? (text names) = some other) :
    (text other).length ≤ (trim (text names).toList).length := by
  obtain ⟨-, scanned, -⟩ := ofText?_eq_some_iff.mp read
  rw [clean_of_noBackslash (noBackslash_text isName)] at scanned
  have shorter := length_joinWith_le_of_sublist ['/'] (scan?_eq_some scanned).2
  rwa [joinWith_pieces, ← toList_text, String.length_toList] at shorter

/-- What a path text is read as is read from its own text again exactly when this text has no blank
at either end; otherwise it is refused, or becomes shorter. -/
theorem reread_iff (read : readPath path = .ok names) :
    ((readPath (text names)).map text = .ok (text names) ↔
      (∀ c ∈ (text names).toList.head?, isBlank c = false) ∧
        ∀ c ∈ (text names).toList.getLast?, isBlank c = false) ∧
    ∀ other, readPath (text names) = .ok other →
      other = names ∨ (text other).length < (text names).length := by
  obtain ⟨-, scanned, local'⟩ := ofText?_eq_some_iff.mp (readPath_eq_ok_iff.mp read)
  have isName := isName_of_scan? scanned
  have again : ofText? (text names) = some names ↔ trim (text names).toList = (text names).toList :=
    ofText?_text_iff.trans ⟨fun ⟨_, trimmed, _⟩ => trimmed, fun trimmed => ⟨isName, trimmed, local'⟩⟩
  refine ⟨?_, fun other found => ?_⟩
  · rw [← trim_eq_self_iff, ← again]
    constructor
    · intro same
      obtain ⟨other, found, written⟩ := Outcome.map_eq_ok_iff.mp same
      refine ofText?_text_of_isNormal (fun name member => ?_) ?_
      · exact ⟨(isName name member).nonempty, (isName name member).noSlash⟩
      · rw [IsNormal, readPath_eq_ok_iff.mp found, Option.map_some, written]
    · intro found
      rw [readPath_eq_ok_iff.mpr found]
      rfl
  · rw [readPath_eq_ok_iff] at found
    by_cases trimmed : trim (text names).toList = (text names).toList
    · exact .inl (Option.some.inj (found.symm.trans (again.mpr trimmed)))
    · right
      have trims : (trim (text names).toList).length < (text names).toList.length :=
        Nat.lt_of_le_of_ne (length_trim_le _) fun same =>
          trimmed ((trim_sublist _).eq_of_length same)
      rw [← String.length_toList (s := text names)]
      exact Nat.lt_of_le_of_lt (length_text_le isName found) trims

theorem innerBlank_reread : readPath " .\\a /./b.md" = .ok ["a ", "b.md"] ∧
    text ["a ", "b.md"] = "a /b.md" ∧
    (readPath (text ["a ", "b.md"])).map text = .ok (text ["a ", "b.md"]) := by
  have read : readPath " .\\a /./b.md" = .ok ["a ", "b.md"] := by rfl
  refine ⟨read, by rfl, (reread_iff read).1.mpr ⟨?_, ?_⟩⟩
  · rintro c ⟨⟩
    rfl
  · rintro c ⟨⟩
    rfl

/-- A blank that dots hid from trimming is trimmed when the text is read again, which may also turn
a name into double dots that leave the tree. -/
theorem hiddenBlank_changes :
    (readPath "./ b").map text = .ok " b" ∧ (readPath " b").map text = .ok "b" ∧
    (readPath "./ ../b").map text = .ok " ../b" ∧
    readPath " ../b" = .error (.pathOutsideTemplates " ../b") ∧
    ¬∀ path shown, (readPath path).map text = .ok shown →
      (readPath shown).map text = .ok shown := by
  have first : (readPath "./ b").map text = .ok " b" := by rfl
  have second : (readPath " b").map text = .ok "b" := by rfl
  refine ⟨first, second, by rfl, by rfl, fun settles => ?_⟩
  have same := Except.ok.inj (second.symm.trans (settles _ _ first))
  exact absurd same (by decide)

end Reread

end EditorPlugins.TemplatePath
