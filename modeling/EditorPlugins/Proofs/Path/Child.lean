import EditorPlugins.Proofs.Path.TemplatePath
import Mathlib.Data.List.Induction
import Mathlib.Data.List.TakeWhile

/-! # Names put below a path text

A walk joins the names that it comes across to the text that it was asked for, however this text is
written. Where the text does not end in a blank, this reads as the name below what the text reads
as. A blank at the end is dropped when the text is read, but it is kept when a name follows. So of
all the names that are put below each other, reading misses a few at the ends.
-/

namespace EditorPlugins

namespace Text

/-- A separator cuts a text into the pieces before it and those after it. -/
theorem pieces_append_sep (sep : Char) (cs more : List Char) :
    pieces sep (cs ++ sep :: more) = pieces sep cs ++ pieces sep more := by
  have joined : cs ++ sep :: more = joinWith [sep] (pieces sep cs ++ pieces sep more) := by
    rw [joinWith_append _ (pieces_ne_nil _ _) (pieces_ne_nil _ _), joinWith_pieces,
      joinWith_pieces, List.append_assoc, List.singleton_append]
  rw [joined, pieces_joinWith (List.append_ne_nil_of_left_ne_nil (pieces_ne_nil _ _) _)]
  intro piece member
  rcases List.mem_append.mp member with before | after
  · exact not_mem_of_mem_pieces before
  · exact not_mem_of_mem_pieces after

/-- What follows a text without a separator belongs to its last piece. -/
theorem exists_pieces_append {sep : Char} {more : List Char} (absent : sep ∉ more)
    (cs : List Char) : ∃ before last, pieces sep cs = before ++ [last] ∧
      pieces sep (cs ++ more) = before ++ [last ++ more] := by
  obtain ⟨before, last, cut⟩ :=
    (List.eq_nil_or_concat (pieces sep cs)).resolve_left (pieces_ne_nil sep cs)
  rw [List.concat_eq_append] at cut
  have plain : ∀ piece ∈ before ++ [last], sep ∉ piece := fun piece member =>
    not_mem_of_mem_pieces (cut ▸ member)
  refine ⟨before, last, cut, ?_⟩
  have joined : cs ++ more = joinWith [sep] (before ++ [last ++ more]) := by
    rw [← joinWith_pieces sep cs, cut]
    by_cases none : before = []
    · rw [none]
      rfl
    · rw [joinWith_append_singleton _ none, joinWith_append_singleton _ none, List.append_assoc]
  rw [joined, pieces_joinWith (by simp)]
  intro piece member
  rcases List.mem_append.mp member with inside | final
  · exact plain piece (List.mem_append_left _ inside)
  · rw [List.mem_singleton.mp final, List.mem_append, not_or]
    exact ⟨plain last (by simp), absent⟩

end Text

namespace TemplatePath

open Text

variable {names above : TemplatePath} {path name : String}

/-- A name that can be put below any path text. -/
structure IsPlain (name : String) : Prop where
  isName : IsName name
  unblank : ∀ c ∈ name.toList.getLast?, isBlank c = false

/-- The last name of a path that reads back is plain. -/
theorem isPlain_of_ofText? (read : ofText? (text (names ++ [name])) = some (names ++ [name])) :
    IsPlain name := by
  obtain ⟨isName, trimmed, -⟩ := ofText?_text_iff.mp read
  have last : IsName name := isName name (by simp)
  refine ⟨last, ?_⟩
  rw [← getLast?_text names last.nonempty]
  exact (trim_eq_self_iff.mp trimmed).2

private def slashed (cs : List Char) : List Char := cs.map fun c => if c = '\\' then '/' else c

/-- Slashes are no blanks, and neither are backslashes. -/
private theorem getLast?_slashed (cs : List Char) :
    (slashed cs).getLast?.map isBlank = cs.getLast?.map isBlank := by
  rw [slashed, List.getLast?_map, Option.map_map]
  congr 1
  funext c
  simp only [Function.comp_apply]
  split
  · next same => rw [same]; rfl
  · rfl

private theorem unblank_slashed {cs : List Char} (unblank : ∀ c ∈ cs.getLast?, isBlank c = false) :
    ∀ c ∈ (slashed cs).getLast?, isBlank c = false := by
  intro c last
  have same := getLast?_slashed cs
  rw [Option.mem_def.mp last, Option.map_some] at same
  obtain ⟨d, also, blank⟩ := Option.map_eq_some_iff.mp same.symm
  rw [← blank, unblank d also]

private theorem scanPiece?_of_isKept {piece : List Char} (keep : IsKept piece)
    (kept : List (List Char)) : scanPiece? kept piece = some (piece :: kept) := by
  simp [scanPiece?, keep.1, keep.2.1, keep.2.2]

/-- A name that scanning comes to last is kept. -/
private theorem scan?_append_singleton {pieces names : List (List Char)} {piece : List Char}
    (scanned : scan? pieces = some names) (keep : IsKept piece) :
    scan? (pieces ++ [piece]) = some (names ++ [piece]) := by
  obtain ⟨kept, folded, rfl⟩ := Option.map_eq_some_iff.mp scanned
  simp [scan?, List.foldlM_append, folded, scanPiece?_of_isKept keep]

/-- A piece that is empty is passed over. -/
private theorem scan?_append_nil (pieces : List (List Char)) :
    scan? (pieces ++ [[]]) = scan? pieces := by
  simp only [scan?, List.foldlM_append, List.foldlM_cons, List.foldlM_nil, scanPiece?]
  cases pieces.foldlM scanPiece? [] <;> rfl

/-- What scanning leaves of the pieces before the last one. -/
private theorem exists_scan?_of_append {pieces names : List (List Char)} {piece : List Char}
    (scanned : scan? (pieces ++ [piece]) = some names) : ∃ kept, scan? pieces = some kept := by
  obtain ⟨kept, folded, -⟩ := Option.map_eq_some_iff.mp scanned
  rw [List.foldlM_append, Option.bind_eq_bind, Option.bind_eq_some_iff] at folded
  obtain ⟨before, first, -⟩ := folded
  exact ⟨before.reverse, Option.map_eq_some_iff.mpr ⟨before, first, rfl⟩⟩

/-- A text is read as the names that scanning leaves, unless they name a drive. -/
private theorem ofText?_of_scan (relative : (clean path.toList).head? ≠ some '/')
    (scanned : scan? (pieces '/' (clean path.toList)) = some (names.map String.toList)) :
    ofText? path = if namesDrive (text names).toList then none else some names := by
  simp only [ofText?, if_neg relative, scanned, toList_text]
  simp [Function.comp_def]

/-- A name after a slash is read below what the text before the slash is read as, unless the names
name a drive. -/
private theorem ofText?_of_front {front : List Char}
    (cleaned : clean path.toList = front ++ '/' :: name.toList) (nonempty : front ≠ [])
    (relative : front.head? ≠ some '/')
    (scanned : scan? (pieces '/' front) = some (above.map String.toList)) (isName : IsName name) :
    ofText? path =
      if namesDrive (text (above ++ [name])).toList then none else some (above ++ [name]) := by
  refine ofText?_of_scan ?_ ?_
  · rwa [cleaned, List.head?_append, List.head?_eq_some_head nonempty, Option.some_or,
      ← List.head?_eq_some_head nonempty]
  · rw [cleaned, pieces_append_sep, pieces_of_not_mem isName.noSlash,
      scan?_append_singleton scanned (isKept_toList isName)]
    simp

/-- A name is joined with a slash, which the text may have already. -/
private theorem joinPath_of_noSlash (nonempty : path ≠ "") (noSlash : '/' ∉ name.toList) :
    (joinPath path name).toList = path.toList ++ '/' :: name.toList ∨
      ∃ before, path.toList = before ++ ['/'] ∧
        (joinPath path name).toList = before ++ '/' :: name.toList := by
  have notRooted : startsWith "/" name = false := by
    apply Bool.eq_false_iff.mpr
    intro rooted
    exact noSlash ((List.isPrefixOf_iff_prefix.mp rooted).subset (by simp))
  by_cases ends : endsWith "/" path = true
  · obtain ⟨before, whole⟩ := List.isSuffixOf_iff_suffix.mp ends
    refine .inr ⟨before, whole.symm, ?_⟩
    rw [joinPath, notRooted, if_neg Bool.false_ne_true, ends, Bool.or_true, if_pos rfl,
      String.toList_append, ← whole, List.append_assoc]
    rfl
  · rw [Bool.not_eq_true] at ends
    refine .inl ?_
    simp [joinPath, notRooted, ends, nonempty]

/-- A text with a name put below it ends like the name. -/
theorem getLast?_joinPath (path : String) (isName : IsName name) :
    (joinPath path name).toList.getLast? = name.toList.getLast? := by
  have present : name.toList ≠ [] := fun empty => isName.nonempty (String.toList_inj.mp empty)
  by_cases empty : path = ""
  · have joined : joinPath "" name = text ([] ++ [name]) :=
      @joinPath_text [] name (fun _ member => nomatch member) isName.noSlash
    rw [empty, joined, List.nil_append, text_singleton]
  · rcases joinPath_of_noSlash empty isName.noSlash with joined | ⟨before, -, joined⟩ <;>
      rw [joined, List.getLast?_append, List.getLast?_cons_of_ne_nil present,
        List.getLast?_eq_some_getLast present, Option.some_or]

private theorem slashed_append (cs : List Char) (noBackslash : '\\' ∉ name.toList) :
    slashed (cs ++ '/' :: name.toList) = slashed cs ++ '/' :: name.toList := by
  have same : slashed name.toList = name.toList :=
    (List.map_congr_left fun c member => if_neg (ne_of_mem_of_not_mem member noBackslash)).trans
      (List.map_id _)
  rw [slashed, List.map_append, List.map_cons, ← slashed, ← slashed, same]
  rfl

/-- What follows a slash at the end of a text is a plain name. -/
private theorem IsPlain.unblank_slash (isPlain : IsPlain name) :
    ∀ c ∈ ('/' :: name.toList).getLast?, isBlank c = false := by
  have present : name.toList ≠ [] := fun empty =>
    isPlain.isName.nonempty (String.toList_inj.mp empty)
  rw [List.getLast?_cons_of_ne_nil present]
  exact isPlain.unblank

private theorem clean_append {cs : List Char} (nonempty : trimStart (slashed cs) ≠ [])
    (isPlain : IsPlain name) :
    clean (cs ++ '/' :: name.toList) = trimStart (slashed cs) ++ '/' :: name.toList := by
  change trim (slashed _) = _
  rw [slashed_append cs isPlain.isName.noBackslash]
  exact trim_append nonempty (List.cons_ne_nil _ _) isPlain.unblank_slash

/-- A text that does not end in a blank is what stands before the slash of a name below it. -/
private theorem exists_front (read : ofText? path = some names) (nonempty : path ≠ "")
    (unblank : ∀ c ∈ path.toList.getLast?, isBlank c = false) (isPlain : IsPlain name) :
    ∃ front, front ≠ [] ∧ front.head? ≠ some '/' ∧
      scan? (pieces '/' front) = some (names.map String.toList) ∧
        clean (joinPath path name).toList = front ++ '/' :: name.toList := by
  obtain ⟨relative, scanned, -⟩ := ofText?_eq_some_iff.mp read
  rcases joinPath_of_noSlash nonempty isPlain.isName.noSlash with joined | ⟨before, whole, joined⟩
  · have last := unblank_slashed unblank
    have cleaned : clean path.toList = trimStart (slashed path.toList) := trim_of_unblank last
    have kept : trimStart (slashed path.toList) ≠ [] := by
      intro none
      have present : slashed path.toList ≠ [] := by
        simpa [slashed] using fun empty => nonempty (String.toList_inj.mp empty)
      have blank := List.dropWhile_eq_nil_iff.mp none _ (List.getLast_mem present)
      rw [last _ (List.getLast?_eq_some_getLast present)] at blank
      cases blank
    rw [cleaned] at relative scanned
    exact ⟨_, kept, relative, scanned, joined ▸ clean_append kept isPlain⟩
  · have split : clean path.toList = trim (slashed before ++ ['/']) := by
      rw [whole, clean, List.map_append]
      rfl
    by_cases none : trimStart (slashed before) = []
    · rw [split, trim_blank_append _ none] at relative
      exact absurd rfl relative
    · have cleaned : clean path.toList = trimStart (slashed before) ++ ['/'] := by
        rw [split]
        refine trim_append none (List.cons_ne_nil _ _) ?_
        rintro c ⟨⟩
        rfl
      rw [cleaned, List.head?_append, List.head?_eq_some_head none, Option.some_or,
        ← List.head?_eq_some_head none] at relative
      rw [cleaned, pieces_append_sep, pieces, scan?_append_nil] at scanned
      exact ⟨_, none, relative, scanned, joined ▸ clean_append none isPlain⟩

/-- Below a text that does not end in a blank, a name is read below what the text is read as. -/
theorem ofText?_joinPath_of_unblank (read : ofText? path = some names)
    (unblank : ∀ c ∈ path.toList.getLast?, isBlank c = false)
    (child : ofText? (text (names ++ [name])) = some (names ++ [name])) :
    ofText? (joinPath path name) = some (names ++ [name]) := by
  have isPlain := isPlain_of_ofText? child
  by_cases empty : path = ""
  · have none : ofText? "" = some [] := by decide
    have root : names = [] := by
      rw [empty, none] at read
      exact (Option.some.inj read).symm
    have joined : joinPath "" name = text ([] ++ [name]) :=
      @joinPath_text [] name (fun _ member => nomatch member) isPlain.isName.noSlash
    rw [root] at child ⊢
    rw [empty, joined]
    exact child
  · obtain ⟨front, nonempty, relative, scanned, cleaned⟩ := exists_front read empty unblank isPlain
    rw [ofText?_of_front cleaned nonempty relative scanned isPlain.isName,
      (ofText?_text_iff.mp child).2.2, if_neg Bool.false_ne_true]

/-- A piece that ends in a blank is neither passed over, nor does it take a name back. -/
private theorem isKept_of_blank {piece : List Char} {c : Char} (last : piece.getLast? = some c)
    (blank : isBlank c = true) : IsKept piece := by
  refine ⟨?_, ?_, ?_⟩ <;>
  · rintro rfl
    cases last
    try cases blank

/-- What stands before the blanks at the end of a text is read like the text, and its last piece
takes the blanks when something follows. -/
private theorem exists_pieces_trimStart {cs : List Char} {c : Char}
    (last : cs.getLast? = some c) (blank : isBlank c = true) (nonempty : trimStart cs ≠ []) :
    ∃ before piece final, pieces '/' (trim cs) = before ++ [piece] ∧
      pieces '/' (trimStart cs) = before ++ [final] ∧ final.getLast? = some c ∧
        (trimStart cs).head? = (trim cs).head? := by
  obtain ⟨start, ending⟩ : ∃ start, trimStart cs = start ++ [c] := by
    obtain ⟨before, rfl⟩ := List.getLast?_eq_some_iff.mp last
    rw [trimStart, List.dropWhile_append] at nonempty ⊢
    split
    · next none =>
      rw [if_pos none] at nonempty
      simp [blank] at nonempty
    · exact ⟨_, rfl⟩
  obtain ⟨dropped, whole, blanks⟩ := exists_dropped isBlank start
  have trimmed : trim cs = dropEndWhile isBlank start := by
    rw [trim, ending, trimEnd, dropEndWhile_append_of_drop isBlank start blank]
  have absent : '/' ∉ dropped ++ [c] := by
    intro slash
    rcases List.mem_append.mp slash with inside | final
    · cases blanks _ inside
    · rw [← List.mem_singleton.mp final] at blank
      cases blank
  obtain ⟨before, piece, cut, longer⟩ := exists_pieces_append absent (trim cs)
  have split : trimStart cs = trim cs ++ (dropped ++ [c]) := by
    rw [trimmed, ← List.append_assoc, whole, ending]
  refine ⟨before, piece, _, cut, split ▸ longer, by simp, ?_⟩
  obtain ⟨d, ds, start⟩ := List.exists_cons_of_ne_nil nonempty
  have keep : isBlank d = false := by
    have first := List.head?_dropWhile_not isBlank cs
    rw [← trimStart, start] at first
    exact first
  rw [trim, start, trimEnd, dropEndWhile_cons_of_keep isBlank ds keep]
  rfl

/-- A text that ends in a blank is joined with a slash. -/
private theorem clean_joinPath {c : Char} (last : path.toList.getLast? = some c)
    (blank : isBlank c = true) (isPlain : IsPlain name) :
    clean (joinPath path name).toList = trim (slashed path.toList ++ '/' :: name.toList) := by
  have nonempty : path ≠ "" := by
    rintro rfl
    cases last
  rcases joinPath_of_noSlash nonempty isPlain.isName.noSlash with joined | ⟨before, whole, -⟩
  · rw [joined]
    exact congrArg trim (slashed_append _ isPlain.isName.noBackslash)
  · rw [whole, List.getLast?_concat] at last
    cases last
    cases blank

/-- Whether a path names a drive shows before the first slash. -/
private theorem namesDrive_child (nonempty : (text names).toList ≠ []) (name : String) :
    namesDrive (text (names ++ [name])).toList = namesDrive (text names).toList := by
  have proper : names ≠ [] := by
    rintro rfl
    exact nonempty rfl
  have written : (text (names ++ [name])).toList = (text names).toList ++ '/' :: name.toList := by
    rw [text_append_singleton proper]
    simp
  rw [written]
  cases drive : namesDrive (text names).toList with
  | false => exact namesDrive_append nonempty drive _
  | true =>
    unfold namesDrive at drive
    split at drive
    · next c cs chars =>
      rw [chars]
      rfl
    · cases drive

/-- Below a text that ends in a blank, either no name is read, or every name is read below a name
that ends in the blank. -/
theorem ofText?_joinPath_of_blank (read : ofText? path = some names) {c : Char}
    (last : path.toList.getLast? = some c) (blank : isBlank c = true) :
    (∀ name, IsPlain name → ofText? (joinPath path name) = none) ∨
      ∃ above final, final.toList.getLast? = some c ∧
        ∀ name, IsPlain name → ofText? (joinPath path name) = some (above ++ [final, name]) := by
  by_cases allBlank : trimStart (slashed path.toList) = []
  · refine .inl fun name isPlain => ?_
    have trimmed : trim ('/' :: name.toList) = '/' :: name.toList :=
      trim_eq_self_iff.mpr ⟨by rintro c ⟨⟩; rfl, isPlain.unblank_slash⟩
    simp [ofText?, clean_joinPath last blank isPlain, trim_blank_append _ allBlank, trimmed]
  · obtain ⟨relative, scanned, -⟩ := ofText?_eq_some_iff.mp read
    have lastSlashed : (slashed path.toList).getLast? = some c := by
      rw [slashed, List.getLast?_map, last, Option.map_some, if_neg]
      rintro rfl
      cases blank
    obtain ⟨before, piece, final, cut, longer, ends, start⟩ :=
      exists_pieces_trimStart lastSlashed blank allBlank
    change (trim (slashed path.toList)).head? ≠ _ at relative
    change scan? (pieces '/' (trim (slashed path.toList))) = _ at scanned
    rw [cut] at scanned
    obtain ⟨kept, first⟩ := exists_scan?_of_append scanned
    -- With a name below, the last piece keeps its blank and becomes a name of its own.
    let base : TemplatePath := kept.map String.ofList ++ [String.ofList final]
    have written : kept ++ [final] = base.map String.toList := by
      simp [base, Function.comp_def]
    have nonempty : (text base).toList ≠ [] := by
      have inside : c ∈ joinWith ['/'] (kept ++ [final]) :=
        mem_joinWith_of_mem (List.mem_append_right kept List.mem_cons_self)
          (List.mem_of_getLast? ends)
      rw [toList_text, ← written]
      exact List.ne_nil_of_mem inside
    have child (name : String) (isPlain : IsPlain name) : ofText? (joinPath path name) =
        if namesDrive (text base).toList then none else some (base ++ [name]) := by
      rw [← namesDrive_child nonempty name]
      refine ofText?_of_front ?_ allBlank (start ▸ relative) ?_ isPlain.isName
      · rw [clean_joinPath last blank isPlain,
          trim_append allBlank (List.cons_ne_nil _ _) isPlain.unblank_slash]
      · rw [longer, scan?_append_singleton first (isKept_of_blank ends blank), written]
    cases drive : namesDrive (text base).toList with
    | true => exact .inl fun name isPlain => by rw [child name isPlain, drive, if_pos rfl]
    | false =>
      refine .inr ⟨kept.map String.ofList, String.ofList final, by rwa [String.toList_ofList],
        fun name isPlain => ?_⟩
      rw [child name isPlain, drive, if_neg Bool.false_ne_true]
      simp [base]

section Joined

/-- The pieces of a text, where the last one keeps the blanks at its end. -/
private def openPieces (cs : List Char) : List (List Char) := pieces '/' (trimStart (slashed cs))

private theorem openPieces_slash (cs : List Char) (noSlash : '/' ∉ name.toList)
    (noBackslash : '\\' ∉ name.toList) :
    openPieces (cs ++ '/' :: name.toList) = openPieces cs ++ [name.toList] := by
  have started : trimStart (slashed cs ++ '/' :: name.toList) =
      trimStart (slashed cs) ++ '/' :: name.toList := by
    rw [trimStart, List.dropWhile_append]
    split
    · next none =>
      rw [trimStart, List.isEmpty_iff.mp none]
      rfl
    · rfl
  rw [openPieces, slashed_append cs noBackslash, started, pieces_append_sep,
    pieces_of_not_mem noSlash]
  rfl

private theorem joinPath_ne_empty (path : String) (isName : IsName name) :
    joinPath path name ≠ "" := by
  intro empty
  have last := getLast?_joinPath path isName
  rw [empty] at last
  exact isName.nonempty (String.toList_inj.mp (List.getLast?_eq_none_iff.mp last.symm))

/-- Names that are put below a text are the last of its pieces. -/
private theorem exists_openPieces (nonempty : path ≠ "") (isName : ∀ name ∈ names, IsName name) :
    names.foldl joinPath path ≠ "" ∧ ∃ front,
      openPieces (names.foldl joinPath path).toList = front ++ names.map String.toList := by
  induction names using List.reverseRecOn with
  | nil => exact ⟨nonempty, _, (List.append_nil _).symm⟩
  | append_singleton names name ih =>
    obtain ⟨before, last⟩ := List.forall_mem_append.mp isName
    replace last := last name List.mem_cons_self
    obtain ⟨present, front, cut⟩ := ih before
    rw [List.foldl_append, List.foldl_cons, List.foldl_nil, List.map_append]
    refine ⟨joinPath_ne_empty _ last, ?_⟩
    rcases joinPath_of_noSlash present last.noSlash with joined | ⟨start, whole, joined⟩
    · rw [joined, openPieces_slash _ last.noSlash last.noBackslash, cut, List.append_assoc]
      exact ⟨front, rfl⟩
    · -- Only the text itself may end in a slash, for no name is empty.
      have ended : openPieces (start ++ ['/']) = openPieces start ++ [[]] :=
        @openPieces_slash "" start (by simp) (by simp)
      rw [whole, ended] at cut
      rw [joined, openPieces_slash _ last.noSlash last.noBackslash]
      rcases List.eq_nil_or_concat names with rfl | ⟨others, other, rfl⟩
      · exact ⟨openPieces start, rfl⟩
      · rw [List.map_concat, List.concat_eq_append, ← List.append_assoc] at cut
        have empty : [] = other.toList := (List.append_singleton_inj.mp cut).2
        exact absurd empty.symm (isKept_toList (before other (by simp))).1

private theorem foldlM_of_isKept {pieces kept : List (List Char)}
    (keep : ∀ piece ∈ pieces, IsKept piece) :
    pieces.foldlM scanPiece? kept = some (pieces.reverse ++ kept) := by
  induction pieces generalizing kept with
  | nil => rfl
  | cons piece pieces ih =>
    obtain ⟨first, later⟩ := List.forall_mem_cons.mp keep
    rw [List.foldlM_cons, scanPiece?_of_isKept first, Option.bind_eq_bind, Option.bind_some,
      ih later]
    simp

/-- One piece takes back one name at most. -/
private theorem length_le_of_scanPiece? {kept next : List (List Char)} {piece : List Char}
    (scanned : scanPiece? kept piece = some next) : kept.length ≤ next.length + 1 := by
  unfold scanPiece? at scanned
  split at scanned
  · cases scanned
    exact Nat.le_succ _
  split at scanned
  · split at scanned
    · cases scanned
    · cases scanned
      exact Nat.le_refl _
  · cases scanned
    exact Nat.le_add_right _ 2

/-- The last piece loses the blanks at its end and may take a name back; the names before it are
read. -/
private theorem length_le_of_openPieces {front kept : List (List Char)} {last : List Char}
    (read : ofText? path = some names) (cut : openPieces path.toList = front ++ kept ++ [last])
    (keep : ∀ piece ∈ kept, IsKept piece) : kept.length ≤ names.length + 1 := by
  obtain ⟨-, scanned, -⟩ := ofText?_eq_some_iff.mp read
  obtain ⟨dropped, whole, blanks⟩ := exists_dropped isBlank (trimStart (slashed path.toList))
  have noSlash : '/' ∉ dropped := fun inside => by cases blanks _ inside
  obtain ⟨before, piece, here, longer⟩ := exists_pieces_append noSlash (clean path.toList)
  have same : before ++ [piece ++ dropped] = front ++ kept ++ [last] := by
    rw [← longer, ← cut, openPieces, ← whole]
    rfl
  obtain ⟨rfl, -⟩ := List.append_singleton_inj.mp same
  rw [here] at scanned
  obtain ⟨all, folded, reversed⟩ := Option.map_eq_some_iff.mp scanned
  simp only [List.foldlM_append, Option.bind_eq_bind, Option.bind_eq_some_iff] at folded
  obtain ⟨state, ⟨start, -, passed⟩, final⟩ := folded
  rw [foldlM_of_isKept keep] at passed
  cases passed
  simp only [List.foldlM_cons, List.foldlM_nil, Option.bind_eq_bind, Option.bind_eq_some_iff]
    at final
  obtain ⟨next, step, ended⟩ := final
  cases ended
  have shorter := length_le_of_scanPiece? step
  have lengths := congrArg List.length reversed
  simp only [List.length_append, List.length_reverse, List.length_map] at shorter lengths
  omega

/-- Of the names that are put below a text, reading loses three at most: a first one that is a dot
without the blanks in front of it, and two where the last one is double dots without the blanks
behind it. -/
theorem length_le_of_joined {found : TemplatePath} (isName : ∀ name ∈ names, IsName name)
    (read : ofText? (names.foldl joinPath path) = some found) :
    names.length ≤ found.length + 3 := by
  cases names with
  | nil => exact Nat.zero_le _
  | cons name names =>
    obtain ⟨first, later⟩ := List.forall_mem_cons.mp isName
    obtain ⟨-, front, cut⟩ := exists_openPieces (joinPath_ne_empty path first) later
    rcases List.eq_nil_or_concat names with rfl | ⟨names, last, rfl⟩
    · exact Nat.le_add_left _ _
    · rw [List.concat_eq_append] at read cut later ⊢
      rw [List.map_append, ← List.append_assoc] at cut
      have keep : ∀ piece ∈ names.map String.toList, IsKept piece :=
        List.forall_mem_map.mpr fun name member => isKept_toList (later name (by simp [member]))
      have bound := length_le_of_openPieces read cut keep
      simp only [List.length_map] at bound
      simp only [List.length_cons, List.length_append, List.length_nil]
      omega

end Joined

end TemplatePath

end EditorPlugins
