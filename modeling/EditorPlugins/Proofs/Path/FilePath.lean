import EditorPlugins.Path.FilePath
import EditorPlugins.Proofs.Path.Child

/-! # Path texts that say what they mean

A path text may have slashes and dots that mean nothing. Texts without them lead to different places
whenever they are different, and they stay so when they are put one below the other.
-/

namespace EditorPlugins.FilePath

open Text

/-- A path text all of whose pieces are names. -/
def IsTidy (text : String) : Prop := ∀ piece ∈ pieces '/' text.toList, isName piece = true

instance (text : String) : Decidable (IsTidy text) :=
  inferInstanceAs (Decidable (∀ piece ∈ pieces '/' text.toList, isName piece = true))

theorem IsTidy.names_eq {text : String} (tidy : IsTidy text) :
    (ofText text).names = (pieces '/' text.toList).map String.ofList := by
  rw [ofText, List.filter_eq_self.mpr tidy]

/-- Tidy texts with the same names are the same. -/
theorem IsTidy.eq_of_names_eq {text other : String} (tidy : IsTidy text) (also : IsTidy other)
    (same : (ofText text).names = (ofText other).names) : text = other := by
  rw [tidy.names_eq, also.names_eq] at same
  have cut := congrArg (List.map String.toList) same
  simp only [List.map_map, Function.comp_def, String.toList_ofList, List.map_id'] at cut
  apply String.toList_inj.mp
  rw [← joinWith_pieces '/' text.toList, cut, joinWith_pieces]

/-- A tidy text below another one makes a tidy text. -/
theorem IsTidy.append {above below : String} (tidy : IsTidy above) (also : IsTidy below) :
    IsTidy (above ++ "/" ++ below) := by
  have written : (above ++ "/" ++ below).toList = above.toList ++ '/' :: below.toList := by simp
  intro piece member
  rw [written, pieces_append_sep, List.mem_append] at member
  exact member.elim (tidy piece) (also piece)

/-- A name without slashes is tidy. -/
theorem isTidy_of_noSlash {name : String} (noSlash : '/' ∉ name.toList) (nonempty : name ≠ "")
    (notDot : name ≠ ".") : IsTidy name := by
  intro piece member
  rw [pieces_of_not_mem noSlash, List.mem_singleton] at member
  rw [member, isName]
  simp only [Bool.not_eq_true', Bool.or_eq_false_iff, List.isEmpty_eq_false_iff,
    decide_eq_false_iff_not]
  exact ⟨fun empty => nonempty (String.toList_inj.mp empty),
    fun dot => notDot (String.toList_inj.mp dot)⟩

private theorem startsWith_slash_iff {path : String} :
    startsWith "/" path = true ↔ path.toList.head? = some '/' := by
  rw [startsWith]
  cases path.toList with
  | nil => simp
  | cons c cs =>
    simp only [String.reduceToList, List.isPrefixOf, Bool.and_true, beq_iff_eq, List.head?_cons,
      Option.some.injEq]
    exact eq_comm

/-- A text has a root when it starts with a slash. -/
theorem rootOf_eq_empty_iff {cs : List Char} : rootOf cs = "" ↔ cs.head? ≠ some '/' := by
  cases cs with
  | nil => exact iff_of_true rfl (by simp)
  | cons c cs =>
    rw [rootOf]
    by_cases slash : c = '/'
    · rw [slash, List.takeWhile_cons_of_pos (by rfl), List.length_cons]
      refine iff_of_false (fun empty => ?_) (by simp)
      split at empty
      · next none => cases none
      · exact absurd empty (by simp)
      · exact absurd empty (by simp)
    · rw [List.takeWhile_cons_of_neg (by simpa using slash)]
      exact iff_of_true rfl (by simpa using slash)

theorem head?_rootOf {cs : List Char} (rooted : cs.head? = some '/') :
    (rootOf cs).toList.head? = some '/' := by
  have root := mt rootOf_eq_empty_iff.mp (not_not_intro rooted)
  unfold rootOf at root ⊢
  split at root
  · exact absurd rfl root
  · rfl
  · rfl

/-- A path text is relative unless it starts with a slash. -/
theorem root_ofText_eq_empty_iff {path : String} :
    (ofText path).root = "" ↔ path.toList.head? ≠ some '/' :=
  rootOf_eq_empty_iff

section Safe

variable {path : String} (safe : isSafeRelative path = true)

include safe

/-- A safe path is relative. -/
theorem root_ofText_of_safe : (ofText path).root = "" :=
  root_ofText_eq_empty_iff.mpr (isSafeRelative_iff.mp safe).2.2.1

/-- A safe path does not go up. -/
theorem notDots_of_safe : ".." ∉ (ofText path).names := by
  intro member
  obtain ⟨piece, inside, same⟩ := List.mem_map.mp member
  have dots : piece = ['.', '.'] := by
    rw [← String.toList_ofList (l := piece), same]
    rfl
  rw [dots] at inside
  exact (isSafeRelative_iff.mp safe).2.2.2.2 (List.mem_filter.mp inside).1

end Safe

section Within

/-- A path text that is a root, or goes on behind it with a slash. -/
def IsWithin (root : FilePath) (path : String) : Prop :=
  path = root.text ∨ startsWith (root.text ++ "/") path = true

theorem isWithin_iff {root : FilePath} {path : String} : IsWithin root path ↔
    path.toList = root.text.toList ∨ root.text.toList ++ ['/'] <+: path.toList := by
  rw [IsWithin, startsWith, List.isPrefixOf_iff_prefix, String.toList_append, String.toList_inj]
  rfl

private theorem text_of_names (root : String) {names : List String} (nonempty : names ≠ []) :
    (⟨root, names⟩ : FilePath).text = root ++ TemplatePath.text names := by
  simp [text, nonempty, TemplatePath.text]

/-- The names of a path text make a tidy text. -/
theorem isTidy_text_names {path : String} (nonempty : (ofText path).names ≠ []) :
    IsTidy (TemplatePath.text (ofText path).names) := by
  have plain : ∀ name ∈ (ofText path).names, '/' ∉ name.toList ∧ isName name.toList = true := by
    intro name member
    obtain ⟨piece, kept, rfl⟩ := List.mem_map.mp member
    rw [String.toList_ofList]
    exact ⟨not_mem_of_mem_pieces (List.mem_filter.mp kept).1, (List.mem_filter.mp kept).2⟩
  intro piece member
  rw [TemplatePath.pieces_text nonempty fun name inside => (plain name inside).1] at member
  obtain ⟨name, inside, rfl⟩ := List.mem_map.mp member
  exact (plain name inside).2

/-- A tidy text does not start with a piece that is no name. -/
theorem IsTidy.not_start {path : String} (tidy : IsTidy path) (start : List Char)
    (noName : isName start = false) (noSlash : '/' ∉ start) :
    ¬ (path.toList = start ∨ start ++ ['/'] <+: path.toList) := by
  have first : start ∉ pieces '/' path.toList := fun member =>
    Bool.false_ne_true (noName.symm.trans (tidy start member))
  rintro (same | ⟨rest, same⟩)
  · rw [same, pieces_of_not_mem noSlash] at first
    exact first List.mem_cons_self
  · rw [← same, List.append_assoc, List.singleton_append, pieces_append _ noSlash] at first
    exact first List.mem_cons_self

/-- Names below a root without names are not behind it with a slash between. -/
private theorem not_isWithin_of_bare (root : String) {path : String}
    (nonempty : (ofText path).names ≠ []) :
    ¬ IsWithin ⟨root, []⟩ (⟨root, (ofText path).names⟩ : FilePath).text := by
  have tidy := isTidy_text_names nonempty
  rw [isWithin_iff, text_of_names root nonempty]
  by_cases bare : root = ""
  · subst bare
    simpa [text] using tidy.not_start ['.'] rfl (by decide)
  · have start : (⟨root, []⟩ : FilePath).text = root := by simp [text, bare, Text.join, joinWith]
    have apart := tidy.not_start [] rfl List.not_mem_nil
    rw [start, String.toList_append, List.append_right_eq_self, List.prefix_append_right_inj]
    exact apart

/-- Whether a path text leads within a root that it is joined to. A text that starts with a slash
leads where it says by itself; behind a root without names, every name goes without a slash. -/
def LeadsWithin (root : FilePath) (path : String) : Prop :=
  if startsWith "/" path then IsWithin root (ofText path).text
  else root.names = [] → (ofText path).names = []

theorem isWithin_child_iff {root : FilePath} {path : String} :
    IsWithin root (root.child path).text ↔ LeadsWithin root path := by
  rw [child, append, LeadsWithin]
  by_cases absolute : path.toList.head? = some '/'
  case pos =>
    rw [if_neg (mt root_ofText_eq_empty_iff.mp (not_not_intro absolute)),
      if_pos (startsWith_slash_iff.mpr absolute)]
  rw [if_pos (root_ofText_eq_empty_iff.mpr absolute), if_neg (mt startsWith_slash_iff.mp absolute)]
  rcases root with ⟨root, names⟩
  by_cases nothing : (ofText path).names = []
  · rw [nothing, List.append_nil]
    exact iff_of_true (.inl rfl) fun _ => rfl
  cases names with
  | nil => exact iff_of_false (not_isWithin_of_bare root nothing) fun stays => nothing (stays rfl)
  | cons name names =>
    refine iff_of_true (isWithin_iff.mpr (.inr ?_)) fun bare => absurd bare (List.cons_ne_nil _ _)
    have proper : name :: names ≠ [] := List.cons_ne_nil _ _
    have longer : name :: names ++ (ofText path).names ≠ [] := List.cons_ne_nil _ _
    refine ⟨(TemplatePath.text (ofText path).names).toList, ?_⟩
    rw [text_of_names root proper, text_of_names root longer]
    simp only [String.toList_append, TemplatePath.toList_text, List.append_assoc]
    rw [List.map_append, joinWith_append _ (by simp) (by simpa using nothing), List.append_assoc]

end Within

end EditorPlugins.FilePath
