import EditorPlugins.Compose.Composition
import EditorPlugins.Proofs.Text.Pieces
import EditorPlugins.Proofs.Text.Trim
import EditorPlugins.Proofs.Traced
import EditorPlugins.Template.Snapshot

/-! # Bodies of orders behind each other

A body is composed from its sections one by one, so what two orders compose behind each other follows
from what each of them composes. The first one fails first. Where both have text, an empty line
stands between the two, and where one has none, the other stands alone. Whatever line endings the
files and the values bring, a body ends with a single feed.
-/

namespace EditorPlugins.Compose

open Template Text Traced

/-- Two bodies behind each other; a body that is a feed alone has no text. -/
def joinBodies (first second : String) : String :=
  if first = "\n" then second
  else if second = "\n" then first
  else String.ofList (first.toList.dropLast ++ ['\n', '\n'] ++ second.toList)

/-- The body of an artifact, with some sections in the place of its own. -/
def bodyOf (source : Source) (artifact : Composable) (target : String) (extra : Variables)
    (sections : List String) : Except Error String :=
  (composeArtifact source { artifact with sections := sections } target extra).outcome

/-- A body ends with a single feed: it is one, or something else stands in front of it. -/
def EndsOnce (body : String) : Prop :=
  body = "\n" ∨ ∃ before c, isNewline c = false ∧ body.toList = before ++ [c, '\n']

def writtenTexts (sections : List (Option (List Char))) : List (List Char) :=
  (sections.filterMap id).filter fun text => !text.isEmpty

section Sections

variable {sections : List (Option (List Char))}

private theorem toList_joinSections (sections : List (Option (List Char))) :
    (joinSections sections).toList = joinWith ['\n', '\n'] (writtenTexts sections) ++ ['\n'] := by
  simp [joinSections, writtenTexts]

private theorem writtenTexts_append (first second : List (Option (List Char))) :
    writtenTexts (first ++ second) = writtenTexts first ++ writtenTexts second := by
  simp [writtenTexts]

private theorem ne_nil_of_mem_writtenTexts {text : List Char}
    (member : text ∈ writtenTexts sections) :
    text ≠ [] := by
  simpa using (List.mem_filter.mp member).2

/-- A body is a feed alone when no section has text. -/
theorem joinSections_eq_feed_iff : joinSections sections = "\n" ↔ writtenTexts sections = [] := by
  rw [← String.toList_inj, toList_joinSections]
  change _ = ['\n'] ↔ _
  constructor
  · intro same
    have bare : joinWith ['\n', '\n'] (writtenTexts sections) = [] := by simpa using same
    refine List.eq_nil_iff_forall_not_mem.mpr fun text member => ?_
    obtain ⟨c, cs, rfl⟩ := List.exists_cons_of_ne_nil (ne_nil_of_mem_writtenTexts member)
    have inside : c ∈ joinWith ['\n', '\n'] (writtenTexts sections) :=
      mem_joinWith_of_mem member List.mem_cons_self
    rw [bare] at inside
    cases inside
  · intro none
    rw [none]
    rfl

/-- The body of two lists of sections is that of the second one behind that of the first one. -/
theorem joinSections_append (first second : List (Option (List Char))) :
    joinSections (first ++ second) = joinBodies (joinSections first) (joinSections second) := by
  unfold joinBodies
  split
  · next none =>
    rw [joinSections_eq_feed_iff] at none
    rw [← String.toList_inj, toList_joinSections, toList_joinSections, writtenTexts_append, none,
      List.nil_append]
  · next some =>
    split
    · next none =>
      rw [joinSections_eq_feed_iff] at none
      rw [← String.toList_inj, toList_joinSections, toList_joinSections, writtenTexts_append, none,
        List.append_nil]
    · next also =>
      rw [joinSections_eq_feed_iff] at some also
      rw [← String.toList_inj, String.toList_ofList, toList_joinSections, toList_joinSections,
        toList_joinSections, writtenTexts_append, joinWith_append _ some also, List.dropLast_concat,
        List.append_assoc]

/-- A body of sections that do not end with a line ending ends with a single feed. -/
theorem endsOnce_joinSections
    (unbroken : ∀ text, some text ∈ sections → ∀ c ∈ text.getLast?, isNewline c = false) :
    EndsOnce (joinSections sections) := by
  by_cases none : writtenTexts sections = []
  · exact .inl (joinSections_eq_feed_iff.mpr none)
  · right
    obtain ⟨texts, text, split⟩ := (List.eq_nil_or_concat (writtenTexts sections)).resolve_left none
    rw [List.concat_eq_append] at split
    have member : text ∈ writtenTexts sections := by simp [split]
    have last := List.getLast?_eq_some_getLast (ne_nil_of_mem_writtenTexts member)
    have present : some text ∈ sections := by
      simpa using (List.mem_filter.mp member).1
    have ends := getLast?_joinWith_of_concat ['\n', '\n'] texts last
    obtain ⟨before, whole⟩ := List.getLast?_eq_some_iff.mp ends
    refine ⟨before, _, unbroken text present _ last, ?_⟩
    rw [toList_joinSections, split, whole, List.append_assoc]
    rfl

end Sections

section Body

variable {source : Source} {artifact : Composable} {target : String} {extra : Variables}

/-- A section never ends with a line ending, whether its file brings it or a value. -/
theorem unbroken_of_sectionAt {path entry : String} {bindings : Variables} {text : List Char}
    (read : (sectionAt source path target bindings entry).outcome = .ok (some text)) :
    ∀ c ∈ text.getLast?, isNewline c = false := by
  rw [sectionAt, bind_eq_ok_iff] at read
  obtain ⟨content, -, read⟩ := read
  cases content with
  | some content =>
    cases read
    exact keep_of_getLast?_dropEndWhile
  | none =>
    simp only at read
    split at read
    · obtain ⟨-, -, last⟩ := bind_eq_ok_iff.mp read
      cases last
    · cases read

/-- A body is joined from the outcomes of its sections. -/
theorem bodyOf_eq (source : Source) (artifact : Composable) (target : String) (extra : Variables)
    (sections : List String) : bodyOf source artifact target extra sections =
      (sections.mapM fun entry => (sectionAt source artifact.path target
        (Entries.update (artifact.variablesFor target) extra) entry).outcome).map joinSections := by
  rw [bodyOf, composeArtifact, outcome_bind, outcome_mapM]
  rfl

private theorem bodyOf_append (xs ys : List String) :
    bodyOf source artifact target extra (xs ++ ys) =
    (bodyOf source artifact target extra xs).bind fun first =>
      (bodyOf source artifact target extra ys).map (joinBodies first) := by
  rw [bodyOf_eq, bodyOf_eq, bodyOf_eq, List.mapM_append]
  generalize (xs.mapM _ : Except Error _) = first
  generalize (ys.mapM _ : Except Error _) = second
  cases first with
  | error error => rfl
  | ok first =>
    cases second with
    | error error => rfl
    | ok second => exact congrArg Except.ok (joinSections_append first second)

theorem endsOnce_bodyOf {sections : List String} {body : String}
    (composed : bodyOf source artifact target extra sections = .ok body) : EndsOnce body := by
  rw [bodyOf_eq, Outcome.map_eq_ok_iff] at composed
  obtain ⟨texts, ran, rfl⟩ := composed
  refine endsOnce_joinSections fun text member => ?_
  obtain ⟨entry, -, read⟩ := Outcome.exists_of_mem_mapM ran member
  exact unbroken_of_sectionAt read

end Body

/-- Orders behind each other compose their bodies behind each other, and fail where the first of them
fails; and whatever is composed ends with a single feed. -/
theorem bodies_compose (source : Source) (artifact : Composable) (target : String)
    (extra : Variables) (xs ys : List String) :
    (∀ error, bodyOf source artifact target extra (xs ++ ys) = .error error ↔
      bodyOf source artifact target extra xs = .error error ∨
        (∃ first, bodyOf source artifact target extra xs = .ok first) ∧
          bodyOf source artifact target extra ys = .error error) ∧
    (∀ first second, bodyOf source artifact target extra xs = .ok first →
      bodyOf source artifact target extra ys = .ok second →
        bodyOf source artifact target extra (xs ++ ys) = .ok (joinBodies first second)) ∧
    ∀ sections body, bodyOf source artifact target extra sections = .ok body → EndsOnce body := by
  refine ⟨fun error => ?_, fun first second here there => ?_, fun _ _ => endsOnce_bodyOf⟩
  · rw [bodyOf_append]
    cases bodyOf source artifact target extra xs with
    | error cause => simp [Except.bind]
    | ok first =>
      cases bodyOf source artifact target extra ys <;> simp [Except.bind, Except.map]
  · rw [bodyOf_append, here, there]
    rfl

/-- A snapshot of sections that end in several ways, one of which has no text but what a value
brings. -/
def digestSnapshot : Snapshot where
  files :=
    [(["digest", "aim.md"], Utf8.encode "Read \x7bwhat\x7d.\r\n\n"),
      (["digest", "notes.md"], Utf8.encode "\x7bnotes\x7d\n"),
      (["digest", "close.md"], Utf8.encode "Done.")]

/-- An artifact whose notes are an empty line for one target. -/
def digest : Composable := ⟨"digest", [], [("cursor", [("what", "all"), ("notes", "\n")])]⟩

/-- What some sections of the artifact compose. -/
def digestOf (sections : List String) : Except Error String :=
  bodyOf (digestSnapshot.source ⟨"/", []⟩) digest "cursor" [] sections

theorem digest_bodies : digestOf ["aim.md", "\x7btool\x7d.md"] = .ok "Read all.\n" ∧
    digestOf ["notes.md", "close.md"] = .ok "Done.\n" ∧
    digestOf ["aim.md", "\x7btool\x7d.md", "notes.md", "close.md"] =
      .ok "Read all.\n\nDone.\n" :=
  have first : digestOf ["aim.md", "\x7btool\x7d.md"] = .ok "Read all.\n" := by rfl
  have second : digestOf ["notes.md", "close.md"] = .ok "Done.\n" := by rfl
  ⟨first, second, (bodies_compose _ digest "cursor" [] _ _).2.1 _ _ first second⟩

end EditorPlugins.Compose
