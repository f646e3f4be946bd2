import EditorPlugins.Compose.Metadata
import EditorPlugins.Proofs.Frontmatter.Overlong
import EditorPlugins.Proofs.Path.TemplatePath
import EditorPlugins.Proofs.Template.Source
import EditorPlugins.Proofs.Text.Replace

/-! # Sections stay inside their directory

An entry of an order is checked with one name in the place of the target's, and what the check finds
holds for the names of all targets: the entry leads to its directory or to something below it.
-/

namespace EditorPlugins.Compose

open Template Text

/-- The name of a target, whose characters mean nothing in a path: letters, digits and hyphens of
every script, but no slashes, dots or blanks. -/
structure IsTargetName (target : String) : Prop where
  nonempty : target ≠ ""
  plain : ∀ c ∈ target.toList, c ≠ '/' ∧ c ≠ '\\' ∧ c ≠ '.' ∧ isBlank c = false

/-- An entry that reading an order keeps. -/
structure IsEntry (entry : String) : Prop where
  trimmed : trim entry.toList = entry.toList
  leads : isSection entry = true

private theorem targetMark_ne_nil : targetMark ≠ [] := by decide

section Entry

variable {entry target : String}

/-- An entry with a name in the place of the target's: the parts around the placeholder stay. -/
private theorem exists_target_parts (entry : String) : ∃ part parts,
    entry.toList = joinWith targetMark (part :: parts) ∧
      ∀ name, (withTarget entry name).toList = joinWith name.toList (part :: parts) := by
  obtain ⟨parts, some, whole, replaced⟩ := exists_parts targetMark_ne_nil entry.toList
  obtain ⟨part, parts, rfl⟩ := List.exists_cons_of_ne_nil some
  exact ⟨part, parts, whole, fun name => by rw [withTarget, String.toList_ofList, replaced]⟩

/-- The pieces of an entry take the name of the target on their own. -/
private theorem pieces_withTarget {name : String} (noSlash : '/' ∉ name.toList) :
    pieces '/' (withTarget entry name).toList =
      (pieces '/' entry.toList).map (replaceAll targetMark name.toList) := by
  rw [withTarget, String.toList_ofList, pieces_replaceAll targetMark_ne_nil (by decide) noSlash]

/-- Letters, digits and hyphens are nothing else in a path. -/
theorem IsTargetName.of_isAlphanum (nonempty : target ≠ "")
    (plain : target.toList.all (fun c => c.isAlphanum || c == '-') = true) :
    IsTargetName target := by
  refine ⟨nonempty, fun c member => ?_⟩
  have allowed := List.all_eq_true.mp plain c member
  rw [Bool.or_eq_true, beq_iff_eq] at allowed
  rcases allowed with letter | rfl
  · have differs {other : Char} (mark : other.isAlphanum = false) : c ≠ other := by
      rintro rfl
      cases letter.symm.trans mark
    refine ⟨differs rfl, differs rfl, differs rfl, ?_⟩
    have code : (decide (65 ≤ c.val ∧ c.val ≤ 90) || decide (97 ≤ c.val) && decide (c.val ≤ 122) ||
        decide (48 ≤ c.val) && decide (c.val ≤ 57)) = true := letter
    simp only [Bool.or_eq_true, Bool.and_eq_true, decide_eq_true_eq, UInt32.le_iff_toNat_le,
      UInt32.reduceToNat, Char.toNat_val] at code
    simp only [isBlank, Bool.or_eq_false_iff, Bool.and_eq_false_iff, decide_eq_false_iff_not,
      beq_eq_false_iff_ne]
    omega
  · decide

theorem IsTargetName.toList_ne_nil (isTarget : IsTargetName target) : target.toList ≠ [] :=
  fun empty => isTarget.nonempty (String.toList_inj.mp empty)

/-- A piece with double dots has them whatever the target's name is, for no dot is part of it. -/
private theorem noDots_withTarget (isTarget : IsTargetName target)
    (noDots : ['.', '.'] ∉ pieces '/' (withTarget entry "tool").toList) :
    ['.', '.'] ∉ pieces '/' (withTarget entry target).toList := by
  rw [pieces_withTarget (by decide)] at noDots
  rw [pieces_withTarget fun slash => (isTarget.plain _ slash).1 rfl]
  intro member
  obtain ⟨piece, present, climbs⟩ := List.mem_map.mp member
  refine noDots (List.mem_map.mpr ⟨piece, present, ?_⟩)
  obtain ⟨parts, some, -, replaced⟩ := exists_parts targetMark_ne_nil piece
  obtain ⟨part, parts, rfl⟩ := List.exists_cons_of_ne_nil some
  rw [replaced] at climbs ⊢
  by_cases alone : parts = []
  · rw [alone] at climbs ⊢
    exact climbs
  · obtain ⟨c, cs, chars⟩ := List.exists_cons_of_ne_nil isTarget.toList_ne_nil
    have inside : c ∈ joinWith target.toList (part :: parts) := by
      simp [joinWith_cons _ _ alone, chars]
    rw [climbs] at inside
    have dot : c = '.' := by simpa using inside
    exact absurd dot (isTarget.plain c (by simp [chars])).2.2.1

/-- Putting a name in the place of the target's leaves a path inside its directory. -/
theorem IsEntry.isInside (isEntry : IsEntry entry) (isTarget : IsTargetName target) :
    TemplatePath.IsInside (withTarget entry target) := by
  obtain ⟨part, parts, whole, replaced⟩ := exists_target_parts entry
  have leads := isEntry.leads
  simp only [isSection, Bool.and_eq_true, decide_eq_true_eq, isSafeRelative_iff] at leads
  obtain ⟨nonempty, -, noBackslash, relative, -, noDots⟩ := leads
  rw [replaced] at noBackslash relative
  constructor
  case relative =>
    rw [replaced]
    intro slash
    rcases head?_joinWith_cons _ _ _ slash isTarget.toList_ne_nil with first | inside
    · refine relative ?_
      cases parts <;> simp [joinWith, first]
    · exact (isTarget.plain _ inside).1 rfl
  case noBackslash =>
    rw [replaced]
    intro inside
    rcases mem_joinWith inside with between | ⟨text, member, found⟩
    · exact (isTarget.plain _ between).2.1 rfl
    · exact noBackslash (mem_joinWith_of_mem member found)
  case noDots => exact noDots_withTarget isTarget noDots
  case unblank =>
    obtain ⟨init, last, split⟩ :=
      (List.eq_nil_or_concat (part :: parts)).resolve_left (List.cons_ne_nil _ _)
    rw [List.concat_eq_append] at split
    rw [split] at whole replaced
    rw [replaced]
    intro c ends
    rcases getLast?_joinWith_concat _ _ ends isTarget.toList_ne_nil with own | inside
    · refine (trim_eq_self_iff.mp isEntry.trimmed).2 c ?_
      rw [whole]
      exact getLast?_joinWith_of_concat _ _ own
    · exact (isTarget.plain c inside).2.2.2
  case nonempty =>
    intro empty
    rw [← String.toList_inj, replaced, String.toList_empty] at empty
    by_cases alone : parts = []
    · rw [alone] at whole empty
      exact nonempty (String.toList_inj.mp (whole.trans empty))
    · rw [joinWith_cons _ _ alone] at empty
      exact isTarget.toList_ne_nil
        (List.append_eq_nil_iff.mp (List.append_eq_nil_iff.mp empty).1).2

end Entry

/-- What reading an order keeps of some texts: those that lead to sections, without the blanks
around them. -/
def sectionsAmong (texts : List String) : List String :=
  (texts.map fun text => String.ofList (trim text.toList)).filter isSection

private theorem outcome_keepEntry (raw : String) :
    (keepEntry raw).outcome = .ok (Option.guard isSection (String.ofList (trim raw.toList))) := by
  by_cases leads : isSection (String.ofList (trim raw.toList)) = true
  · simp [keepEntry, Option.guard, leads]
  · simp [keepEntry, Option.guard, leads, Except.map]

/-- An order gives the sections among the entries that are written for it. -/
theorem outcome_readOrder {text : String} {data : Mapping}
    (read : Frontmatter.read .metadata text = .ok data) :
    (readOrder text).outcome =
      .ok (sectionsAmong ((writtenEntries? (Mapping.field? data "sections")).getD [])) := by
  cases written : writtenEntries? (Mapping.field? data "sections") with
  | none => simp [readOrder, read, written, Traced.ofExcept, Except.bind, Except.map, sectionsAmong]
  | some raws =>
    have kept := Outcome.mapM_eq_ok_map fun raw (_ : raw ∈ raws) => outcome_keepEntry raw
    rw [sectionsAmong, ← List.filterMap_eq_filter, Option.getD_some, List.filterMap_map]
    simp [readOrder, read, written, Traced.ofExcept, Traced.outcome_mapM, kept, Except.bind,
      Except.map, List.filterMap_map]

/-- Every order can be read, and gives entries that lead to sections. -/
theorem exists_readOrder (text : String) : ∃ entries, (readOrder text).outcome = .ok entries ∧
    ∀ entry ∈ entries, IsEntry entry := by
  obtain ⟨data, read⟩ : ∃ data, Frontmatter.read .metadata text = .ok data :=
    Frontmatter.exists_read rfl text
  refine ⟨_, outcome_readOrder read, fun entry member => ?_⟩
  obtain ⟨present, leads⟩ := List.mem_filter.mp member
  obtain ⟨raw, -, rfl⟩ := List.mem_map.mp present
  exact ⟨by simp, leads⟩

/-- An entry of an order leads to its directory or to something below it, for every target. -/
theorem sections_inside (text : String) {directory : String}
    (normal : TemplatePath.IsNormal directory) (nonempty : directory ≠ "") {target : String}
    (isTarget : IsTargetName target) :
    ∃ entries, (readOrder text).outcome = .ok entries ∧ ∀ entry ∈ entries,
      ∃ names, readPath (joinPath directory (withTarget entry target)) = .ok names ∧
        (TemplatePath.text names = directory ∨
          startsWith (directory ++ "/") (TemplatePath.text names) = true) := by
  obtain ⟨entries, ran, all⟩ := exists_readOrder text
  obtain ⟨above, base, rfl⟩ := TemplatePath.IsBase.of_isNormal normal nonempty
  refine ⟨entries, ran, fun entry member => ?_⟩
  obtain ⟨below, found⟩ := base.ofText?_joinPath ((all entry member).isInside isTarget)
  refine ⟨above ++ below, readPath_eq_ok_iff.mpr found, ?_⟩
  by_cases none : below = []
  · exact .inl (by rw [none, List.append_nil])
  · right
    rw [startsWith, List.isPrefixOf_iff_prefix, TemplatePath.toList_text, List.map_append,
      joinWith_append _ (by simpa using base.nonempty) (by simpa using none),
      ← TemplatePath.toList_text]
    simp

theorem sections_inside_variant : TemplatePath.IsNormal "agents/scout" ∧ "agents/scout" ≠ "" ∧
    IsTargetName "cursor" ∧
    (readOrder "sections: [\x7btool\x7d/../guide.md, ./\x7btool\x7d.md]").outcome.toOption =
      some ["./\x7btool\x7d.md"] ∧
    ∃ entries, (readOrder "sections: [\x7btool\x7d/../guide.md, ./\x7btool\x7d.md]").outcome =
        .ok entries ∧
      ∀ entry ∈ entries,
        ∃ names, readPath (joinPath "agents/scout" (withTarget entry "cursor")) = .ok names ∧
          (TemplatePath.text names = "agents/scout" ∨
            startsWith ("agents/scout" ++ "/") (TemplatePath.text names) = true) :=
  have isTarget : IsTargetName "cursor" := .of_isAlphanum (by decide) (by decide)
  have normal : TemplatePath.IsNormal "agents/scout" := by decide
  ⟨normal, by decide, isTarget, by decide +kernel, sections_inside _ normal (by decide) isTarget⟩

end EditorPlugins.Compose
