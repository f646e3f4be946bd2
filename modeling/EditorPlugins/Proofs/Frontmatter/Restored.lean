import EditorPlugins.Proofs.Frontmatter.Envelope
import EditorPlugins.Proofs.Frontmatter.Parsed
import EditorPlugins.Proofs.Frontmatter.RoundTrip

/-! # Frontmatter that is read, written and read again

Frontmatter that was read can be written again. Its keys are written as they are, so they have to be
names; all of its values are restored but lists in inner maps and numbers that are not finite, which
come back as texts.
-/

namespace EditorPlugins.Frontmatter

open Text Number

/-- What is written of a map has keys that can stand in front of their colons as they are. -/
structure HasNames (data : Mapping) : Prop where
  outer : ∀ entry ∈ kept data, IsKey entry.1
  inner : ∀ key entries, (key, .map entries) ∈ kept data → ∀ entry ∈ entries, IsInnerKey entry.1

theorem mem_kept {data : Mapping} {entry : Scalar × Value} {written : Value} (member : entry ∈ data)
    (content : keptValue? entry.2 = some written) : (entry.1, written) ∈ kept data :=
  List.mem_filterMap.mpr ⟨entry, member, by rw [content]; rfl⟩

/-- The entries of frontmatter that was read can be read from their lines. -/
theorem HasNames.shape {data : Mapping} (names : HasNames data) (parsed : IsMapOf IsParsed data) :
    ∀ entry ∈ data, EntryShape entry.1 entry.2 := by
  rintro ⟨key, value⟩ member
  cases content : keptValue? value with
  | none => exact .empty content
  | some written =>
    have present := mem_kept member content
    rcases names.outer _ present with ⟨isName⟩
    cases parsed.values _ member with
    | line line =>
      rcases line with rfl | line
      · cases content
      · cases line with
        | texts texts =>
          refine .items isName ?_
          rintro rfl
          cases content
        | bool truth => exact .line isName (.bool truth) rfl
        | int n => exact .line isName (.int n) rfl
        | float x => exact .line isName (.float x) rfl
        | text text => exact .line isName (.text text) rfl
    | @entries entries inner =>
      have nonempty : keptEntries entries ≠ [] := by
        intro empty
        rw [keptValue?, empty] at content
        cases content
      rw [keptValue?_map nonempty] at content
      cases content
      refine .inner isName nonempty (nodup_keys_keptEntries inner.distinct) fun entry inside => ?_
      refine ⟨names.inner _ _ present entry inside, ?_⟩
      obtain ⟨original, filled⟩ := List.mem_filter.mp inside
      rcases inner.values entry original with nothing | line
      · simp [nothing, isNull] at filled
      · exact line

/-- A document that was joined from frontmatter with names is split into what is restored of it and
the body, without the line ends at its start. -/
theorem split_join {data : Mapping} {body content : String} (names : HasNames data)
    (parsed : IsMapOf IsParsed data) (nonempty : kept data ≠ [])
    (joined : join data body none = .ok content) :
    split content = .ok ⟨restored data, String.ofList (body.toList.dropWhile isNewline)⟩ := by
  obtain ⟨lines, formed, rfl⟩ := join_eq_ok joined
  have shaped := names.shape parsed
  have distinct : (Entries.keys (restored data)).Nodup := by
    have keys : Entries.keys (restored data) = Entries.keys (kept data) := by
      simp [restored, Entries.keys]
    rw [keys]
    exact nodup_keys_kept parsed.distinct
  have read : readMapping .document lines = .ok (restored data) := by
    have read := @readMapping_mappingLines data none lines shaped formed
    rwa [orderedEntries, Entries.ofPairs_of_nodup distinct] at read
  have filled : lines ≠ [] := by
    rintro rfl
    have nothing : restored data = [] := (Except.ok.inj read).symm
    exact nonempty (List.map_eq_nil_iff.mp nothing)
  rw [if_neg filled, split_enveloped (@isBlockLine_of_mappingLines data none lines shaped formed),
    read]
  rfl

end EditorPlugins.Frontmatter
