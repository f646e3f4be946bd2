import Mathlib.Data.List.TakeWhile
import EditorPlugins.Proofs.Frontmatter.Envelope
import EditorPlugins.Proofs.Frontmatter.Overlong
import EditorPlugins.Proofs.Json.Overlong

/-! # Readers that tolerate malformed texts

The readers of frontmatter, documents and objects give a value for every text, whatever is wrong
with it, but for one thing: a whole number with more digits than are converted.
-/

namespace EditorPlugins

open Text Number

/-- Every text is read as a map, split as a document, and taken as an object or as none, unless
values are typed and reading comes to a whole number with too many digits. -/
theorem tolerant_iff (dialect : Frontmatter.Dialect) (text label : String) :
    ((∃ data, Frontmatter.read dialect text = .ok data) ↔
      ¬(dialect.typing = .typed ∧
        Frontmatter.ComesToOverlong dialect (lineBodies text.toList))) ∧
    ((∃ document, Frontmatter.split text = .ok document) ↔
      ¬∃ cut, Frontmatter.cut? text.toList = some cut ∧
        Frontmatter.ComesToOverlong .document (cut.block.map Line.body)) ∧
    ((∃ object, (Json.readObject text label).outcome = .ok object) ↔
      ¬Json.ComesToOverlong .value (Json.skipSpace text.toList)) :=
  ⟨Frontmatter.exists_readMapping_iff, Frontmatter.exists_split_iff, Json.exists_readObject_iff⟩

/-- One digit more than can be converted. -/
def longDigits : List Char := List.replicate (digitLimit + 1) '1'

private theorem eq_of_mem_longDigits {c : Char} (member : c ∈ longDigits) : c = '1' :=
  List.eq_of_mem_replicate member

/-- An entry whose value has too many digits. -/
def longEntry : List Char := "a: ".toList ++ longDigits

private theorem isOneLine_longEntry : IsOneLine longEntry := by
  refine IsOneLine.append (by decide) fun c member => ?_
  rw [eq_of_mem_longDigits member]
  rfl

theorem isOverlong_longDigits : Frontmatter.IsOverlong (' ' :: longDigits) := by
  have trimmed : trim longDigits = longDigits := trim_eq_self_iff.mpr
    ⟨fun c first => by rw [eq_of_mem_longDigits (List.mem_of_head? first)]; rfl,
      fun c last => by rw [eq_of_mem_longDigits (List.mem_of_getLast? last)]; rfl⟩
  rw [Frontmatter.IsOverlong, trim_cons_blank _ (by decide), trimmed]
  intro short
  have count : longDigits.length ≤ digitLimit := by
    have unsigned : (splitSign longDigits).2 = longDigits := rfl
    rw [Frontmatter.IsShort, unsigned] at short
    refine short (List.all_eq_true.mpr fun c member => ?_)
    rw [eq_of_mem_longDigits member]
    rfl
  rw [longDigits, List.length_replicate] at count
  exact absurd count (Nat.not_succ_le_self _)

theorem comesToOverlong_longEntry : Frontmatter.ComesToOverlong .document [longEntry] := by
  have meaning : Frontmatter.isSkippable longEntry = false := by
    have trimmed : trim longEntry = 'a' :: trimEnd (':' :: ' ' :: longDigits) :=
      trim_cons_of_keep _ (by decide)
    rw [Frontmatter.isSkippable, trimmed]
    rfl
  refine ⟨[], longEntry, [], .start, ' ' :: longDigits, rfl, rfl, ?_, isOverlong_longDigits⟩
  exact .top meaning rfl (by decide) rfl (by decide : Frontmatter.itemText ['a'] ≠ []) rfl

private theorem startsLongRun_longDigits : Json.StartsLongRun longDigits := by
  have figures : ∀ c ∈ longDigits, Json.isFigure c = true := by
    intro c member
    rw [eq_of_mem_longDigits member]
    rfl
  have rest : longDigits.dropWhile Json.isFigure = [] := List.dropWhile_eq_nil_iff.mpr figures
  refine ⟨nofun, ?_, ?_, ?_⟩
  · rw [List.takeWhile_eq_self_iff.mpr figures, longDigits, List.length_replicate]
    exact Nat.lt_succ_self _
  · rw [rest]
    nofun
  · rw [rest]
    nofun

/-- Frontmatter, a document and an object with too many digits are refused. -/
theorem longDigits_refused :
    (¬∃ data, Frontmatter.read .document (String.ofList (written [longEntry])) = .ok data) ∧
    (¬∃ document, Frontmatter.split
      (String.ofList (Frontmatter.enveloped [longEntry] [])) = .ok document) ∧
    (¬∃ object, (Json.readObject (String.ofList longDigits) "hooks.json").outcome = .ok object) := by
  have oneLine : ∀ line ∈ [longEntry], IsOneLine line :=
    List.forall_mem_singleton.mpr isOneLine_longEntry
  refine ⟨?_, ?_, ?_⟩
  · rw [Frontmatter.read, String.toList_ofList, lineBodies_written oneLine,
      Frontmatter.exists_readMapping_iff, not_not]
    exact ⟨rfl, comesToOverlong_longEntry⟩
  · have inside : ∀ line ∈ [longEntry], Frontmatter.IsBlockLine line :=
      List.forall_mem_singleton.mpr ⟨isOneLine_longEntry, nofun⟩
    rw [Frontmatter.exists_split_iff, not_not, String.toList_ofList,
      Frontmatter.cut?_enveloped inside]
    exact ⟨_, rfl, comesToOverlong_longEntry⟩
  · have solid : Json.skipSpace longDigits = longDigits := rfl
    rw [Json.exists_readObject_iff, not_not, String.toList_ofList, solid]
    exact .number (.unsigned startsLongRun_longDigits)

end EditorPlugins
