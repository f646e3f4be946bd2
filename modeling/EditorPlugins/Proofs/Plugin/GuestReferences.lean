import EditorPlugins.Plugin.Guest
import EditorPlugins.Proofs.Text.Rewriting

/-! # References of rules

The references to protocols are replaced one after another in the body of a rule. All of them start
with the same word, but this word starts nowhere else in them, nor in what takes their place. So no
reference overlaps another one or comes about by a replacement: every reference of the body is
replaced, once, whatever the order of the table is.
-/

namespace EditorPlugins.Plugin.Guest

open Text

/-- The characters of a reference and of what takes its place. -/
def referenceEntry (reference : String × String) : List Char × List Char :=
  (reference.1.toList, reference.2.toList)

private theorem isSeparate_references : IsSeparate (references.map referenceEntry) where
  nonempty := by decide +kernel
  apart := by decide +kernel
  clear := by decide +kernel
  newClear := by decide +kernel

private theorem foldl_rewriteReference (order : List (String × String)) (body : List Char) :
    order.foldl rewriteReference body = replaceInTurn (order.map referenceEntry) body := by
  rw [replaceInTurn, List.foldl_map]
  rfl

private theorem toList_rewriteReferences (body : String) :
    (rewriteReferences body).toList =
      replaceInTurn (references.map referenceEntry) body.toList := by
  rw [rewriteReferences, String.toList_ofList, foldl_rewriteReference]

/-- The references in a body are replaced, and all else in it stays. No reference is left, so that
rewriting again changes nothing, and the order in which the references are replaced does not
matter. -/
theorem references_rewritten (body : String) :
    Rewrites (references.map referenceEntry) body.toList (rewriteReferences body).toList ∧
    (∀ reference ∈ references, ¬reference.1.toList <:+: (rewriteReferences body).toList) ∧
    rewriteReferences (rewriteReferences body) = rewriteReferences body ∧
    ∀ order : List (String × String), order.Perm references →
      String.ofList (order.foldl rewriteReference body.toList) = rewriteReferences body := by
  have separate := isSeparate_references
  refine ⟨?rewrites, ?complete, ?again, ?order⟩
  case rewrites =>
    rw [toList_rewriteReferences]
    exact separate.rewrites (List.Perm.refl _) _
  case complete =>
    intro reference member
    rw [toList_rewriteReferences]
    exact separate.absent_replaceInTurn _ _ (List.mem_map_of_mem member)
  case again =>
    apply String.toList_inj.mp
    rw [toList_rewriteReferences, toList_rewriteReferences, separate.replaceInTurn_replaceInTurn]
  case order =>
    intro order perm
    apply String.toList_inj.mp
    rw [String.toList_ofList, foldl_rewriteReference, toList_rewriteReferences]
    exact separate.replaceInTurn_perm (perm.map _) _

/-- References that touch, one behind a word of its own, and one that is replaced already. -/
def crowdedBody : String :=
  "See SESSION-PROTOCOL.mdSee \x60AGENT-SYSTEM.md\x60See See \x60SESSION-PROTOCOL.md\x60, " ++
    "See ~/.agents/SESSION-PROTOCOL.md"

theorem crowdedBody_rewritten :
    rewriteReferences crowdedBody =
      "See ~/.agents/SESSION-PROTOCOL.mdSee \x60~/.agents/AGENT-SYSTEM.md\x60" ++
        "See See \x60~/.agents/SESSION-PROTOCOL.md\x60, See ~/.agents/SESSION-PROTOCOL.md" ∧
    references.reverse.Perm references ∧
    String.ofList (references.reverse.foldl rewriteReference crowdedBody.toList) =
      rewriteReferences crowdedBody :=
  have reversed : references.reverse.Perm references := List.reverse_perm _
  have ⟨_, _, _, inOrder⟩ := references_rewritten crowdedBody
  ⟨by decide +kernel, reversed, inOrder _ reversed⟩

end EditorPlugins.Plugin.Guest
