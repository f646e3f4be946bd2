import EditorPlugins.Frontmatter.Envelope
import EditorPlugins.Proofs.Text.Endings

/-! # Frontmatter with returns before its feeds

A return and a feed end a line as a feed alone does. So a text without returns is read as the same
map once each feed has one, and a document is cut at the same lines: its frontmatter is the same,
and its body is the body with returns.
-/

namespace EditorPlugins.Frontmatter

open Text

/-- The parts of a document with returns before their feeds. -/
def Cut.withReturns (cut : Cut) : Cut :=
  ⟨cut.block.map Line.withReturn, Text.withReturns cut.body⟩

@[simp] theorem isDelimiter_withReturn (line : Line) :
    isDelimiter line.withReturn = isDelimiter line := rfl

private theorem flatMap_whole_withReturn {ls : List Line}
    (oneLine : ∀ line ∈ ls, IsOneLine line.body) :
    (ls.map Line.withReturn).flatMap Line.whole = withReturns (ls.flatMap Line.whole) := by
  induction ls with
  | nil => rfl
  | cons line ls ih =>
    obtain ⟨first, later⟩ := List.forall_mem_cons.mp oneLine
    rw [List.map_cons, List.flatMap_cons, List.flatMap_cons, withReturns_append, ih later,
      Line.whole_withReturn first]

/-- The same delimiter is found, whatever stands before the feeds. -/
theorem cutLines?_withReturn {ls : List Line} (oneLine : ∀ line ∈ ls, IsOneLine line.body) :
    cutLines? (ls.map Line.withReturn) = (cutLines? ls).map Cut.withReturns := by
  induction ls with
  | nil => rfl
  | cons line ls ih =>
    obtain ⟨-, later⟩ := List.forall_mem_cons.mp oneLine
    rw [List.map_cons, cutLines?, cutLines?, isDelimiter_withReturn]
    split
    · rw [flatMap_whole_withReturn later, dropWhile_withReturns rfl]
      rfl
    · rw [ih later]
      cases cutLines? ls <;> rfl

/-- A document is cut at the same lines, whatever stands before the feeds. -/
theorem cut?_withReturns {cs : List Char} (absent : '\r' ∉ cs) :
    cut? (withReturns cs) = (cut? cs).map Cut.withReturns := by
  have inner : '\r' ∉ cs.dropWhile isLeading :=
    fun member => absent ((List.dropWhile_sublist _).mem member)
  have oneLine := isOneLine_of_mem_lines (cs.dropWhile isLeading)
  rw [cut?, cut?, dropWhile_withReturns rfl, lines_withReturns inner]
  cases shape : lines (cs.dropWhile isLeading) with
  | nil => rfl
  | cons line rest =>
    rw [shape] at oneLine
    obtain ⟨-, later⟩ := List.forall_mem_cons.mp oneLine
    simp only [List.map_cons, isDelimiter_withReturn, Line.getLast?_ending_withReturn,
      cutLines?_withReturn later]
    split <;> rfl

/-- A text without returns is read as the same map once each of its feeds has a return before it,
and it is split into the same frontmatter and the body with returns. -/
theorem read_split_withReturns {text : String} (absent : '\r' ∉ text.toList) :
    (∀ dialect, read dialect (String.ofList (withReturns text.toList)) = read dialect text) ∧
    split (String.ofList (withReturns text.toList)) = (split text).map fun document =>
      ⟨document.frontmatter, String.ofList (withReturns document.body.toList)⟩ := by
  constructor
  · intro dialect
    rw [read, read, String.toList_ofList, lineBodies_withReturns absent]
  · rw [split, split, String.toList_ofList, cut?_withReturns absent]
    cases cut? text.toList with
    | none => rfl
    | some cut =>
      have bodies : (cut.block.map Line.withReturn).map Line.body = cut.block.map Line.body := by
        rw [List.map_map]
        rfl
      simp only [Option.map_some, Cut.withReturns, bodies]
      cases readMapping .document (cut.block.map Line.body) with
      | error cause => rfl
      | ok frontmatter =>
        have body : withReturns cut.body = withReturns (String.ofList cut.body).toList := by
          rw [String.toList_ofList]
        exact congrArg (fun cs => Except.ok (Document.mk frontmatter (String.ofList cs))) body

/-- Feeds before the envelope, in it, and at the start and in the middle of the body. -/
def enclosedText : String := "\n --- \ntools:\n- a\n---\n\nx\n\ny"

theorem enclosedText_split : '\r' ∉ enclosedText.toList ∧
    split (String.ofList (withReturns enclosedText.toList)) =
      .ok ⟨[(.text "tools", Value.texts ["a"])], "x\r\n\r\ny"⟩ :=
  ⟨by decide, (read_split_withReturns (by decide)).2.trans rfl⟩

end EditorPlugins.Frontmatter
