import EditorPlugins.Proofs.Text.Replace
import Mathlib.Data.List.Infix

/-! # Replacing several texts

The entries of a table, texts with what takes their place, are applied one after another, each of
them everywhere. Where no text of the table can overlap another one, nor what takes the place of
any, this replaces the occurrences in the given text, and nothing else: no replacement makes, breaks
or hides an occurrence. So the order of the entries does not matter, and nothing is left to replace.
-/

namespace EditorPlugins.Text

/-- Neither of two texts starts with the other. -/
def Diverge (first second : List Char) : Prop := ¬first <+: second ∧ ¬second <+: first

instance : DecidableRel Diverge := fun first second =>
  inferInstanceAs (Decidable (¬first <+: second ∧ ¬second <+: first))

/-- Another text starts nowhere inside this one, whatever follows. -/
def ClearOf (other text : List Char) : Prop :=
  ∀ ending ∈ text.tails, ending ≠ [] → Diverge ending other

instance : DecidableRel ClearOf := fun other text =>
  inferInstanceAs (Decidable (∀ ending ∈ text.tails, ending ≠ [] → Diverge ending other))

/-- The texts of a table and what takes their place, none of which can overlap a text of it. -/
structure IsSeparate (table : List (List Char × List Char)) : Prop where
  nonempty : ∀ entry ∈ table, entry.1 ≠ []
  apart : ∀ entry ∈ table, ∀ other ∈ table, entry ≠ other → Diverge entry.1 other.1
  clear : ∀ entry ∈ table, ∀ other ∈ table,
    ClearOf other.1 entry.1.tail ∧ ClearOf other.2 entry.1.tail
  newClear : ∀ entry ∈ table, ∀ other ∈ table, ClearOf other.1 entry.2

/-- Some entries of a separate table are separate. -/
theorem IsSeparate.of_subset {table others : List (List Char × List Char)}
    (separate : IsSeparate table) (subset : others ⊆ table) : IsSeparate others where
  nonempty entry member := separate.nonempty entry (subset member)
  apart entry member other also := separate.apart entry (subset member) other (subset also)
  clear entry member other also := separate.clear entry (subset member) other (subset also)
  newClear entry member other also := separate.newClear entry (subset member) other (subset also)

/-- Apply the entries of a table one after another. -/
def replaceInTurn (table : List (List Char × List Char)) (cs : List Char) : List Char :=
  table.foldl (fun text entry => replaceAll entry.1 entry.2 text) cs

/-- The texts of a table are replaced wherever they occur, and all else stays. -/
inductive Rewrites (table : List (List Char × List Char)) : List Char → List Char → Prop
  | nil : Rewrites table [] []
  | keep {c : Char} {cs ds : List Char} (none : ∀ entry ∈ table, ¬entry.1 <+: c :: cs)
      (rest : Rewrites table cs ds) : Rewrites table (c :: cs) (c :: ds)
  | replace {entry : List Char × List Char} {cs ds : List Char} (member : entry ∈ table)
      (rest : Rewrites table cs ds) : Rewrites table (entry.1 ++ cs) (entry.2 ++ ds)

variable {table : List (List Char × List Char)} {entry : List Char × List Char}
  {old new text other cs ds : List Char}

section Clear

private theorem Diverge.not_prefix_append (diverge : Diverge text other) (cs : List Char) :
    ¬text <+: other ++ cs := by
  intro within
  rcases List.prefix_or_prefix_of_prefix within (List.prefix_append other cs) with one | two
  · exact diverge.1 one
  · exact diverge.2 two

theorem Diverge.symm (diverge : Diverge text other) : Diverge other text := ⟨diverge.2, diverge.1⟩

private theorem clearOf_cons {c : Char} :
    ClearOf other (c :: text) ↔ Diverge (c :: text) other ∧ ClearOf other text := by
  rw [ClearOf, List.tails_cons, List.forall_mem_cons]
  exact and_congr_left fun _ => ⟨fun here => here (List.cons_ne_nil _ _), fun here _ => here⟩

/-- An occurrence behind a text that is clear of it starts behind the text. -/
theorem ClearOf.infix_of_append (clear : ClearOf other text) (found : other <:+: text ++ cs) :
    other <:+: cs := by
  induction text with
  | nil => exact found
  | cons c text ih =>
    obtain ⟨here, later⟩ := clearOf_cons.mp clear
    rcases List.infix_cons_iff.mp found with start | inside
    · exact absurd start (here.symm.not_prefix_append cs)
    · exact ih later inside

/-- Replacing passes over a text that is clear of what is replaced. -/
theorem ClearOf.replaceAll_append (clear : ClearOf old text) (cs : List Char) :
    replaceAll old new (text ++ cs) = text ++ replaceAll old new cs := by
  induction text with
  | nil => rfl
  | cons c text ih =>
    obtain ⟨here, later⟩ := clearOf_cons.mp clear
    have passed : ¬old <+: c :: (text ++ cs) := here.symm.not_prefix_append cs
    rw [List.cons_append, replaceAll_cons_of_not passed, ih later]
    rfl

end Clear

namespace Rewrites

theorem refl (cs : List Char) : Rewrites [] cs cs := by
  induction cs with
  | nil => exact nil
  | cons c cs ih => exact keep (fun _ member => nomatch member) ih

/-- What is rewritten depends on the entries of a table, not on their order. -/
theorem congr {others : List (List Char × List Char)}
    (same : ∀ entry, entry ∈ table ↔ entry ∈ others) (rewrites : Rewrites table cs ds) :
    Rewrites others cs ds := by
  induction rewrites with
  | nil => exact nil
  | keep none _ ih => exact keep (fun entry member => none entry ((same entry).mpr member)) ih
  | replace member _ ih => exact replace ((same _).mp member) ih

/-- A text that is clear of the table starts both what is rewritten and the result, or neither. -/
theorem split (clear : ∀ entry ∈ table, ClearOf entry.1 text ∧ ClearOf entry.2 text)
    (rewrites : Rewrites table cs ds) :
    (∃ cs' ds', cs = text ++ cs' ∧ ds = text ++ ds' ∧ Rewrites table cs' ds') ∨
      (¬text <+: cs ∧ ¬text <+: ds) := by
  induction text generalizing cs ds with
  | nil => exact .inl ⟨cs, ds, rfl, rfl, rewrites⟩
  | cons a text ih =>
    have later : ∀ entry ∈ table, ClearOf entry.1 text ∧ ClearOf entry.2 text :=
      fun entry member => ⟨(clearOf_cons.mp (clear entry member).1).2,
        (clearOf_cons.mp (clear entry member).2).2⟩
    cases rewrites with
    | nil => exact .inr ⟨by simp, by simp⟩
    | @keep c cs ds none rest =>
      by_cases same : a = c
      · subst same
        rcases ih later rest with ⟨cs', ds', rfl, rfl, more⟩ | ⟨before, after⟩
        · exact .inl ⟨cs', ds', rfl, rfl, more⟩
        · exact .inr ⟨by simpa using before, by simpa using after⟩
      · exact .inr ⟨by simp [same], by simp [same]⟩
    | @replace entry cs ds member rest =>
      obtain ⟨ofOld, ofNew⟩ := clear entry member
      exact .inr ⟨(clearOf_cons.mp ofOld).1.not_prefix_append cs,
        (clearOf_cons.mp ofNew).1.not_prefix_append ds⟩

/-- A text that can overlap nothing of the table starts at a character that is kept in what is
rewritten when it starts there in the result. -/
theorem prefix_cons_iff {c : Char}
    (clear : ∀ entry ∈ table, ClearOf entry.1 text.tail ∧ ClearOf entry.2 text.tail)
    (rest : Rewrites table cs ds) : text <+: c :: cs ↔ text <+: c :: ds := by
  cases text with
  | nil => simp
  | cons a text =>
    rw [List.cons_prefix_cons, List.cons_prefix_cons]
    refine and_congr_right fun _ => ?_
    rcases rest.split clear with ⟨cs', ds', rfl, rfl, -⟩ | ⟨before, after⟩
    · simp
    · exact iff_of_false before after

/-- Applying one more entry rewrites with a table that has this entry too. -/
theorem step (separate : IsSeparate (entry :: table)) (rewrites : Rewrites table cs ds) :
    Rewrites (entry :: table) cs (replaceAll entry.1 entry.2 ds) := by
  have here : entry ∈ entry :: table := List.mem_cons_self
  have nonempty := separate.nonempty entry here
  have clear := (List.forall_mem_cons.mp (separate.clear entry here)).2
  -- An occurrence is passed over at once, so the induction is on the length.
  induction size : cs.length using Nat.strong_induction_on generalizing cs ds with
  | _ size ih =>
    subst size
    cases rewrites with
    | nil => exact nil
    | @keep c cs ds none rest =>
      by_cases start : entry.1 <+: c :: ds
      · obtain ⟨text, same, inside⟩ := (List.prefix_cons_iff.mp start).resolve_left nonempty
        rw [same, List.tail_cons] at clear
        obtain ⟨cs, ds, rfl, rfl, more⟩ :=
          (rest.split clear).resolve_right fun absent => absent.2 inside
        have shorter : cs.length < (c :: (text ++ cs)).length := by
          rw [List.length_cons, List.length_append]
          omega
        rw [← List.cons_append, ← List.cons_append, ← same, replaceAll_append nonempty]
        exact replace here (ih _ shorter more rfl)
      · have absent : ¬entry.1 <+: c :: cs := mt (rest.prefix_cons_iff clear).mp start
        rw [replaceAll_cons_of_not start]
        exact keep (List.forall_mem_cons.mpr ⟨absent, none⟩) (ih _ (Nat.lt_succ_self _) rest rfl)
    | @replace other cs ds member rest =>
      have also : other ∈ entry :: table := List.mem_cons_of_mem _ member
      have longer := List.length_pos_iff.mpr (separate.nonempty other also)
      have shorter : cs.length < (other.1 ++ cs).length := by
        rw [List.length_append]
        omega
      rw [(separate.newClear other also entry here).replaceAll_append]
      exact replace also (ih _ shorter rest rfl)

/-- No text of the table is left. -/
theorem absent (separate : IsSeparate table) (rewrites : Rewrites table cs ds) :
    ∀ entry ∈ table, ¬entry.1 <:+: ds := by
  intro entry member found
  induction rewrites with
  | nil => exact separate.nonempty entry member (List.infix_nil.mp found)
  | @keep c cs ds none rest ih =>
    rcases List.infix_cons_iff.mp found with start | inside
    · exact none entry member ((rest.prefix_cons_iff (separate.clear entry member)).mpr start)
    · exact ih inside
  | @replace other cs ds also rest ih =>
    exact ih ((separate.newClear other also entry member).infix_of_append found)

/-- Nothing is made of the empty text. -/
theorem eq_nil (separate : IsSeparate table) (rewrites : Rewrites table [] ds) : ds = [] := by
  generalize whole : ([] : List Char) = cs at rewrites
  cases rewrites with
  | nil => rfl
  | keep => cases whole
  | @replace entry cs ds member rest =>
    exact absurd (List.append_eq_nil_iff.mp whole.symm).1 (separate.nonempty entry member)

/-- A character at which no text of the table starts has been kept. -/
theorem exists_of_cons {c : Char} (none : ∀ entry ∈ table, ¬entry.1 <+: c :: cs)
    (rewrites : Rewrites table (c :: cs) ds) : ∃ rest, ds = c :: rest ∧ Rewrites table cs rest := by
  generalize whole : c :: cs = text at rewrites
  cases rewrites with
  | nil => cases whole
  | keep _ rest =>
    cases whole
    exact ⟨_, rfl, rest⟩
  | @replace entry cs ds member rest =>
    exact absurd (whole ▸ List.prefix_append _ _) (none entry member)

/-- A text of the table has been replaced, for no other one starts like it. -/
theorem exists_of_append (separate : IsSeparate table) (member : entry ∈ table)
    (rewrites : Rewrites table (entry.1 ++ cs) ds) :
    ∃ rest, ds = entry.2 ++ rest ∧ Rewrites table cs rest := by
  generalize whole : entry.1 ++ cs = text at rewrites
  cases rewrites with
  | nil => exact absurd (List.append_eq_nil_iff.mp whole).1 (separate.nonempty entry member)
  | keep none _ => exact absurd (whole ▸ List.prefix_append _ _) (none entry member)
  | @replace other more ds also rest =>
    by_cases same : entry = other
    · subst same
      cases List.append_cancel_left whole
      exact ⟨ds, rfl, rest⟩
    · have start : entry.1 <+: other.1 ++ more := whole ▸ List.prefix_append _ _
      exact absurd start ((separate.apart entry member other also same).not_prefix_append more)

/-- There is one result. -/
theorem unique (separate : IsSeparate table) {es : List Char} (rewrites : Rewrites table cs ds)
    (also : Rewrites table cs es) : ds = es := by
  induction rewrites generalizing es with
  | nil => exact (also.eq_nil separate).symm
  | keep none _ ih =>
    obtain ⟨rest, rfl, more⟩ := also.exists_of_cons none
    rw [ih more]
  | replace member _ ih =>
    obtain ⟨rest, rfl, more⟩ := also.exists_of_append separate member
    rw [ih more]

/-- Entries that are applied one after another rewrite together with those before them. -/
theorem replaceInTurn {order : List (List Char × List Char)}
    (separate : IsSeparate (order.reverse ++ table)) (rewrites : Rewrites table cs ds) :
    Rewrites (order.reverse ++ table) cs (replaceInTurn order ds) := by
  induction order generalizing table ds with
  | nil => exact rewrites
  | cons entry order ih =>
    rw [List.reverse_cons, List.append_assoc, List.singleton_append] at separate ⊢
    exact ih separate (rewrites.step (separate.of_subset (List.subset_append_right _ _)))

end Rewrites

namespace IsSeparate

variable {order : List (List Char × List Char)} (separate : IsSeparate table)

include separate

/-- In any order, the entries replace the occurrences in the given text, and nothing else. -/
theorem rewrites (perm : order.Perm table) (cs : List Char) :
    Rewrites table cs (replaceInTurn order cs) := by
  have same (entry : List Char × List Char) : entry ∈ order.reverse ++ [] ↔ entry ∈ table := by
    rw [List.append_nil, List.mem_reverse, perm.mem_iff]
  have apart : IsSeparate (order.reverse ++ []) := separate.of_subset fun entry => (same entry).mp
  exact ((Rewrites.refl cs).replaceInTurn apart).congr same

/-- The order of the entries does not matter. -/
theorem replaceInTurn_perm (perm : order.Perm table) (cs : List Char) :
    replaceInTurn order cs = replaceInTurn table cs :=
  (separate.rewrites perm cs).unique separate (separate.rewrites (List.Perm.refl table) cs)

/-- No text of the table is left. -/
theorem absent_replaceInTurn (cs : List Char) :
    ∀ entry ∈ table, ¬entry.1 <:+: replaceInTurn table cs :=
  (separate.rewrites (List.Perm.refl table) cs).absent separate

omit separate in
private theorem replaceInTurn_of_absent (absent : ∀ entry ∈ table, ¬entry.1 <:+: cs) :
    replaceInTurn table cs = cs := by
  induction table with
  | nil => rfl
  | cons entry table ih =>
    obtain ⟨first, later⟩ := List.forall_mem_cons.mp absent
    rw [replaceInTurn, List.foldl_cons, replaceAll_of_absent first]
    exact ih later

/-- Applying the table again changes nothing. -/
theorem replaceInTurn_replaceInTurn (cs : List Char) :
    replaceInTurn table (replaceInTurn table cs) = replaceInTurn table cs :=
  replaceInTurn_of_absent (separate.absent_replaceInTurn cs)

end IsSeparate

end EditorPlugins.Text
