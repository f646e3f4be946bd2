import EditorPlugins.Json.Reader
import EditorPlugins.Proofs.Number.Decimal
import EditorPlugins.Proofs.Outcome
import EditorPlugins.Proofs.Value.Tree

/-! # What JSON documents hold

A document is a tree of truth values, numbers, texts and nothing. The keys of its maps are distinct
texts, because a member whose key came before replaces the earlier one.
-/

namespace EditorPlugins.Json

open Number Value

/-- The scalars that have a form in JSON. -/
def IsLeaf : Scalar → Prop
  | .bytes _ | .date _ => False
  | _ => True

/-- The scalars that are read from JSON: those that have a form there, and of the whole numbers
those with no more digits than can be converted. -/
def IsRead : Scalar → Prop
  | .bytes _ | .date _ => False
  | .int n => withinLimit n = true
  | _ => True

theorem IsRead.isLeaf (value : Scalar) (read : IsRead value) : IsLeaf value := by
  cases value with
  | bytes => exact read
  | date => exact read
  | null | bool | int | float | text => trivial

private theorem splitDigits_lt (cs : List Char) : ∀ digit ∈ (splitDigits cs).1, digit < 10 := by
  induction cs with
  | nil => simp [splitDigits]
  | cons c cs ih =>
    rw [splitDigits]
    split
    · next figure =>
      simp only [Bool.and_eq_true, decide_eq_true_eq] at figure
      refine List.forall_mem_cons.mpr ⟨?_, ih⟩
      have high : c.toNat ≤ '9'.toNat := figure.2
      have nine : '9'.toNat = 0x39 := rfl
      omega
    · simp

private theorem splitWhole_lt {cs rest : List Char} {digits : List Nat}
    (cut : splitWhole cs = (digits, rest)) : ∀ digit ∈ digits, digit < 10 := by
  unfold splitWhole at cut
  split at cut
  · cases cut
    simp
  · have bound := splitDigits_lt cs
    rwa [cut] at bound

private theorem isTree_of_readNumber {cs rest : List Char} {value : Value}
    (read : readNumber cs = .ok (value, rest)) : IsTree IsRead value := by
  simp only [readNumber] at read
  split at read
  · cases read
  next cut =>
  split at read
  · split at read
    · next found =>
      cases read
      exact .scalar (withinLimit_of_readNat (splitWhole_lt cut) found _)
    · cases read
  · cases read
    exact .scalar trivial

private theorem isTree_of_readScalar {cs rest : List Char} {value : Value}
    (read : readScalar cs = .ok (value, rest)) : IsTree IsRead value := by
  have named : ∀ name ∈ names, IsTree IsRead name.2 := by
    simp only [names, List.forall_mem_cons, List.not_mem_nil, false_implies, implies_true, and_true]
    exact ⟨.scalar trivial, .scalar trivial, .scalar trivial, .scalar trivial, .scalar trivial,
      .scalar trivial⟩
  unfold readScalar at read
  split at read
  · next found =>
    cases read
    exact named _ (List.mem_of_find?_eq_some found)
  · exact isTree_of_readNumber read

/-- What is read with some fuel are trees, if the members read before are. -/
structure ReadsTrees (fuel : Nat) : Prop where
  value : ∀ {cs value rest}, readValue fuel cs = .ok (value, rest) → IsTree IsRead value
  items : ∀ {cs items rest}, readItems fuel cs = .ok (items, rest) → IsTree IsRead (.list items)
  members : ∀ {before cs entries rest}, IsTree IsRead (.map before) →
    readMembers fuel before cs = .ok (entries, rest) → IsTree IsRead (.map entries)

section Steps

variable {fuel : Nat} (shorter : ReadsTrees fuel) {cs rest : List Char}

include shorter

private theorem isTree_of_readValue {value : Value}
    (read : readValue (fuel + 1) cs = .ok (value, rest)) : IsTree IsRead value := by
  cases cs with
  | nil => cases read
  | cons c cs =>
    rw [readValue] at read
    split at read
    · simp only [Outcome.map_eq_ok_iff, Prod.mk.injEq] at read
      obtain ⟨_, -, rfl, -⟩ := read
      exact .scalar trivial
    split at read
    · split at read
      · cases read
        exact .list (by simp)
      · simp only [Outcome.map_eq_ok_iff, Prod.mk.injEq] at read
        obtain ⟨⟨items, _⟩, read, rfl, -⟩ := read
        exact shorter.items read
    split at read
    · split at read
      · cases read
        exact .empty_map
      · simp only [Outcome.map_eq_ok_iff, Prod.mk.injEq] at read
        obtain ⟨⟨entries, _⟩, read, rfl, -⟩ := read
        exact shorter.members .empty_map read
    · exact isTree_of_readScalar read

private theorem isTree_of_readItems {items : List Value}
    (read : readItems (fuel + 1) cs = .ok (items, rest)) : IsTree IsRead (.list items) := by
  rw [readItems] at read
  simp only [Outcome.bind_eq_ok_iff] at read
  obtain ⟨⟨item, rest⟩, first, read⟩ := read
  have one := shorter.value first
  dsimp only at read
  split at read
  · cases read
    exact .list (by simpa using one)
  · simp only [Outcome.bind_eq_ok_iff, Outcome.pure_eq_ok_iff, Prod.mk.injEq] at read
    obtain ⟨⟨items, _⟩, later, rfl, -⟩ := read
    exact .list (List.forall_mem_cons.mpr ⟨one, IsTree.list_iff.mp (shorter.items later)⟩)
  · cases read

private theorem isTree_of_readMembers {before entries : Mapping}
    (tree : IsTree IsRead (.map before))
    (read : readMembers (fuel + 1) before cs = .ok (entries, rest)) :
    IsTree IsRead (.map entries) := by
  unfold readMembers at read
  split at read
  case h_2 => cases read
  simp only [Outcome.bind_eq_ok_iff] at read
  obtain ⟨⟨key, rest⟩, -, read⟩ := read
  dsimp only at read
  split at read
  case h_2 => cases read
  simp only [Outcome.bind_eq_ok_iff] at read
  obtain ⟨_, -, ⟨value, rest⟩, first, read⟩ := read
  have set := tree.setField (String.ofList key) (shorter.value first)
  dsimp only at read
  split at read
  · cases read
    exact set
  · exact shorter.members set read
  · cases read

end Steps

private theorem readsTrees (fuel : Nat) : ReadsTrees fuel := by
  induction fuel with
  | zero => exact ⟨nofun, nofun, fun _ => nofun⟩
  | succ fuel shorter =>
    exact ⟨isTree_of_readValue shorter, isTree_of_readItems shorter,
      isTree_of_readMembers shorter⟩

/-- A document that is read is a tree of scalars that can be read. -/
theorem isRead_of_read {text : String} {document : Value} (success : read text = .ok document) :
    IsTree IsRead document := by
  simp only [read] at success
  split at success
  · cases success
  split at success
  · next found =>
    cases success
    simp only [readDocument, Outcome.bind_eq_ok_iff] at found
    obtain ⟨⟨value, rest⟩, found, last⟩ := found
    dsimp only at last
    split at last
    · cases last
      exact (readsTrees _).value found
    · cases last
  · cases success
  · cases success

/-- A document that is read is a tree. -/
theorem isTree_of_read {text : String} {document : Value} (success : read text = .ok document) :
    IsTree IsLeaf document := (isRead_of_read success).imp IsRead.isLeaf

end EditorPlugins.Json
