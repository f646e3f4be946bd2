import EditorPlugins.Compose.Substitution

/-! # Placeholders are replaced one by one

An opening brace makes the scan start over, and the closing brace of a placeholder makes it go on as
at the start of a text. So a placeholder is replaced whatever stands on its two sides, which are
scanned on their own, and what takes its place is not scanned at all. A text without placeholders
stays as it is, whatever braces it has.
-/

namespace EditorPlugins.Compose

/-- A name that makes a placeholder when it stands between braces. -/
structure IsPlaceholderName (name : List Char) : Prop where
  nonempty : name ≠ []
  noBraces : ∀ c ∈ name, c ≠ '\x7b' ∧ c ≠ '\x7d'

instance : DecidablePred IsPlaceholderName := fun name =>
  haveI : Decidable (∀ c ∈ name, c ≠ '\x7b' ∧ c ≠ '\x7d') := List.decidableBAll _ name
  decidable_of_iff (name ≠ [] ∧ ∀ c ∈ name, c ≠ '\x7b' ∧ c ≠ '\x7d')
    ⟨fun ⟨nonempty, noBraces⟩ => ⟨nonempty, noBraces⟩, fun isName => ⟨isName.1, isName.2⟩⟩

def placeholder (name : String) : String := "\x7b" ++ name ++ "\x7d"

/-- Whether a placeholder stands somewhere in a text. -/
def HasPlaceholder (cs : List Char) : Prop :=
  ∃ before name after, IsPlaceholderName name ∧ cs = before ++ '\x7b' :: name ++ '\x7d' :: after

theorem HasPlaceholder.append {cs : List Char} (present : HasPlaceholder cs) (front : List Char) :
    HasPlaceholder (front ++ cs) := by
  obtain ⟨before, name, after, isName, rfl⟩ := present
  exact ⟨front ++ before, name, after, isName, by simp⟩

section Scan

variable {bindings : Variables}

/-- An opening brace starts over: what stands before it is scanned as if the text ended there. -/
theorem scan_append_opening (pending : Option (List Char)) (before cs : List Char) :
    scan bindings pending (before ++ '\x7b' :: cs) =
      scan bindings pending before ++ scan bindings (some []) cs := by
  induction before generalizing pending with
  | nil => cases pending <;> simp [scan]
  | cons c before ih =>
    cases pending with
    | none =>
      simp only [List.cons_append, scan, ih]
      split <;> rfl
    | some name =>
      simp only [List.cons_append, scan, ih]
      split
      · simp
      · split
        · simp
        · rfl

/-- The characters of a name are remembered until the name is complete. -/
theorem scan_append_name {read name : List Char} (noBraces : ∀ c ∈ name, c ≠ '\x7b' ∧ c ≠ '\x7d')
    (cs : List Char) :
    scan bindings (some read) (name ++ cs) = scan bindings (some (read ++ name)) cs := by
  induction name generalizing read with
  | nil => simp
  | cons c name ih =>
    obtain ⟨⟨notOpening, notClosing⟩, later⟩ := List.forall_mem_cons.mp noBraces
    rw [List.cons_append, scan, if_neg notOpening, if_neg notClosing, ih later, List.append_assoc]
    rfl

/-- A placeholder is replaced, and the scan goes on behind it as at the start of a text. -/
theorem scan_placeholder {name : List Char} (isName : IsPlaceholderName name) (cs : List Char) :
    scan bindings (some []) (name ++ '\x7d' :: cs) =
      expand bindings name ++ scan bindings none cs := by
  have filled : name.isEmpty = false := List.isEmpty_eq_false_iff.mpr isName.nonempty
  rw [scan_append_name isName.noBraces, List.nil_append, scan, if_neg (by decide), if_pos rfl,
    filled]
  rfl

/-- The characters that a scan remembers: an opening brace and what may become a name. -/
def remembered : Option (List Char) → List Char
  | none => []
  | some name => '\x7b' :: name

/-- Without placeholders every character stands for itself, those that are remembered too. -/
theorem scan_eq_self {pending : Option (List Char)} {cs : List Char}
    (noBraces : ∀ name, pending = some name → ∀ c ∈ name, c ≠ '\x7b' ∧ c ≠ '\x7d')
    (plain : ¬HasPlaceholder (remembered pending ++ cs)) :
    scan bindings pending cs = remembered pending ++ cs := by
  induction cs generalizing pending with
  | nil => cases pending <;> simp [scan, remembered]
  | cons c cs ih =>
    have outside : ¬HasPlaceholder cs := fun inside =>
      plain (by simpa using inside.append (remembered pending ++ [c]))
    have passed : scan bindings none cs = cs := @ih none (by simp) outside
    have opened : c = '\x7b' → scan bindings (some []) cs = c :: cs := by
      rintro rfl
      exact ih (by simp) fun inside => plain (inside.append (remembered pending))
    cases pending with
    | none =>
      by_cases opening : c = '\x7b'
      · rw [scan, if_pos opening, opened opening]
        rfl
      · rw [scan, if_neg opening, passed]
        rfl
    | some name =>
      have noBraces := noBraces name rfl
      by_cases opening : c = '\x7b'
      · rw [scan, if_pos opening, opened opening]
        rfl
      by_cases closing : c = '\x7d'
      · -- The name is empty, for the text would hold its placeholder otherwise.
        have empty : name = [] := Classical.byContradiction fun filled =>
          plain ⟨[], name, cs, ⟨filled, noBraces⟩, by simp [remembered, closing]⟩
        rw [scan, if_neg opening, if_pos closing, passed, empty, closing]
        rfl
      · have longer : ∀ c' ∈ name ++ [c], c' ≠ '\x7b' ∧ c' ≠ '\x7d' :=
          List.forall_mem_append.mpr ⟨noBraces, List.forall_mem_singleton.mpr ⟨opening, closing⟩⟩
        rw [scan, if_neg opening, if_neg closing, ih]
        · simp [remembered]
        · rintro _ ⟨⟩
          exact longer
        · simpa [remembered] using plain

end Scan

private theorem toList_placeholder (name : String) :
    (placeholder name).toList = '\x7b' :: name.toList ++ ['\x7d'] := by
  simp [placeholder]

/-- A placeholder is replaced by the value of its name, or stays if the name has none, and the texts
on its two sides are replaced on their own; a text without placeholders stays as it is. -/
theorem substitute_law (bindings : Variables) :
    (∀ before name after : String, IsPlaceholderName name.toList →
      substitute (before ++ placeholder name ++ after) bindings =
        substitute before bindings ++ (Entries.get? bindings name).getD (placeholder name) ++
          substitute after bindings) ∧
    ∀ text : String, ¬HasPlaceholder text.toList → substitute text bindings = text := by
  constructor
  · intro before name after isName
    have expanded : expand bindings name.toList =
        ((Entries.get? bindings name).getD (placeholder name)).toList := by
      rw [expand, String.ofList_toList]
      cases Entries.get? bindings name with
      | none => exact (toList_placeholder name).symm
      | some value => rfl
    apply String.toList_inj.mp
    simp only [substitute, String.toList_ofList, String.toList_append, toList_placeholder,
      List.append_assoc, List.cons_append, List.nil_append]
    rw [scan_append_opening, scan_placeholder isName, expanded]
  · intro text absent
    have same : scan bindings none text.toList = text.toList :=
      @scan_eq_self _ none _ (by simp) absent
    rw [substitute, same, String.ofList_toList]

/-- A variable whose value looks like the placeholder of the other one. -/
def nestedBindings : Variables := [("tool", "\x7bwho\x7d"), ("who", "me")]

/-- Braces that are not closed stay, and a value is not scanned. -/
theorem nestedBindings_substitute :
    IsPlaceholderName "tool".toList ∧ ¬HasPlaceholder "\x7b\x7b".toList ∧
      substitute ("\x7b\x7b" ++ placeholder "tool" ++ "\x7d\x7b") nestedBindings =
        "\x7b\x7b" ++ "\x7bwho\x7d" ++ substitute "\x7d\x7b" nestedBindings := by
  have isName : IsPlaceholderName "tool".toList := by decide
  have plain : ¬HasPlaceholder "\x7b\x7b".toList := by
    rintro ⟨before, name, after, -, whole⟩
    have closing : '\x7d' ∈ "\x7b\x7b".toList := by
      rw [whole]
      simp
    exact absurd closing (by decide)
  refine ⟨isName, plain, ?_⟩
  rw [(substitute_law nestedBindings).1 _ _ _ isName, (substitute_law nestedBindings).2 _ plain]
  rfl

end EditorPlugins.Compose
