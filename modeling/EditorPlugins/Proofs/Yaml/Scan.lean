import EditorPlugins.Proofs.Outcome
import EditorPlugins.Proofs.Yaml.Plain
import EditorPlugins.Proofs.Yaml.Quoted
import EditorPlugins.Yaml.Token

/-! # One token after another

Before each token the scan gets ready for it: it skips to the token, gives up places of keys, and
ends the collections that are indented further. Two scans that get ready for the same have the same
tokens ahead, and fuel does not matter while it exceeds the length of the rest.
-/

namespace EditorPlugins.Yaml.Scan

variable {scan next ready scanned : Scan} {cursor : Cursor} {tokens : List Token}
  {indents : List Nat} {keyAllowed : Bool} {rest : List Char}

/-- The scan at its next token. -/
def prepare (scan : Scan) : Read Scan :=
  ((scan.toNextToken (scan.cursor.rest.length + 1)).dropStale).map fun scan =>
    scan.unwind (scan.cursor.column + 1)

/-- What follows from a scan at its next token. -/
def proceed (fuel : Nat) (scan : Scan) : Read (List Token) := do
  if scan.cursor.rest.isEmpty then
    let scan ← scan.closeBlocks
    return scan.tokens.reverse
  else run fuel (← scan.scanToken)

theorem run_succ (fuel : Nat) (scan : Scan) :
    scan.run (fuel + 1) = scan.prepare >>= proceed fuel := by
  rw [run, prepare]
  cases (scan.toNextToken (scan.cursor.rest.length + 1)).dropStale with
  | error cause => rfl
  | ok ready => rfl

private theorem run_congr (same : scan.prepare = next.prepare) (fuel : Nat) :
    scan.run fuel = next.run fuel := by
  cases fuel with
  | zero => rfl
  | succ fuel => rw [run_succ, run_succ, same]

/-- The tokens ahead of one scan are those ahead of another one, further on. -/
def Leads (scan next : Scan) : Prop :=
  ∀ fuel, scan.cursor.rest.length < fuel →
    ∃ less, next.cursor.rest.length < less ∧ scan.run fuel = next.run less

theorem Leads.refl (scan : Scan) : Leads scan scan := fun fuel enough => ⟨fuel, enough, rfl⟩

theorem Leads.trans {last : Scan} (first : Leads scan next) (second : Leads next last) :
    Leads scan last := by
  intro fuel enough
  obtain ⟨less, short, same⟩ := first fuel enough
  obtain ⟨least, shorter, equal⟩ := second less short
  exact ⟨least, shorter, same.trans equal⟩

theorem Leads.of_prepare (same : scan.prepare = next.prepare)
    (short : next.cursor.rest.length ≤ scan.cursor.rest.length) : Leads scan next :=
  fun fuel enough => ⟨fuel, Nat.lt_of_le_of_lt short enough, run_congr same fuel⟩

theorem run_of_prepare (prepared : scan.prepare = .ok ready) (inside : ready.cursor.rest ≠ [])
    (token : ready.scanToken = .ok scanned) (fuel : Nat) :
    scan.run (fuel + 1) = scanned.run fuel := by
  rw [run_succ, prepared]
  change proceed fuel ready = _
  rw [proceed, List.isEmpty_eq_false_iff.mpr inside, token]
  rfl

theorem Leads.of_token (prepared : scan.prepare = .ok ready) (inside : ready.cursor.rest ≠ [])
    (token : ready.scanToken = .ok scanned) (same : scanned.prepare = next.prepare)
    (shorter : next.cursor.rest.length < scan.cursor.rest.length) : Leads scan next := by
  intro fuel enough
  obtain ⟨fuel, rfl⟩ := Nat.exists_eq_add_one_of_ne_zero (Nat.ne_zero_of_lt enough)
  refine ⟨fuel, by omega, ?_⟩
  rw [run_of_prepare prepared inside token, run_congr same]

/-- A scan outside brackets that remembers no place. -/
def outside (cursor : Cursor) (tokens : List Token) (indents : List Nat) (keyAllowed : Bool) :
    Scan :=
  ⟨cursor, tokens, 0, indents, keyAllowed, []⟩

/-- The scan comes to the start of the line where some rest of the text begins. -/
def Reaches (scan : Scan) (rest : List Char) (tokens : List Token) (indents : List Nat) : Prop :=
  ∃ next : Cursor, next.rest = rest ∧ next.column = 0 ∧ Leads scan (outside next tokens indents true)

theorem toNextToken_content (scan : Scan) (fuel : Nat)
    (landed : isBreak (scan.cursor.dropWhile (· == ' ')).head = false)
    (noComment : (scan.cursor.dropWhile (· == ' ')).head ≠ '#') :
    scan.toNextToken (fuel + 1) = { scan with cursor := scan.cursor.dropWhile (· == ' ') } := by
  have skipped : (scan.cursor.dropWhile (· == ' ')).skipComment =
      scan.cursor.dropWhile (· == ' ') := by
    rw [Cursor.skipComment, if_neg (by simpa using noComment)]
  rw [toNextToken]
  simp only [skipped, landed, Bool.false_eq_true, if_false]

private theorem toNextToken_feed (scan : Scan) (fuel : Nat)
    (shape : scan.cursor.rest = '\n' :: rest) :
    scan.toNextToken (fuel + 1) =
      toNextToken fuel { scan with
        cursor := scan.cursor.step, keyAllowed := scan.keyAllowed || !scan.inFlow } := by
  have head : scan.cursor.head = '\n' := Cursor.head_of_cons shape
  have stays : (scan.cursor.dropWhile (· == ' ')).skipComment = scan.cursor := by
    rw [Cursor.dropWhile_of_head (by rw [head]; rfl), Cursor.skipComment, head]
    rfl
  have ends : isBreak '\n' = true := rfl
  rw [toNextToken]
  simp only [stays, head, ends, if_true, Cursor.lineBreak_feed shape]

/-- Places that are too far back are given up where no key has to stand. -/
theorem dropStale_of_stale
    (stale : ∀ place ∈ scan.keyPlaces, place.required = false ∧ scan.isStale place = true) :
    scan.dropStale = .ok { scan with keyPlaces := [] } := by
  have optional : (scan.keyPlaces.any fun place => scan.isStale place && place.required) = false := by
    rw [List.any_eq_false]
    intro place member
    simp [(stale place member).1]
  have none : (scan.keyPlaces.filter fun place => !scan.isStale place) = [] := by
    rw [List.filter_eq_nil_iff]
    intro place member
    simp [(stale place member).2]
  rw [dropStale, optional, none]
  rfl

/-- Other lines are too far back. -/
theorem dropStale_of_line
    (stale : ∀ place ∈ scan.keyPlaces, place.required = false ∧ place.line ≠ scan.cursor.line) :
    scan.dropStale = .ok { scan with keyPlaces := [] } :=
  dropStale_of_stale fun place member =>
    ⟨(stale place member).1, by simp [isStale, (stale place member).2]⟩

/-- Places that are near enough are kept. -/
theorem dropStale_of_fresh (fresh : ∀ place ∈ scan.keyPlaces, scan.isStale place = false) :
    scan.dropStale = .ok scan := by
  have optional : (scan.keyPlaces.any fun place => scan.isStale place && place.required) = false := by
    rw [List.any_eq_false]
    intro place member
    simp [fresh place member]
  have all : (scan.keyPlaces.filter fun place => !scan.isStale place) = scan.keyPlaces := by
    rw [List.filter_eq_self]
    intro place member
    simp [fresh place member]
  rw [dropStale, optional, all]
  rfl

/-- Content that is not indented less than the innermost collection belongs to it. -/
theorem unwind_of_le {column : Nat} (shallow : scan.indent ≤ column) : scan.unwind column = scan := by
  have stays : unwindTo column scan.indents scan.tokens = (scan.indents, scan.tokens) := by
    rw [indent] at shallow
    cases shape : scan.indents with
    | nil => rfl
    | cons indent rest =>
      have shallow : indent ≤ column := by rwa [shape] at shallow
      rw [unwindTo, if_neg (Nat.not_lt.mpr shallow)]
  rw [unwind, stays]
  split <;> rfl

/-- Outside brackets a scan gets ready at the content of its line, where places of keys on lines
before it are given up. -/
theorem prepare_of_content {places : List KeyPlace}
    (inLine : isBreak (cursor.dropWhile (· == ' ')).head = false)
    (noComment : (cursor.dropWhile (· == ' ')).head ≠ '#')
    (stale : ∀ place ∈ places,
      place.required = false ∧ place.line ≠ (cursor.dropWhile (· == ' ')).line) :
    (⟨cursor, tokens, 0, indents, keyAllowed, places⟩ : Scan).prepare =
      .ok ((outside (cursor.dropWhile (· == ' ')) tokens indents keyAllowed).unwind
        ((cursor.dropWhile (· == ' ')).column + 1)) := by
  have moved := toNextToken_content ⟨cursor, tokens, 0, indents, keyAllowed, places⟩
    cursor.rest.length inLine noComment
  rw [prepare, moved, dropStale_of_line stale]
  rfl

theorem prepare_outside (inLine : isBreak (cursor.dropWhile (· == ' ')).head = false)
    (noComment : (cursor.dropWhile (· == ' ')).head ≠ '#') :
    (outside cursor tokens indents keyAllowed).prepare =
      .ok ((outside (cursor.dropWhile (· == ' ')) tokens indents keyAllowed).unwind
        ((cursor.dropWhile (· == ' ')).column + 1)) :=
  prepare_of_content inLine noComment fun _ absent => absurd absent List.not_mem_nil

/-- At the content of a line the scan gets ready as it does at the start of the line. -/
theorem prepare_landed {indent : Nat} {places : List KeyPlace} (resumes : Resumes indent cursor.rest)
    (start : cursor.column = 0)
    (stale : ∀ place ∈ places, place.required = false ∧ place.line ≠ cursor.line) :
    (⟨cursor.dropWhile (· == ' '), tokens, 0, indents, true, places⟩ : Scan).prepare =
      (outside cursor tokens indents true).prepare := by
  have landed := resumes.landed start
  have stays : (cursor.dropWhile (· == ' ')).dropWhile (· == ' ') =
      cursor.dropWhile (· == ' ') :=
    Cursor.dropWhile_of_head (by simpa using landed.noSpace)
  rw [prepare_outside landed.inLine landed.noComment, prepare_of_content] <;> rw [stays]
  · exact landed.inLine
  · exact landed.noComment
  · rw [landed.line]
    exact stale

/-- At the end of a line the scan gets ready as it does at the start of the next one. -/
theorem prepare_feed {indent : Nat} {places : List KeyPlace} (shape : cursor.rest = '\n' :: rest)
    (resumes : Resumes indent rest)
    (stale : ∀ place ∈ places, place.required = false ∧ place.line = cursor.line) :
    (⟨cursor, tokens, 0, indents, keyAllowed, places⟩ : Scan).prepare =
      (outside cursor.step tokens indents true).prepare := by
  have next := Cursor.step_feed shape
  have later : Resumes indent cursor.step.rest := by rw [next]; exact resumes
  have landed := later.landed (by rw [next])
  have size : cursor.rest.length = rest.length + 1 := by rw [shape]; rfl
  have stale : ∀ place ∈ places, place.required = false ∧
      place.line ≠ (cursor.step.dropWhile (· == ' ')).line := by
    intro place member
    obtain ⟨optional, line⟩ := stale place member
    refine ⟨optional, ?_⟩
    rw [landed.line, next, line]
    exact Nat.ne_of_lt (Nat.lt_succ_self _)
  have moved := toNextToken_feed ⟨cursor, tokens, 0, indents, keyAllowed, places⟩
    (rest.length + 1) shape
  have reached := toNextToken_content ⟨cursor.step, tokens, 0, indents, true, places⟩
    rest.length landed.inLine landed.noComment
  have allowed : (keyAllowed || !inFlow ⟨cursor, tokens, 0, indents, keyAllowed, places⟩) = true :=
    Bool.or_true _
  rw [prepare_outside landed.inLine landed.noComment, prepare, size, moved]
  dsimp only
  rw [allowed, reached, dropStale_of_line stale]
  rfl

end EditorPlugins.Yaml.Scan
