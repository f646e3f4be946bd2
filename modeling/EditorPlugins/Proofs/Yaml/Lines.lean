import EditorPlugins.Proofs.Yaml.Scan

/-! # The tokens of a line

A key is scanned before it is known to be one: its place is remembered, and the colon puts the mark
of the key in front of it. A scalar that is a value or an item ends with its line.
-/

namespace EditorPlugins.Yaml.Scan

/-- Whether a plain scalar may start with a character that another one follows. -/
def Opens (c next : Char) : Prop :=
  isIndicator c = false ∨ (c = '-' ∨ c = '?') ∧ isBlankOrEnd next = false

variable {scan : Scan} {cursor : Cursor} {tokens : List Token} {indents : List Nat}
  {keyAllowed : Bool} {cs word rest : List Char} {indent : Nat}

private theorem scanToken_quoted (head : scan.cursor.head = '"') :
    scan.scanToken = scan.scanQuoted true := by
  have noMarker (mark : Char) (differs : '"' ≠ mark) : scan.cursor.startsMarker mark = false :=
    Cursor.startsMarker_eq_false (by rwa [head])
  simp [scanToken, head, noMarker]

/-- A plain scalar is not taken for a mark, unless the marks are those of a separator. -/
theorem scanToken_plain (level : scan.flowLevel = 0)
    (opens : Opens scan.cursor.head (scan.cursor.peek 1))
    (apart : scan.cursor.column ≠ 0 ∨ scan.cursor.head ≠ '-' ∧ scan.cursor.head ≠ '.') :
    scan.scanToken = scan.scanPlain := by
  have outer : scan.inFlow = false := by rw [inFlow, level]; rfl
  have noMarker (mark : Char) (known : mark = '-' ∨ mark = '.') :
      (decide (scan.cursor.column = 0) && scan.cursor.startsMarker mark) = false := by
    rcases apart with further | ⟨dash, point⟩
    · rw [decide_eq_false further]
      rfl
    · rcases known with rfl | rfl
      · rw [Cursor.startsMarker_eq_false dash, Bool.and_false]
      · rw [Cursor.startsMarker_eq_false point, Bool.and_false]
  have dash := noMarker '-' (.inl rfl)
  have point := noMarker '.' (.inr rfl)
  rcases opens with plain | ⟨mark, next⟩
  · have starts : scan.startsPlain = true := by rw [startsPlain, plain]; rfl
    simp [isIndicator, isFlowMark] at plain
    simp [scanToken, plain, starts, dash, point]
  · rcases mark with head | head
    · simp [scanToken, head, next, dash, point, startsPlain]
    · simp [scanToken, head, next, dash, point, startsPlain, outer]

/-- The places that are remembered at the next token, where a key may start. -/
def places (cursor : Cursor) (tokens : List Token) (indents : List Nat) (keyAllowed : Bool) :
    List KeyPlace :=
  if keyAllowed then
    [⟨0, tokens.length, decide (indents.head?.getD 0 = cursor.column + 1), cursor.index,
      cursor.line, cursor.column⟩]
  else []

private theorem savePlace_outside : (outside cursor tokens indents keyAllowed).savePlace =
    .ok ⟨cursor, tokens, 0, indents, keyAllowed, places cursor tokens indents keyAllowed⟩ := by
  cases keyAllowed <;> rfl

/-- A key may start, but need not, where the content is indented further than its collection. -/
theorem optional_of_mem_places (tokens : List Token) (keyAllowed : Bool)
    (further : indents.head?.getD 0 ≤ cursor.column) :
    ∀ place ∈ places cursor tokens indents keyAllowed,
      place.required = false ∧ place.line = cursor.line := by
  intro place member
  cases keyAllowed with
  | false => cases member
  | true =>
    obtain rfl := List.mem_singleton.mp member
    exact ⟨decide_eq_false (by omega), rfl⟩

private theorem scanPlain_outside {lexeme : Lexeme}
    (read : readPlain false (indents.head?.getD 0) cursor.rest.length cursor = lexeme) :
    (outside cursor tokens indents keyAllowed).scanPlain =
      .ok ⟨lexeme.cursor, .scalar true (String.ofList lexeme.text) :: tokens, 0, indents,
        lexeme.newLine, places cursor tokens indents keyAllowed⟩ := by
  rw [scanPlain, savePlace_outside, ← read]
  rfl

private theorem scanQuoted_outside {next : Cursor}
    (read : readQuoted true cursor.rest.length cursor.step = .ok (cs, next)) :
    (outside cursor tokens indents keyAllowed).scanQuoted true =
      .ok ⟨next, .scalar false (String.ofList cs) :: tokens, 0, indents, false,
        places cursor tokens indents keyAllowed⟩ := by
  rw [scanQuoted, savePlace_outside]
  change (readQuoted true cursor.rest.length cursor.step).bind _ = _
  rw [read]
  rfl

/-- A form of a text as a scalar, plain or quoted. -/
inductive Form : (plain : Bool) → (text form : List Char) → Prop where
  | quoted {cs : List Char} (noEnd : endMark ∉ cs) : Form false cs (Frontmatter.quoted cs)
  | plain {c : Char} {cs : List Char} (words : Words (c :: cs))
      (opens : Opens c (cs.head?.getD '\n')) : Form true (c :: cs) (c :: cs)

/-- Behind a scalar the scan gets ready as it does at the start of the next line. -/
theorem scanToken_form (tokens : List Token) (keyAllowed : Bool) {plain : Bool}
    {form : List Char} (isForm : Form plain cs form)
    (shape : cursor.rest = form ++ '\n' :: rest) (resumes : Resumes (indents.head?.getD 0) rest)
    (further : indents.head?.getD 0 ≤ cursor.column) :
    ∃ scanned, (outside cursor tokens indents keyAllowed).scanToken = .ok scanned ∧
      scanned.prepare =
        (outside (cursor.skip form.length).step (.scalar plain (String.ofList cs) :: tokens) indents
          true).prepare := by
  have optional := optional_of_mem_places tokens keyAllowed further
  cases isForm with
  | quoted noEnd =>
    have head : cursor.head = '"' := Cursor.head_of_cons shape
    have along := Cursor.along_skip shape (inLine_of_isOneLine (Frontmatter.isOneLine_quoted cs))
    have enough : cs.length < cursor.rest.length := by
      have := length_le_quoted cs
      rw [shape, List.length_append, List.length_cons]
      omega
    have token : (outside cursor tokens indents keyAllowed).scanToken = _ :=
      (scanToken_quoted head).trans (scanQuoted_outside (readQuoted_quoted noEnd enough shape))
    exact ⟨_, token, prepare_feed along.rest resumes (along.line ▸ optional)⟩
  | @plain c cs words opens =>
    have head : cursor.head = c := Cursor.head_of_cons shape
    have second : cursor.peek 1 = cs.head?.getD '\n' := by
      rw [Cursor.peek, shape]
      cases cs <;> rfl
    have along := Cursor.along_skip shape words.inLine
    have next := Cursor.step_feed along.rest
    have later : Resumes (indents.head?.getD 0) (cursor.skip (c :: cs).length).step.rest := by
      rw [next]
      exact resumes
    have column : cursor.column ≠ 0 := by
      have := resumes.positive
      omega
    have stale : ∀ place ∈ places cursor tokens indents keyAllowed,
        place.required = false ∧ place.line ≠ (cursor.skip (c :: cs).length).step.line := by
      intro place member
      obtain ⟨notRequired, line⟩ := optional place member
      rw [next, along.line, line]
      exact ⟨notRequired, Nat.ne_of_lt (Nat.lt_succ_self _)⟩
    have enough : (c :: cs).length < cursor.rest.length := by rw [shape]; simp
    have read := readPlain_words words enough shape resumes further
    rw [← head, ← second] at opens
    have token : (outside cursor tokens indents keyAllowed).scanToken = _ :=
      (scanToken_plain rfl opens (.inl column)).trans (scanPlain_outside read)
    exact ⟨_, token, prepare_landed later (by rw [next]) stale⟩

theorem Form.exists_cons {plain : Bool} {form : List Char} (isForm : Form plain cs form) :
    ∃ c more, form = c :: more ∧ c ≠ ' ' ∧ c ≠ '#' ∧ isBreak c = false := by
  cases isForm with
  | quoted noEnd => exact ⟨'"', _, rfl, by decide, by decide, rfl⟩
  | @plain c cs words opens =>
    obtain ⟨d, more, shape, inner⟩ := words.exists_cons
    cases shape
    exact ⟨c, cs, rfl, isInner_ne inner⟩

theorem Form.inLine {plain : Bool} {form : List Char} (isForm : Form plain cs form) :
    InLine form := by
  cases isForm with
  | quoted noEnd => exact inLine_of_isOneLine (Frontmatter.isOneLine_quoted cs)
  | plain words opens => exact words.inLine

/-- Behind spaces the scan gets ready where the content starts. -/
theorem prepare_space (shape : cursor.rest = ' ' :: rest) {c : Char} (content : rest.head? = some c)
    (space : c ≠ ' ') (comment : c ≠ '#') (inLine : isBreak c = false)
    (further : indents.head?.getD 0 ≤ cursor.column) :
    (outside cursor tokens indents keyAllowed).prepare =
      .ok (outside cursor.step tokens indents keyAllowed) := by
  have along := Cursor.along_step shape rfl
  have head : cursor.step.head = c := by rw [Cursor.head, along.rest, content]; rfl
  have moved : cursor.dropWhile (· == ' ') = cursor.step := by
    refine Cursor.dropWhile_eq _ [' '] shape (by simp) ?_
    rw [content]
    simpa using space
  rw [prepare_outside] <;> rw [moved]
  · have shallow : indents.head?.getD 0 ≤ cursor.step.column + 1 := by
      have := along.column
      omega
    rw [unwind_of_le shallow]
  · rw [head]
    exact inLine
  · rw [head]
    exact comment

/-- A scalar behind a space is scanned with its line. -/
theorem reaches_form {plain : Bool} {form : List Char} (isForm : Form plain cs form)
    (shape : cursor.rest = ' ' :: (form ++ '\n' :: rest))
    (resumes : Resumes (indents.head?.getD 0) rest)
    (further : indents.head?.getD 0 ≤ cursor.column) :
    Reaches (outside cursor tokens indents keyAllowed) rest
      (.scalar plain (String.ofList cs) :: tokens) indents := by
  obtain ⟨c, more, start, space, comment, inLine⟩ := isForm.exists_cons
  have along := Cursor.along_step shape rfl
  have next := Cursor.step_feed (Cursor.along_skip along.rest isForm.inLine).rest
  have prepared : (outside cursor tokens indents keyAllowed).prepare = _ :=
    prepare_space shape (by rw [start]; rfl) space comment inLine further
  obtain ⟨scanned, token, same⟩ := scanToken_form tokens keyAllowed isForm along.rest resumes
    (Nat.le_trans further along.column)
  refine ⟨_, by rw [next], by rw [next], Leads.of_token prepared ?_ token same ?_⟩
  · rw [outside, along.rest, start]
    exact List.cons_ne_nil _ _
  · rw [outside, outside, next, shape]
    simp only [List.length_cons, List.length_append]
    omega

/-- The indentations inside a map at the start of the lines, once it has started. -/
def mapIndents (started : Bool) : List Nat := if started then [1] else []

/-- The indentations inside the value of such a map where a list may start two columns further. -/
def listIndents (started : Bool) : List Nat := if started then [3, 1] else [1]

/-- The tokens with one that starts a collection, unless it has started. -/
def starting (started : Bool) (token : Token) (tokens : List Token) : List Token :=
  if started then tokens else token :: tokens

private theorem scanToken_dash (head : cursor.head = '-') (alone : cursor.peek 1 = ' ')
    (column : cursor.column = 2) (started : Bool) :
    (outside cursor tokens (listIndents started) true).scanToken =
      .ok (outside cursor.step (.blockEntry :: starting started .blockList tokens) [3, 1] true) := by
  have entry : (outside cursor tokens (listIndents started) true).scanToken =
      (outside cursor tokens (listIndents started) true).scanBlockEntry := by
    simp [scanToken, outside, head, alone, column, isBlankOrEnd, isGap]
  rw [entry, scanBlockEntry]
  cases started <;>
    simp [outside, openBlock, deepen, inFlow, indent, listIndents, column, forgetPlace, push, skip,
      starting, Cursor.skip]

/-- The dash of an item starts its list, unless the list has started. -/
theorem leads_dash (shape : cursor.rest = ' ' :: ' ' :: '-' :: ' ' :: rest)
    (start : cursor.column = 0) (started : Bool) :
    Leads (outside cursor tokens (listIndents started) true)
      (outside (cursor.skip 3) (.blockEntry :: starting started .blockList tokens) [3, 1] true) := by
  obtain ⟨moved, next, column, -⟩ := Cursor.dropWhile_indent shape (by decide) start
  have head : (cursor.skip 2).head = '-' := Cursor.head_of_cons next
  have alone : (cursor.skip 2).peek 1 = ' ' := by rw [Cursor.peek, next]; rfl
  have shallow : (outside (cursor.skip 2) tokens (listIndents started) true).indent ≤ 3 := by
    change (listIndents started).head?.getD 0 ≤ 3
    cases started <;> decide
  have prepared : (outside cursor tokens (listIndents started) true).prepare =
      .ok (outside (cursor.skip 2) tokens (listIndents started) true) := by
    rw [prepare_outside] <;> rw [moved]
    · rw [column, unwind_of_le shallow]
    · rw [head]
      rfl
    · rw [head]
      decide
  refine Leads.of_token prepared ?_ (scanToken_dash head alone column started) rfl ?_
  · rw [outside, next]
    exact List.cons_ne_nil _ _
  · have later : (cursor.skip 3).rest = ' ' :: rest := (Cursor.along_step next rfl).rest
    rw [outside, outside, later, shape]
    simp only [List.length_cons]
    omega

theorem Reaches.of_leads {scan next : Scan} (first : Leads scan next)
    (second : Reaches next rest tokens indents) : Reaches scan rest tokens indents := by
  obtain ⟨last, shape, start, leads⟩ := second
  exact ⟨last, shape, start, first.trans leads⟩

/-- The line of an item. -/
theorem reaches_item {plain : Bool} {form : List Char} (isForm : Form plain cs form)
    (shape : cursor.rest = ' ' :: ' ' :: '-' :: ' ' :: (form ++ '\n' :: rest))
    (start : cursor.column = 0) (resumes : Resumes 3 rest) (started : Bool) :
    Reaches (outside cursor tokens (listIndents started) true) rest
      (.scalar plain (String.ofList cs) :: .blockEntry :: starting started .blockList tokens)
      [3, 1] := by
  obtain ⟨-, next, column, -⟩ := Cursor.dropWhile_indent shape (by decide) start
  have further : (cursor.skip 3).column = 3 := by
    change (cursor.skip 2).step.column = 3
    rw [Cursor.column_step next rfl (by decide), column]
  have inside : (cursor.skip 3).rest = ' ' :: (form ++ '\n' :: rest) :=
    (Cursor.along_step next rfl).rest
  exact .of_leads (leads_dash shape start started)
    (reaches_form isForm inside resumes (Nat.le_of_eq further.symm))

/-- The words that are keys: a letter, and then letters and hyphens. -/
structure IsKeyWord (word : List Char) : Prop where
  start : word.head?.any Char.isAlpha = true
  letters : ∀ c ∈ word, c.isAlpha = true ∨ c = '-'

instance : DecidablePred IsKeyWord := fun word =>
  decidable_of_iff (word.head?.any Char.isAlpha = true ∧
      (word.all fun c => c.isAlpha || c == '-') = true)
    ⟨fun ⟨start, letters⟩ => ⟨start, by simpa using letters⟩,
      fun ⟨start, letters⟩ => ⟨start, by simpa using letters⟩⟩

theorem IsKeyWord.exists_cons (isKey : IsKeyWord word) :
    ∃ c rest, word = c :: rest ∧ c.isAlpha = true := by
  cases word with
  | nil => cases isKey.start
  | cons c rest => exact ⟨c, rest, rfl, isKey.start⟩

theorem IsKeyWord.inner (isKey : IsKeyWord word) : ∀ c ∈ word, isInner c = true := by
  intro c member
  rcases isKey.letters c member with letter | rfl
  · exact (plain_of_isAlpha letter).1
  · rfl

private theorem readPlain_key (isKey : IsKeyWord word) (shape : cursor.rest = word ++ ':' :: rest)
    (ends : isBlankOrEnd (rest.head?.getD endMark) = true) (indent : Nat) :
    readPlain false indent cursor.rest.length cursor =
      ⟨word, false, cursor.skip word.length⟩ := by
  obtain ⟨c, more, rfl, -⟩ := isKey.exists_cons
  have stops : plainLength false (':' :: rest) = 0 := by
    rw [plainLength]
    simp [ends]
  have along := Cursor.along_skip shape (inLine_of_isInner isKey.inner)
  have gap := @readPlainGap_spaces _ _ _ [] (by simp) along.rest (by decide) rfl
  have positive : cursor.rest.length ≠ 0 := by rw [shape]; simp
  obtain ⟨fuel, size⟩ := Nat.exists_eq_add_one_of_ne_zero positive
  rw [size, readPlain_word indent fuel (List.cons_ne_nil _ _) isKey.inner shape stops, gap]
  rfl

private theorem isIndicator_ascii : ∀ n < 128, (Char.ofNat n).isAlpha = true →
    isIndicator (Char.ofNat n) = false := by
  decide

private theorem isIndicator_of_isAlpha {c : Char} (letter : c.isAlpha = true) :
    isIndicator c = false := by
  have plain := isIndicator_ascii c.toNat (toNat_lt_of_isAlpha letter)
  rw [Char.ofNat_toNat] at plain
  exact plain letter

/-- A word at the start of a line is scanned up to its colon, and its place is remembered. -/
theorem scanToken_key (isKey : IsKeyWord word) (shape : cursor.rest = word ++ ':' :: rest)
    (ends : isBlankOrEnd (rest.head?.getD endMark) = true) :
    (outside cursor tokens indents true).scanToken =
      .ok ⟨cursor.skip word.length, .scalar true (String.ofList word) :: tokens, 0, indents, false,
        places cursor tokens indents true⟩ := by
  have read := readPlain_key isKey shape ends (indents.head?.getD 0)
  obtain ⟨c, more, rfl, letter⟩ := isKey.exists_cons
  have head : cursor.head = c := Cursor.head_of_cons shape
  obtain ⟨-, dash, point⟩ := plain_of_isAlpha letter
  have opens : Opens cursor.head (cursor.peek 1) := .inl (head ▸ isIndicator_of_isAlpha letter)
  rw [← head] at dash point
  exact (scanToken_plain rfl opens (.inr ⟨dash, point⟩)).trans (scanPlain_outside read)

/-- The state behind a word that may turn out to be a key. -/
def behindWord (cursor next : Cursor) (tokens : List Token) (started : Bool) (word : String) : Scan :=
  ⟨next, .scalar true word :: tokens, 0, mapIndents started, false,
    places cursor tokens (mapIndents started) true⟩

private theorem scanToken_colon (scan : Scan) (head : scan.cursor.head = ':')
    (ends : isBlankOrEnd (scan.cursor.peek 1) = true) : scan.scanToken = scan.scanValue := by
  have noMarker (mark : Char) (differs : ':' ≠ mark) : scan.cursor.startsMarker mark = false :=
    Cursor.startsMarker_eq_false (by rwa [head])
  simp [scanToken, head, ends, noMarker]

/-- The colon behind a word makes it a key, and starts its map. -/
theorem scanValue_behindWord (next : Cursor) (start : cursor.column = 0) (started : Bool)
    (word : String) :
    (behindWord cursor next tokens started word).scanValue =
      .ok (outside next.step
        (.value :: .scalar true word :: .key :: starting started .blockMap tokens) [1] false) := by
  have one : tokens.length + 1 - tokens.length = 1 := by omega
  have two : tokens.length + 1 + 1 - tokens.length = 2 := by omega
  cases started <;>
    simp [behindWord, scanValue, places, outside, insert, inFlow, deepen, indent, mapIndents, start,
      starting, push, skip, Cursor.skip, one, two]

/-- On the same line a place is kept for a limited count of characters. -/
theorem isStale_behindWord (tokens : List Token) {next : Cursor}
    (along : Cursor.Along cursor word rest next) (started : Bool) (text : String) :
    ∀ place ∈ places cursor tokens (mapIndents started) true,
      (behindWord cursor next tokens started text).isStale place = decide (1024 < word.length) := by
  intro place member
  obtain rfl := List.mem_singleton.mp member
  have size : next.index - cursor.index = word.length := by
    have := along.index
    omega
  simp [isStale, behindWord, along.line, size]

private theorem toNextToken_colon {scan : Scan} (fuel : Nat) (head : scan.cursor.head = ':') :
    scan.toNextToken (fuel + 1) = scan := by
  have stays : scan.cursor.dropWhile (· == ' ') = scan.cursor :=
    Cursor.dropWhile_of_head (by rw [head]; rfl)
  rw [toNextToken_content] <;> rw [stays]
  · rw [head]
    rfl
  · rw [head]
    decide

private theorem prepare_behindWord {next : Cursor}
    (along : Cursor.Along cursor word (':' :: rest) next)
    (short : word.length ≤ 1024) (started : Bool) (text : String) :
    (behindWord cursor next tokens started text).prepare =
      .ok (behindWord cursor next tokens started text) := by
  have fresh := isStale_behindWord tokens along started text
  rw [decide_eq_false (Nat.not_lt.mpr short)] at fresh
  have shallow : (behindWord cursor next tokens started text).indent ≤ next.column + 1 := by
    change (mapIndents started).head?.getD 0 ≤ next.column + 1
    cases started <;> simp [mapIndents]
  rw [prepare, toNextToken_colon _ (Cursor.head_of_cons along.rest), dropStale_of_fresh fresh]
  exact congrArg _ (unwind_of_le shallow)

/-- A word that is too long for a key is not one: where a key has to stand this is an error, and
where it need not, its colon is out of place. -/
theorem run_behindWord {next : Cursor} (along : Cursor.Along cursor word (':' :: rest) next)
    (long : 1024 < word.length) (start : cursor.column = 0)
    (ends : isBlankOrEnd (rest.head?.getD endMark) = true) (started : Bool) (text : String)
    (fuel : Nat) : (behindWord cursor next tokens started text).run fuel = .error .malformed := by
  have stale := isStale_behindWord tokens along started text
  rw [decide_eq_true long] at stale
  have head : next.head = ':' := Cursor.head_of_cons along.rest
  cases fuel with
  | zero => rfl
  | succ fuel =>
  rw [run_succ, prepare, toNextToken_colon _ head]
  cases started with
  | true =>
    have refused : (behindWord cursor next tokens true text).dropStale = .error .malformed := by
      have first := stale _ (List.mem_singleton.mpr rfl)
      have due : ((behindWord cursor next tokens true text).keyPlaces.any fun place =>
          (behindWord cursor next tokens true text).isStale place && place.required) = true := by
        rw [List.any_eq_true]
        refine ⟨_, List.mem_singleton.mpr rfl, ?_⟩
        rw [first]
        simp [mapIndents, start]
      rw [dropStale, due]
      rfl
    rw [refused]
    rfl
  | false =>
    have dropped : (behindWord cursor next tokens false text).dropStale =
        .ok (outside next (.scalar true text :: tokens) [] false) := by
      refine dropStale_of_stale fun place member => ⟨?_, stale place member⟩
      obtain rfl := List.mem_singleton.mp member
      rfl
    have alone : isBlankOrEnd (next.peek 1) = true := by
      rw [← ends, Cursor.peek, along.rest]
      cases rest <;> rfl
    have token : (outside next (.scalar true text :: tokens) [] false).scanToken =
        .error .malformed := by
      rw [scanToken_colon _ head alone]
      rfl
    rw [dropped]
    change proceed fuel (outside next (.scalar true text :: tokens) [] false) = _
    rw [proceed, token]
    change (if next.rest.isEmpty then _ else _) = _
    rw [along.rest]
    rfl

/-- A word at the start of a line is scanned first. -/
theorem prepare_word (isKey : IsKeyWord word) (shape : cursor.rest = word ++ ':' :: rest)
    (started : Bool) : (outside cursor tokens (mapIndents started) true).prepare =
      .ok (outside cursor tokens (mapIndents started) true) := by
  obtain ⟨c, more, rfl, letter⟩ := isKey.exists_cons
  obtain ⟨space, comment, inLine⟩ := isInner_ne (plain_of_isAlpha letter).1
  rw [← Cursor.head_of_cons shape] at space comment inLine
  have stays : cursor.dropWhile (· == ' ') = cursor :=
    Cursor.dropWhile_of_head (by simpa using space)
  have shallow : (outside cursor tokens (mapIndents started) true).indent ≤ cursor.column + 1 := by
    change (mapIndents started).head?.getD 0 ≤ cursor.column + 1
    cases started <;> simp [mapIndents]
  rw [prepare_outside] <;> rw [stays]
  · rw [unwind_of_le shallow]
  · exact inLine
  · exact comment

theorem leads_word (isKey : IsKeyWord word) (shape : cursor.rest = word ++ ':' :: rest)
    (ends : isBlankOrEnd (rest.head?.getD endMark) = true) (started : Bool) :
    Leads (outside cursor tokens (mapIndents started) true)
      (behindWord cursor (cursor.skip word.length) tokens started (String.ofList word)) := by
  have along := Cursor.along_skip shape (inLine_of_isInner isKey.inner)
  obtain ⟨c, more, rfl, -⟩ := isKey.exists_cons
  refine Leads.of_token (prepare_word isKey shape started) ?_ (scanToken_key isKey shape ends) rfl ?_
  · rw [outside, shape]
    exact List.cons_ne_nil _ _
  · rw [behindWord, outside, along.rest, shape]
    simp only [List.cons_append, List.length_cons, List.length_append]
    omega

/-- The key of a line, up to its colon. -/
theorem leads_key (isKey : IsKeyWord word) (short : word.length ≤ 1024)
    (shape : cursor.rest = word ++ ':' :: rest) (start : cursor.column = 0)
    (ends : isBlankOrEnd (rest.head?.getD endMark) = true) (started : Bool) :
    Leads (outside cursor tokens (mapIndents started) true)
      (outside (cursor.skip word.length).step
        (.value :: .scalar true (String.ofList word) :: .key :: starting started .blockMap tokens)
        [1] false) := by
  have along := Cursor.along_skip shape (inLine_of_isInner isKey.inner)
  have head : (cursor.skip word.length).head = ':' := Cursor.head_of_cons along.rest
  have alone : isBlankOrEnd ((cursor.skip word.length).peek 1) = true := by
    rw [← ends, Cursor.peek, along.rest]
    cases rest <;> rfl
  have token := (scanToken_colon (behindWord cursor _ tokens started (String.ofList word)) head
    alone).trans (scanValue_behindWord _ start started _)
  refine (leads_word isKey shape ends started).trans
    (Leads.of_token (prepare_behindWord along short started _) ?_ token rfl ?_)
  · rw [behindWord, along.rest]
    exact List.cons_ne_nil _ _
  · rw [behindWord, outside, along.rest, (Cursor.along_step along.rest rfl).rest]
    exact Nat.lt_succ_self _

end EditorPlugins.Yaml.Scan
