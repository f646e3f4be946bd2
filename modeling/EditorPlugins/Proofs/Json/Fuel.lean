import EditorPlugins.Json.Reader
import EditorPlugins.Proofs.Outcome

/-! # Fuel for reading

Whatever is read leaves less text than there was, so the depth and the count of the tokens that
remain are bounded by the length of the text. Twice the length is enough fuel; more of it does not
change what is read.
-/

namespace EditorPlugins.Json

open Number

theorem skipSpace_length_le (cs : List Char) : (skipSpace cs).length ≤ cs.length :=
  (List.dropWhile_sublist _).length_le

theorem length_lt_of_skipSpace {cs rest : List Char} {c : Char} (next : skipSpace cs = c :: rest) :
    rest.length < cs.length := by
  have shorter := skipSpace_length_le cs
  rw [next, List.length_cons] at shorter
  exact shorter

private theorem consPart_eq_ok_iff {part : Part} {read : Except Stop (List Part × List Char)}
    {parts : List Part} {rest : List Char} :
    consPart part read = .ok (parts, rest) ↔
      ∃ others, read = .ok (others, rest) ∧ parts = part :: others := by
  simp only [consPart, Outcome.map_eq_ok_iff, Prod.mk.injEq, Prod.exists]
  constructor
  · rintro ⟨others, rest, found, rfl, rfl⟩
    exact ⟨others, found, rfl⟩
  · rintro ⟨others, found, rfl⟩
    exact ⟨others, rest, found, rfl, rfl⟩

private theorem readParts_length_lt {left : Nat} {cs rest : List Char} {parts : List Part}
    (read : readParts left cs = .ok (parts, rest)) : rest.length < cs.length := by
  fun_induction readParts left cs generalizing parts with
  | case1 => cases read
  | case2 rest =>
    cases read
    exact Nat.lt_succ_self _
  | case3 => cases read
  | case4 a b c d cs _ _ _ ih =>
    obtain ⟨others, found, -⟩ := consPart_eq_ok_iff.mp read
    have shorter := ih found
    simp only [List.length_cons]
    omega
  | case5 => cases read
  | case6 => cases read
  | case7 c cs _ _ _ _ ih =>
    obtain ⟨others, found, -⟩ := consPart_eq_ok_iff.mp read
    have shorter := ih found
    simp only [List.length_cons]
    omega
  | case8 => cases read
  | case9 => cases read
  | case10 c cs _ _ _ _ _ _ ih =>
    obtain ⟨others, found, -⟩ := consPart_eq_ok_iff.mp read
    exact Nat.lt_succ_of_lt (ih found)

theorem readText_length_lt {left : Nat} {cs text rest : List Char}
    (read : readText left cs = .ok (text, rest)) : rest.length < cs.length := by
  simp only [readText, Outcome.map_eq_ok_iff, Prod.mk.injEq, Prod.exists] at read
  obtain ⟨parts, _, found, -, rfl⟩ := read
  exact readParts_length_lt found

/-- The digits of ASCII. -/
def isFigure (c : Char) : Bool := '0' ≤ c && c ≤ '9'

theorem splitDigits_eq (cs : List Char) :
    splitDigits cs = ((cs.takeWhile isFigure).map (·.toNat - 0x30), cs.dropWhile isFigure) := by
  induction cs with
  | nil => rfl
  | cons c cs ih =>
    rw [splitDigits, List.takeWhile_cons, List.dropWhile_cons, ih, isFigure]
    split <;> rfl

private theorem splitDigits_length_le (cs : List Char) : (splitDigits cs).2.length ≤ cs.length := by
  rw [splitDigits_eq]
  exact (List.dropWhile_sublist _).length_le

private theorem splitWhole_length_lt {cs rest : List Char} {digits : List Nat}
    (cut : splitWhole cs = (digits, rest)) (nonempty : digits ≠ []) : rest.length < cs.length := by
  unfold splitWhole at cut
  split at cut
  · cases cut
    exact Nat.lt_succ_self _
  · rw [splitDigits_eq] at cut
    cases cut
    cases cs with
    | nil => exact absurd rfl nonempty
    | cons c cs =>
      cases figure : isFigure c with
      | false => simp [figure] at nonempty
      | true =>
        rw [List.dropWhile_cons, figure]
        exact Nat.lt_succ_of_le (List.dropWhile_sublist _).length_le

private theorem splitFraction_length_le (cs : List Char) :
    (splitFraction cs).2.length ≤ cs.length := by
  unfold splitFraction
  split
  · next cs =>
    split
    · exact Nat.le_refl _
    · next cut =>
      have shorter := splitDigits_length_le cs
      rw [cut] at shorter
      exact Nat.le_succ_of_le shorter
  · exact Nat.le_refl _

private theorem splitSign_length_le (cs : List Char) : (splitSign cs).2.length ≤ cs.length := by
  unfold splitSign
  split <;> simp

private theorem splitExponent_length_le (cs : List Char) :
    (splitExponent cs).2.length ≤ cs.length := by
  unfold splitExponent
  split
  · next mark rest =>
    split
    · have unsigned := splitSign_length_le rest
      have shorter := splitDigits_length_le (splitSign rest).2
      simp only
      split
      · exact Nat.le_refl _
      · next cut =>
        rw [cut] at shorter
        exact Nat.le_succ_of_le (Nat.le_trans shorter unsigned)
    · exact Nat.le_refl _
  · exact Nat.le_refl _

/-- Read a number behind its sign. -/
def readUnsigned (negative : Bool) (cs unsigned : List Char) : Except Stop (Value × List Char) :=
  match splitWhole unsigned with
  | ([], _) => stopAt .expectingValue cs
  | (whole, rest) =>
    let (fraction, rest) := splitFraction rest
    let (exponent, rest) := splitExponent rest
    if fraction.isNone && exponent.isNone then
      match readNat whole with
      | .ok n => .ok (.int (signed negative n), rest)
      | .error error => .error (.number error)
    else
      let fraction := fraction.getD []
      let power := exponent.getD 0 - fraction.length
      .ok (.float (Double.ofDecimal negative (whole ++ fraction) power), rest)

theorem readNumber_minus (cs : List Char) :
    readNumber ('-' :: cs) = readUnsigned true ('-' :: cs) cs := rfl

theorem readNumber_plain {cs : List Char} (unsigned : cs.head? ≠ some '-') :
    readNumber cs = readUnsigned false cs cs := by
  cases cs with
  | nil => rfl
  | cons c cs =>
    have other : c ≠ '-' := fun same => unsigned (congrArg some same)
    simp only [readNumber, List.cons.injEq, other, false_and, imp_false, not_false_eq_true,
      implies_true]
    rfl

private theorem readUnsigned_length_lt {negative : Bool} {cs unsigned rest : List Char}
    {value : Value}
    (read : readUnsigned negative cs unsigned = .ok (value, rest)) :
    rest.length < unsigned.length := by
  simp only [readUnsigned] at read
  split at read
  · cases read
  next digits behind nonempty cut =>
  have whole := splitWhole_length_lt cut nonempty
  have fraction := splitFraction_length_le behind
  have exponent := splitExponent_length_le (splitFraction behind).2
  split at read
  · split at read
    · cases read
      omega
    · cases read
  · cases read
    omega

private theorem readNumber_length_lt {cs rest : List Char} {value : Value}
    (read : readNumber cs = .ok (value, rest)) : rest.length < cs.length := by
  by_cases minus : cs.head? = some '-'
  · obtain ⟨unsigned, rfl⟩ := List.head?_eq_some_iff.mp minus
    rw [readNumber_minus] at read
    exact Nat.lt_succ_of_lt (readUnsigned_length_lt read)
  · rw [readNumber_plain minus] at read
    exact readUnsigned_length_lt read

private theorem readScalar_length_lt {cs rest : List Char} {value : Value}
    (read : readScalar cs = .ok (value, rest)) : rest.length < cs.length := by
  have nonempty : ∀ name ∈ names, 0 < name.1.length := by decide
  unfold readScalar at read
  split at read
  · next name _ found =>
    cases read
    have start := List.find?_some found
    simp only at start
    have positive := nonempty _ (List.mem_of_find?_eq_some found)
    have whole := (List.isPrefixOf_iff_prefix.mp start).length_le
    simp only [List.length_drop] at positive whole ⊢
    omega
  · exact readNumber_length_lt read

/-- What is read with some fuel leaves less text than there was. -/
structure Consumes (fuel : Nat) : Prop where
  value : ∀ {cs value rest}, readValue fuel cs = .ok (value, rest) → rest.length < cs.length
  items : ∀ {cs items rest}, readItems fuel cs = .ok (items, rest) → rest.length < cs.length
  members : ∀ {before cs entries rest}, readMembers fuel before cs = .ok (entries, rest) →
    rest.length < cs.length

section Steps

variable {fuel : Nat} (less : Consumes fuel) {cs rest : List Char}

include less

private theorem readValue_length_lt {value : Value}
    (read : readValue (fuel + 1) cs = .ok (value, rest)) : rest.length < cs.length := by
  cases cs with
  | nil => cases read
  | cons c cs =>
    rw [readValue] at read
    split at read
    · simp only [Outcome.map_eq_ok_iff, Prod.mk.injEq, Prod.exists] at read
      obtain ⟨text, _, found, -, rfl⟩ := read
      exact Nat.lt_succ_of_lt (readText_length_lt found)
    have spaces := skipSpace_length_le cs
    split at read
    · split at read
      · next close =>
        cases read
        exact Nat.lt_succ_of_lt (length_lt_of_skipSpace close)
      · simp only [Outcome.map_eq_ok_iff, Prod.mk.injEq, Prod.exists] at read
        obtain ⟨items, _, found, -, rfl⟩ := read
        exact Nat.lt_succ_of_lt (Nat.lt_of_lt_of_le (less.items found) spaces)
    split at read
    · split at read
      · next close =>
        cases read
        exact Nat.lt_succ_of_lt (length_lt_of_skipSpace close)
      · simp only [Outcome.map_eq_ok_iff, Prod.mk.injEq, Prod.exists] at read
        obtain ⟨entries, _, found, -, rfl⟩ := read
        exact Nat.lt_succ_of_lt (Nat.lt_of_lt_of_le (less.members found) spaces)
    · exact readScalar_length_lt read

private theorem readItems_length_lt {items : List Value}
    (read : readItems (fuel + 1) cs = .ok (items, rest)) : rest.length < cs.length := by
  rw [readItems] at read
  simp only [Outcome.bind_eq_ok_iff, Prod.exists] at read
  obtain ⟨item, behind, first, read⟩ := read
  have one := less.value first
  split at read
  · next close =>
    cases read
    exact Nat.lt_trans (length_lt_of_skipSpace close) one
  · next more comma =>
    simp only [Outcome.bind_eq_ok_iff, Outcome.pure_eq_ok_iff, Prod.mk.injEq, Prod.exists] at read
    obtain ⟨others, _, later, -, rfl⟩ := read
    have shorter := less.items later
    have spaces := skipSpace_length_le more
    have behindComma := length_lt_of_skipSpace comma
    omega
  · cases read

private theorem readMembers_length_lt {before entries : Mapping}
    (read : readMembers (fuel + 1) before cs = .ok (entries, rest)) : rest.length < cs.length := by
  unfold readMembers at read
  split at read
  case h_2 => cases read
  simp only [Outcome.bind_eq_ok_iff, Prod.exists] at read
  obtain ⟨key, behind, named, read⟩ := read
  have name := readText_length_lt named
  split at read
  case h_2 => cases read
  next following colon =>
  simp only [Outcome.bind_eq_ok_iff, Outcome.pure_eq_ok_iff, Prod.exists] at read
  obtain ⟨_, rfl, value, after, first, read⟩ := read
  have one := less.value first
  have behindColon := length_lt_of_skipSpace colon
  have spaces := skipSpace_length_le following
  split at read
  · next close =>
    cases read
    have behindValue := length_lt_of_skipSpace close
    simp only [List.length_cons]
    omega
  · next more comma =>
    have shorter := less.members read
    have behindComma := length_lt_of_skipSpace comma
    have more := skipSpace_length_le more
    simp only [List.length_cons]
    omega
  · cases read

end Steps

theorem consumes (fuel : Nat) : Consumes fuel := by
  induction fuel with
  | zero => exact ⟨nofun, nofun, nofun⟩
  | succ fuel less =>
    exact ⟨readValue_length_lt less, readItems_length_lt less, readMembers_length_lt less⟩

/-- Once the fuel is enough for a text, one more does not change what is read of it. -/
structure Settled (fuel : Nat) : Prop where
  value : ∀ {cs}, 2 * cs.length ≤ fuel → readValue (fuel + 1) cs = readValue fuel cs
  items : ∀ {cs}, 2 * cs.length < fuel → readItems (fuel + 1) cs = readItems fuel cs
  members : ∀ {before cs}, 2 * cs.length < fuel →
    readMembers (fuel + 1) before cs = readMembers fuel before cs

theorem readValue_of_bracket (fuel : Nat) (cs : List Char) :
    readValue (fuel + 1) ('[' :: cs) =
      if (skipSpace cs).head? = some ']' then .ok (.list [], (skipSpace cs).tail)
      else (readItems fuel (skipSpace cs)).map fun (items, rest) => (.list items, rest) := by
  simp only [readValue, Char.reduceEq, if_false, if_true]
  split
  · next close => simp [close]
  · next other =>
    rw [if_neg]
    intro start
    obtain ⟨rest, close⟩ := List.head?_eq_some_iff.mp start
    exact other rest close

theorem readValue_of_brace (fuel : Nat) (cs : List Char) :
    readValue (fuel + 1) ('\x7b' :: cs) =
      if (skipSpace cs).head? = some '\x7d' then .ok (.map [], (skipSpace cs).tail)
      else (readMembers fuel [] (skipSpace cs)).map fun (entries, rest) => (.map entries, rest) := by
  simp only [readValue, Char.reduceEq, if_false, if_true]
  split
  · next close => simp [close]
  · next other =>
    rw [if_neg]
    intro start
    obtain ⟨rest, close⟩ := List.head?_eq_some_iff.mp start
    exact other rest close

section More

variable {fuel : Nat} (enough : Settled fuel) {cs : List Char}

include enough

private theorem readValue_succ (bound : 2 * cs.length ≤ fuel + 1) :
    readValue (fuel + 2) cs = readValue (fuel + 1) cs := by
  cases cs with
  | nil => rfl
  | cons c cs =>
    have spaces := skipSpace_length_le cs
    simp only [List.length_cons] at bound
    by_cases bracket : c = '['
    · rw [bracket, readValue_of_bracket, readValue_of_bracket, enough.items (by omega)]
    by_cases brace : c = '\x7b'
    · rw [brace, readValue_of_brace, readValue_of_brace, enough.members (by omega)]
    · simp only [readValue, bracket, brace, if_false]

private theorem readItems_succ (bound : 2 * cs.length < fuel + 1) :
    readItems (fuel + 2) cs = readItems (fuel + 1) cs := by
  rw [readItems, readItems, enough.value (by omega)]
  cases first : readValue fuel cs with
  | error stop => rfl
  | ok read =>
    obtain ⟨item, rest⟩ := read
    have one := (consumes fuel).value first
    simp only [bind, Except.bind]
    split
    · rfl
    · next more comma =>
      have behind := length_lt_of_skipSpace comma
      have spaces := skipSpace_length_le more
      rw [enough.items (by omega)]
    · rfl

private theorem readMembers_succ {before : Mapping} (bound : 2 * cs.length < fuel + 1) :
    readMembers (fuel + 2) before cs = readMembers (fuel + 1) before cs := by
  cases cs with
  | nil => rfl
  | cons c cs =>
    simp only [List.length_cons] at bound
    unfold readMembers
    split
    case h_2 => rfl
    next text same =>
    cases same
    cases named : readText (cs.length + 1) cs with
    | error stop => simp [bind, Except.bind]
    | ok read =>
    obtain ⟨key, rest⟩ := read
    have name := readText_length_lt named
    simp only [bind, Except.bind]
    split
    case h_2 => rfl
    next following colon =>
    have behindColon := length_lt_of_skipSpace colon
    have spaces := skipSpace_length_le following
    simp only [pure, Except.pure]
    rw [enough.value (by omega)]
    cases first : readValue fuel (skipSpace following) with
    | error stop => rfl
    | ok read =>
    obtain ⟨value, rest⟩ := read
    have one := (consumes fuel).value first
    simp only
    split
    · rfl
    · next more comma =>
      have behindComma := length_lt_of_skipSpace comma
      have more := skipSpace_length_le more
      exact enough.members (by omega)
    · rfl

end More

theorem settled (fuel : Nat) : Settled fuel := by
  induction fuel with
  | zero =>
    refine ⟨fun {cs} bound => ?_, nofun, nofun⟩
    obtain rfl : cs = [] := List.length_eq_zero_iff.mp (by omega)
    rfl
  | succ fuel enough =>
    exact ⟨readValue_succ enough, readItems_succ enough, readMembers_succ enough⟩

/-- Read the value that a text starts with. -/
def readFirst (cs : List Char) : Except Stop (Value × List Char) := readValue (2 * cs.length) cs

/-- Any fuel that is enough reads the same value. -/
theorem readValue_eq_readFirst {fuel : Nat} {cs : List Char} (enough : 2 * cs.length ≤ fuel) :
    readValue fuel cs = readFirst cs := by
  induction enough with
  | refl => rfl
  | step enough ih => rw [(settled _).value enough, ih]

end EditorPlugins.Json
