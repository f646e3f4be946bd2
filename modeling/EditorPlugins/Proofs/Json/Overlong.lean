import EditorPlugins.Json.Document
import EditorPlugins.Proofs.Json.Fuel
import EditorPlugins.Proofs.Json.Number
import EditorPlugins.Proofs.Traced

/-! # Numbers that documents cannot hold

A text that is not JSON has a fault. Reading stops for another reason only where it comes to a whole
number with too many digits; what stands before the number has been read then, so it tells whether
reading comes there at all.
-/

namespace EditorPlugins.Json

open Number

/-- A point and a digit. -/
inductive StartsFraction : List Char → Prop where
  | intro {c : Char} {rest : List Char} (figure : isFigure c = true) :
      StartsFraction ('.' :: c :: rest)

/-- The mark of an exponent and a digit, with or without a sign between them. -/
inductive StartsExponent : List Char → Prop where
  | unsigned {mark c : Char} {rest : List Char} (isMark : mark = 'e' ∨ mark = 'E')
      (figure : isFigure c = true) : StartsExponent (mark :: c :: rest)
  | signed {mark sign c : Char} {rest : List Char} (isMark : mark = 'e' ∨ mark = 'E')
      (isSign : sign = '-' ∨ sign = '+') (figure : isFigure c = true) :
      StartsExponent (mark :: sign :: c :: rest)

/-- A text starts with more digits than can be converted, and they are a whole number of their own:
no zero comes first, and neither a fraction nor an exponent comes behind. -/
structure StartsLongRun (cs : List Char) : Prop where
  noZero : cs.head? ≠ some '0'
  long : digitLimit < (cs.takeWhile isFigure).length
  noFraction : ¬StartsFraction (cs.dropWhile isFigure)
  noExponent : ¬StartsExponent (cs.dropWhile isFigure)

/-- A text starts with a whole number that has too many digits. -/
inductive StartsOverlong : List Char → Prop where
  | unsigned {cs : List Char} (run : StartsLongRun cs) : StartsOverlong cs
  | negative {cs : List Char} (run : StartsLongRun cs) : StartsOverlong ('-' :: cs)

private theorem splitDigits_ne_nil_iff {cs : List Char} :
    (splitDigits cs).1 ≠ [] ↔ ∃ c rest, cs = c :: rest ∧ isFigure c = true := by
  rw [splitDigits_eq]
  cases cs with
  | nil => simp
  | cons c cs => cases figure : isFigure c <;> simp [figure]

private theorem splitSign_of_figure {c : Char} {cs : List Char} (figure : isFigure c = true) :
    (splitSign (c :: cs)).2 = c :: cs := by
  unfold splitSign
  split
  · next same => exact absurd ((List.cons.inj same).1 ▸ figure) (by decide)
  · next same => exact absurd ((List.cons.inj same).1 ▸ figure) (by decide)
  · rfl

private theorem splitFraction_eq_none_iff {cs : List Char} :
    (splitFraction cs).1 = none ↔ ¬StartsFraction cs := by
  have point (rest : List Char) : StartsFraction ('.' :: rest) ↔ (splitDigits rest).1 ≠ [] := by
    rw [splitDigits_ne_nil_iff]
    constructor
    · rintro ⟨figure⟩
      exact ⟨_, _, rfl, figure⟩
    · rintro ⟨c, more, rfl, figure⟩
      exact .intro figure
  unfold splitFraction
  split
  · next rest =>
    rw [point, not_not]
    split
    · next cut => simp [cut]
    · next found cut => simpa [cut] using found
  · next other =>
    refine iff_of_true rfl fun starts => ?_
    cases starts with
    | intro figure => exact other _ rfl

private theorem splitExponent_eq_none_iff {cs : List Char} :
    (splitExponent cs).1 = none ↔ ¬StartsExponent cs := by
  have marked {mark : Char} (isMark : mark = 'e' ∨ mark = 'E') (rest : List Char) :
      StartsExponent (mark :: rest) ↔ (splitDigits (splitSign rest).2).1 ≠ [] := by
    rw [splitDigits_ne_nil_iff]
    constructor
    · intro starts
      cases starts with
      | unsigned _ figure =>
        exact ⟨_, _, splitSign_of_figure figure, figure⟩
      | signed _ isSign figure =>
        rcases isSign with rfl | rfl <;> exact ⟨_, _, rfl, figure⟩
    · rintro ⟨c, more, cut, figure⟩
      unfold splitSign at cut
      split at cut
      · cases cut
        exact .signed isMark (.inl rfl) figure
      · cases cut
        exact .signed isMark (.inr rfl) figure
      · cases cut
        exact .unsigned isMark figure
  unfold splitExponent
  split
  · next mark rest =>
    split
    · next isMark =>
      simp only [Bool.or_eq_true, decide_eq_true_eq] at isMark
      rw [marked isMark, not_not]
      simp only
      split
      · next cut => simp [cut]
      · next found cut => simpa [cut] using found
    · next other =>
      refine iff_of_true rfl fun starts => other ?_
      cases starts <;> simpa
  · exact iff_of_true rfl nofun

/-- Reading stops at a whole number with too many digits. -/
def StopsAtNumber {α : Type} (read : Except Stop α) : Prop := ∃ cause, read = .error (.number cause)

private theorem stopsAtNumber_map_iff {α β : Type} {read : Except Stop α} {f : α → β} :
    StopsAtNumber (read.map f) ↔ StopsAtNumber read := by
  cases read <;> simp [StopsAtNumber, Except.map]

private theorem stopsAtNumber_bind_iff {α β : Type} {first : Except Stop α}
    {next : α → Except Stop β} :
    StopsAtNumber (first >>= next) ↔
      StopsAtNumber first ∨ ∃ value, first = .ok value ∧ StopsAtNumber (next value) := by
  cases first <;> simp [StopsAtNumber, bind, Except.bind]

private theorem not_stopsAtNumber_ok {α : Type} (value : α) : ¬StopsAtNumber (.ok value) := nofun

private theorem not_stopsAtNumber_fault {α : Type} (fault : Fault) (left : Nat) :
    ¬StopsAtNumber (.error (.fault fault left) : Except Stop α) := nofun

private theorem not_stopsAtNumber_stopAt {α : Type} (fault : Fault) (rest : List Char) :
    ¬StopsAtNumber (stopAt fault rest : Except Stop α) :=
  not_stopsAtNumber_fault fault rest.length

private theorem splitFraction_snd_of_none {cs : List Char} (none : (splitFraction cs).1 = none) :
    (splitFraction cs).2 = cs := by
  unfold splitFraction at none ⊢
  split
  · split
    · rfl
    · next cut => simp [cut] at none
  · rfl

private theorem readNat_eq_ok {digits : List Nat} (within : digits.length ≤ digitLimit) :
    readNat digits = .ok (Text.ofDigits 10 digits) := if_pos within

private theorem readNat_eq_error {digits : List Nat} (beyond : digitLimit < digits.length) :
    readNat digits = .error (.tooManyDigits digits.length) := if_neg (Nat.not_le.mpr beyond)

private theorem stopsAtNumber_readUnsigned {negative : Bool} {cs unsigned : List Char} :
    StopsAtNumber (readUnsigned negative cs unsigned) ↔
      digitLimit < (splitWhole unsigned).1.length ∧
        ¬StartsFraction (splitWhole unsigned).2 ∧ ¬StartsExponent (splitWhole unsigned).2 := by
  simp only [readUnsigned]
  split
  · next cut => simp [cut, not_stopsAtNumber_stopAt]
  next digits rest nonempty cut =>
  rw [← splitFraction_eq_none_iff, ← splitExponent_eq_none_iff, cut]
  split
  · next neither =>
    simp only [Bool.and_eq_true, Option.isNone_iff_eq_none] at neither
    have whole := splitFraction_snd_of_none neither.1
    rw [whole] at neither ⊢
    by_cases beyond : digitLimit < digits.length
    · rw [readNat_eq_error beyond]
      exact iff_of_true ⟨_, rfl⟩ ⟨beyond, neither⟩
    · rw [readNat_eq_ok (Nat.le_of_not_lt beyond)]
      exact iff_of_false (not_stopsAtNumber_ok _) fun both => beyond both.1
  · next either =>
    refine iff_of_false (not_stopsAtNumber_ok _) ?_
    rintro ⟨-, fraction, exponent⟩
    apply either
    rw [splitFraction_snd_of_none fraction, fraction, exponent]
    rfl

private theorem lt_length_splitWhole_iff {cs : List Char} :
    digitLimit < (splitWhole cs).1.length ↔
      cs.head? ≠ some '0' ∧ digitLimit < (cs.takeWhile isFigure).length := by
  unfold splitWhole
  split
  · simp [digitLimit]
  · next other =>
    have noZero : cs.head? ≠ some '0' := fun zero => by
      obtain ⟨rest, rfl⟩ := List.head?_eq_some_iff.mp zero
      exact other rest rfl
    simp [splitDigits_eq, noZero]

private theorem splitWhole_snd {cs : List Char} (noZero : cs.head? ≠ some '0') :
    (splitWhole cs).2 = cs.dropWhile isFigure := by
  unfold splitWhole
  split
  · exact absurd rfl noZero
  · rw [splitDigits_eq]

private theorem stopsAtNumber_readUnsigned_iff {negative : Bool} {cs unsigned : List Char} :
    StopsAtNumber (readUnsigned negative cs unsigned) ↔ StartsLongRun unsigned := by
  rw [stopsAtNumber_readUnsigned]
  constructor
  · rintro ⟨long, noFraction, noExponent⟩
    obtain ⟨noZero, long⟩ := lt_length_splitWhole_iff.mp long
    rw [splitWhole_snd noZero] at noFraction noExponent
    exact ⟨noZero, long, noFraction, noExponent⟩
  · rintro ⟨noZero, long, noFraction, noExponent⟩
    rw [splitWhole_snd noZero]
    exact ⟨lt_length_splitWhole_iff.mpr ⟨noZero, long⟩, noFraction, noExponent⟩

/-- A long run of digits starts with one. -/
theorem StartsLongRun.exists_cons {cs : List Char} (run : StartsLongRun cs) :
    ∃ c rest, cs = c :: rest ∧ isFigure c = true := by
  have long := run.long
  cases cs with
  | nil => exact absurd long (Nat.not_lt_zero _)
  | cons c rest =>
    cases figure : isFigure c with
    | false => simp [figure] at long
    | true => exact ⟨c, rest, rfl, figure⟩

private theorem not_startsLongRun_minus (cs : List Char) : ¬StartsLongRun ('-' :: cs) := by
  intro run
  obtain ⟨c, rest, same, figure⟩ := run.exists_cons
  cases same
  exact absurd figure (by decide)

private theorem stopsAtNumber_readNumber_iff {cs : List Char} :
    StopsAtNumber (readNumber cs) ↔ StartsOverlong cs := by
  by_cases minus : cs.head? = some '-'
  · obtain ⟨unsigned, rfl⟩ := List.head?_eq_some_iff.mp minus
    rw [readNumber_minus, stopsAtNumber_readUnsigned_iff]
    refine ⟨.negative, fun starts => ?_⟩
    cases starts with
    | unsigned run => exact absurd run (not_startsLongRun_minus _)
    | negative run => exact run
  · rw [readNumber_plain minus, stopsAtNumber_readUnsigned_iff]
    refine ⟨.unsigned, fun starts => ?_⟩
    cases starts with
    | unsigned run => exact run
    | negative => exact absurd rfl minus

/-- No name of a value stands where a number does. -/
theorem StartsOverlong.find?_names {cs : List Char} (starts : StartsOverlong cs) :
    names.find? (fun name => name.1.isPrefixOf cs) = none := by
  cases starts with
  | unsigned run =>
    obtain ⟨c, rest, rfl, figure⟩ := run.exists_cons
    simp only [isFigure, Bool.and_eq_true, decide_eq_true_eq] at figure
    exact find?_names_of_digit figure.1 figure.2 rest
  | negative run =>
    obtain ⟨c, rest, rfl, figure⟩ := run.exists_cons
    simp only [isFigure, Bool.and_eq_true, decide_eq_true_eq] at figure
    exact find?_names_of_minus figure.1 figure.2 rest

private theorem stopsAtNumber_readScalar_iff {cs : List Char} :
    StopsAtNumber (readScalar cs) ↔ StartsOverlong cs := by
  unfold readScalar
  split
  · next found =>
    refine iff_of_false (not_stopsAtNumber_ok _) fun starts => ?_
    rw [starts.find?_names] at found
    cases found
  · exact stopsAtNumber_readNumber_iff

/-- A number starts no text, list or map. -/
theorem StartsOverlong.plain {c : Char} {cs : List Char} (starts : StartsOverlong (c :: cs)) :
    c ≠ '"' ∧ c ≠ '[' ∧ c ≠ '\x7b' := by
  cases starts with
  | unsigned run =>
    obtain ⟨_, _, same, figure⟩ := run.exists_cons
    cases same
    refine ⟨?_, ?_, ?_⟩ <;> rintro rfl <;> exact absurd figure (by decide)
  | negative => decide

/-- What is read at some point of a document. -/
inductive Task where
  | value
  | items
  | members
deriving DecidableEq

/-- Reading comes to a whole number with too many digits. What stands before it has been read, and
an item or a member of its own follows each comma. -/
inductive ComesToOverlong : Task → List Char → Prop where
  | number {cs : List Char} (starts : StartsOverlong cs) : ComesToOverlong .value cs
  | list {cs : List Char} (inside : ComesToOverlong .items (skipSpace cs)) :
      ComesToOverlong .value ('[' :: cs)
  | map {cs : List Char} (inside : ComesToOverlong .members (skipSpace cs)) :
      ComesToOverlong .value ('\x7b' :: cs)
  | item {cs : List Char} (here : ComesToOverlong .value cs) : ComesToOverlong .items cs
  | laterItem {cs rest more : List Char} {item : Value} (read : readFirst cs = .ok (item, rest))
      (comma : skipSpace rest = ',' :: more) (later : ComesToOverlong .items (skipSpace more)) :
      ComesToOverlong .items cs
  | member {cs key rest behind : List Char}
      (named : readText (cs.length + 1) cs = .ok (key, rest)) (colon : skipSpace rest = ':' :: behind)
      (here : ComesToOverlong .value (skipSpace behind)) : ComesToOverlong .members ('"' :: cs)
  | laterMember {cs key rest behind after more : List Char} {value : Value}
      (named : readText (cs.length + 1) cs = .ok (key, rest)) (colon : skipSpace rest = ':' :: behind)
      (read : readFirst (skipSpace behind) = .ok (value, after))
      (comma : skipSpace after = ',' :: more) (later : ComesToOverlong .members (skipSpace more)) :
      ComesToOverlong .members ('"' :: cs)

private theorem not_stopsAtNumber_readParts (left : Nat) (cs : List Char) :
    ¬StopsAtNumber (readParts left cs) := by
  fun_induction readParts left cs with
  | case1 => exact not_stopsAtNumber_fault _ _
  | case2 => exact not_stopsAtNumber_ok _
  | case3 => exact not_stopsAtNumber_fault _ _
  | case4 a b c d cs _ _ _ ih => rwa [consPart, stopsAtNumber_map_iff]
  | case5 => exact not_stopsAtNumber_fault _ _
  | case6 => exact not_stopsAtNumber_fault _ _
  | case7 c cs _ _ _ _ ih => rwa [consPart, stopsAtNumber_map_iff]
  | case8 => exact not_stopsAtNumber_fault _ _
  | case9 => exact not_stopsAtNumber_fault _ _
  | case10 c cs _ _ _ _ _ _ ih => rwa [consPart, stopsAtNumber_map_iff]

private theorem not_stopsAtNumber_readText (left : Nat) (cs : List Char) :
    ¬StopsAtNumber (readText left cs) := by
  rw [readText, stopsAtNumber_map_iff]
  exact not_stopsAtNumber_readParts left cs

private theorem stopsAtNumber_readItems_iff {fuel : Nat} {cs : List Char} :
    StopsAtNumber (readItems (fuel + 1) cs) ↔
      StopsAtNumber (readValue fuel cs) ∨ ∃ item rest more, readValue fuel cs = .ok (item, rest) ∧
        skipSpace rest = ',' :: more ∧ StopsAtNumber (readItems fuel (skipSpace more)) := by
  rw [readItems, stopsAtNumber_bind_iff]
  refine or_congr_right ?_
  simp only [Prod.exists]
  refine exists_congr fun item => exists_congr fun rest => ?_
  constructor
  · rintro ⟨read, stops⟩
    split at stops
    · exact absurd stops (not_stopsAtNumber_ok _)
    · next more comma =>
      rw [stopsAtNumber_bind_iff] at stops
      rcases stops with stops | ⟨_, -, stops⟩
      · exact ⟨more, read, comma, stops⟩
      · exact absurd stops (not_stopsAtNumber_ok _)
    · exact absurd stops (not_stopsAtNumber_stopAt _ _)
  · rintro ⟨more, read, comma, stops⟩
    refine ⟨read, ?_⟩
    rw [comma]
    exact stopsAtNumber_bind_iff.mpr (.inl stops)

private theorem stopsAtNumber_readMembers_iff {fuel : Nat} {before : Mapping} {cs : List Char} :
    StopsAtNumber (readMembers (fuel + 1) before ('"' :: cs)) ↔
      ∃ key rest behind, readText (cs.length + 1) cs = .ok (key, rest) ∧
        skipSpace rest = ':' :: behind ∧
        (StopsAtNumber (readValue fuel (skipSpace behind)) ∨ ∃ value after more,
          readValue fuel (skipSpace behind) = .ok (value, after) ∧ skipSpace after = ',' :: more ∧
          StopsAtNumber (readMembers fuel
            (Mapping.setField before (String.ofList key) value) (skipSpace more))) := by
  rw [readMembers, stopsAtNumber_bind_iff, or_iff_right (not_stopsAtNumber_readText _ _)]
  simp only [Prod.exists, List.length_cons]
  refine exists_congr fun key => exists_congr fun rest => ?_
  constructor
  · rintro ⟨named, stops⟩
    split at stops
    case h_2 => exact absurd stops (not_stopsAtNumber_stopAt _ _)
    next behind colon =>
    refine ⟨behind, named, colon, ?_⟩
    rw [pure_bind, stopsAtNumber_bind_iff] at stops
    simp only [Prod.exists] at stops
    refine stops.imp_right ?_
    rintro ⟨value, after, read, stops⟩
    split at stops
    · exact absurd stops (not_stopsAtNumber_ok _)
    · next more comma => exact ⟨value, after, more, read, comma, stops⟩
    · exact absurd stops (not_stopsAtNumber_stopAt _ _)
  · rintro ⟨behind, named, colon, stops⟩
    refine ⟨named, ?_⟩
    rw [colon]
    simp only [pure_bind]
    rw [stopsAtNumber_bind_iff]
    simp only [Prod.exists]
    refine stops.imp_right ?_
    rintro ⟨value, after, more, read, comma, stops⟩
    refine ⟨value, after, read, ?_⟩
    rw [comma]
    exact stops

/-- With enough fuel, reading stops at a number just when it comes to one. -/
structure StopsThere (fuel : Nat) : Prop where
  value : ∀ {cs}, 2 * cs.length ≤ fuel →
    (StopsAtNumber (readValue fuel cs) ↔ ComesToOverlong .value cs)
  items : ∀ {cs}, 2 * cs.length < fuel →
    (StopsAtNumber (readItems fuel cs) ↔ ComesToOverlong .items cs)
  members : ∀ {before cs}, 2 * cs.length < fuel →
    (StopsAtNumber (readMembers fuel before cs) ↔ ComesToOverlong .members cs)

private theorem not_comesToOverlong_nil : ¬ComesToOverlong .value [] := by
  intro comes
  cases comes with
  | number starts =>
    cases starts with
    | unsigned run =>
      obtain ⟨_, _, same, -⟩ := run.exists_cons
      cases same

private theorem comesToOverlong_bracket_iff {cs : List Char} :
    ComesToOverlong .value ('[' :: cs) ↔ ComesToOverlong .items (skipSpace cs) := by
  refine ⟨fun comes => ?_, .list⟩
  cases comes with
  | number starts => exact absurd rfl starts.plain.2.1
  | list inside => exact inside

private theorem comesToOverlong_brace_iff {cs : List Char} :
    ComesToOverlong .value ('\x7b' :: cs) ↔ ComesToOverlong .members (skipSpace cs) := by
  refine ⟨fun comes => ?_, .map⟩
  cases comes with
  | number starts => exact absurd rfl starts.plain.2.2
  | map inside => exact inside

/-- No value starts with a closing bracket. -/
theorem not_comesToOverlong_close (cs : List Char) : ¬ComesToOverlong .items (']' :: cs) := by
  intro comes
  cases comes with
  | item here =>
    cases here with
    | number starts =>
      cases starts with
      | unsigned run =>
        obtain ⟨_, _, same, figure⟩ := run.exists_cons
        cases same
        exact absurd figure (by decide)
  | laterItem read => cases read

section Steps

variable {fuel : Nat} (shorter : StopsThere fuel) {cs : List Char}

include shorter

private theorem stopsThere_value (bound : 2 * cs.length ≤ fuel + 1) :
    StopsAtNumber (readValue (fuel + 1) cs) ↔ ComesToOverlong .value cs := by
  cases cs with
  | nil => exact iff_of_false nofun not_comesToOverlong_nil
  | cons c cs =>
    have spaces := skipSpace_length_le cs
    simp only [List.length_cons] at bound
    by_cases bracket : c = '['
    · subst bracket
      rw [readValue_of_bracket, comesToOverlong_bracket_iff]
      split
      · next close =>
        obtain ⟨rest, close⟩ := List.head?_eq_some_iff.mp close
        rw [close]
        exact iff_of_false nofun (not_comesToOverlong_close rest)
      · rw [stopsAtNumber_map_iff, shorter.items (by omega)]
    by_cases brace : c = '\x7b'
    · subst brace
      rw [readValue_of_brace, comesToOverlong_brace_iff]
      split
      · next close =>
        obtain ⟨rest, close⟩ := List.head?_eq_some_iff.mp close
        rw [close]
        exact iff_of_false nofun nofun
      · rw [stopsAtNumber_map_iff, shorter.members (by omega)]
    by_cases quote : c = '"'
    · subst quote
      rw [readValue, if_pos rfl, stopsAtNumber_map_iff]
      refine iff_of_false (not_stopsAtNumber_readText _ _) fun comes => ?_
      cases comes with
      | number starts => exact absurd rfl starts.plain.1
    · simp only [readValue, quote, bracket, brace, if_false]
      rw [stopsAtNumber_readScalar_iff]
      refine ⟨.number, fun comes => ?_⟩
      cases comes with
      | number starts => exact starts
      | list => exact absurd rfl bracket
      | map => exact absurd rfl brace

private theorem stopsThere_items (bound : 2 * cs.length < fuel + 1) :
    StopsAtNumber (readItems (fuel + 1) cs) ↔ ComesToOverlong .items cs := by
  rw [stopsAtNumber_readItems_iff, shorter.value (by omega),
    readValue_eq_readFirst (Nat.le_of_lt_succ bound)]
  have later {item : Value} {rest more : List Char} (read : readFirst cs = .ok (item, rest))
      (comma : skipSpace rest = ',' :: more) :
      StopsAtNumber (readItems fuel (skipSpace more)) ↔
        ComesToOverlong .items (skipSpace more) := by
    have one := (consumes _).value read
    have behind := length_lt_of_skipSpace comma
    have spaces := skipSpace_length_le more
    exact shorter.items (by omega)
  constructor
  · rintro (here | ⟨item, rest, more, read, comma, stops⟩)
    · exact .item here
    · exact .laterItem read comma ((later read comma).mp stops)
  · intro comes
    cases comes with
    | item here => exact .inl here
    | laterItem read comma inside => exact .inr ⟨_, _, _, read, comma, (later read comma).mpr inside⟩

private theorem stopsThere_members {before : Mapping} (bound : 2 * cs.length < fuel + 1) :
    StopsAtNumber (readMembers (fuel + 1) before cs) ↔ ComesToOverlong .members cs := by
  by_cases quote : cs.head? = some '"'
  · obtain ⟨cs, rfl⟩ := List.head?_eq_some_iff.mp quote
    simp only [List.length_cons] at bound
    rw [stopsAtNumber_readMembers_iff]
    have behindColon {key rest behind : List Char}
        (named : readText (cs.length + 1) cs = .ok (key, rest))
        (colon : skipSpace rest = ':' :: behind) : (skipSpace behind).length < cs.length := by
      have name := readText_length_lt named
      have after := length_lt_of_skipSpace colon
      have spaces := skipSpace_length_le behind
      omega
    have value {key rest behind : List Char}
        (named : readText (cs.length + 1) cs = .ok (key, rest))
        (colon : skipSpace rest = ':' :: behind) :
        readValue fuel (skipSpace behind) = readFirst (skipSpace behind) ∧
          (StopsAtNumber (readValue fuel (skipSpace behind)) ↔
            ComesToOverlong .value (skipSpace behind)) := by
      have less := behindColon named colon
      exact ⟨readValue_eq_readFirst (by omega), shorter.value (by omega)⟩
    have later {key rest behind after more : List Char} {value : Value} (before : Mapping)
        (named : readText (cs.length + 1) cs = .ok (key, rest))
        (colon : skipSpace rest = ':' :: behind)
        (read : readFirst (skipSpace behind) = .ok (value, after))
        (comma : skipSpace after = ',' :: more) :
        StopsAtNumber (readMembers fuel before (skipSpace more)) ↔
          ComesToOverlong .members (skipSpace more) := by
      have less := behindColon named colon
      have one := (consumes _).value read
      have behind := length_lt_of_skipSpace comma
      have spaces := skipSpace_length_le more
      exact shorter.members (by omega)
    constructor
    · rintro ⟨key, rest, behind, named, colon, here | ⟨value', after, more, read, comma, stops⟩⟩
      · exact .member named colon ((value named colon).2.mp here)
      · rw [(value named colon).1] at read
        exact .laterMember named colon read comma ((later _ named colon read comma).mp stops)
    · intro comes
      cases comes with
      | member named colon here =>
        exact ⟨_, _, _, named, colon, .inl ((value named colon).2.mpr here)⟩
      | @laterMember _ key rest behind after more found named colon read comma inside =>
        have reached := (value named colon).1.trans read
        exact ⟨key, rest, behind, named, colon, .inr ⟨found, after, more, reached, comma,
          (later _ named colon read comma).mpr inside⟩⟩
  · have unnamed : ¬StopsAtNumber (readMembers (fuel + 1) before cs) := by
      unfold readMembers
      split
      · exact absurd rfl quote
      · nofun
    refine iff_of_false unnamed fun comes => ?_
    cases comes <;> exact quote rfl

end Steps

private theorem stopsThere (fuel : Nat) : StopsThere fuel := by
  induction fuel with
  | zero =>
    refine ⟨fun {cs} bound => ?_, nofun, nofun⟩
    obtain rfl : cs = [] := List.length_eq_zero_iff.mp (by omega)
    exact iff_of_false nofun not_comesToOverlong_nil
  | succ fuel shorter =>
    exact ⟨stopsThere_value shorter, stopsThere_items shorter, stopsThere_members shorter⟩

private theorem stopsAtNumber_readDocument_iff {cs : List Char} :
    StopsAtNumber (readDocument cs) ↔ ComesToOverlong .value (skipSpace cs) := by
  have spaces := skipSpace_length_le cs
  rw [readDocument, stopsAtNumber_bind_iff, ← (stopsThere (2 * cs.length + 2)).value (by omega)]
  refine or_iff_left ?_
  rintro ⟨⟨value, rest⟩, -, stops⟩
  simp only at stops
  split at stops
  · exact absurd stops (not_stopsAtNumber_ok _)
  · exact absurd stops (not_stopsAtNumber_stopAt _ _)

/-- No value starts with a byte order mark. -/
theorem not_comesToOverlong_mark (cs : List Char) : ¬ComesToOverlong .value ('\uFEFF' :: cs) := by
  intro comes
  cases comes with
  | number starts =>
    cases starts with
    | unsigned run =>
      obtain ⟨_, _, same, figure⟩ := run.exists_cons
      cases same
      exact absurd figure (by decide)

/-- A text is refused for a number just when reading comes to one with too many digits. -/
theorem read_number_iff {text : String} :
    (∃ cause, read text = .error (.number cause)) ↔
      ComesToOverlong .value (skipSpace text.toList) := by
  simp only [read]
  split
  · next cs marked =>
    rw [marked]
    refine iff_of_false nofun ?_
    exact not_comesToOverlong_mark cs
  · rw [← stopsAtNumber_readDocument_iff, StopsAtNumber]
    split
    · next found => simp [found]
    · next found => simp [found]
    · next cause found => simp [found]

/-- A text is read as an object, or as none, unless reading comes to a number with too many
digits. -/
theorem exists_readObject_iff {text label : String} :
    (∃ object, (readObject text label).outcome = .ok object) ↔
      ¬ComesToOverlong .value (skipSpace text.toList) := by
  rw [← read_number_iff, readObject]
  split
  · next cause found => simp [found, Traced.fail]
  · next found => simp [found]
  · next found => simp [found]
  · next found => simp [found]

end EditorPlugins.Json
