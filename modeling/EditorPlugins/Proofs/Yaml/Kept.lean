import EditorPlugins.Proofs.Outcome
import EditorPlugins.Yaml.Token

/-! # Tokens are never taken back

A token is added behind the others, or in front of a word that turns out to be a key. As long as no
place of such a word lies before some of the tokens, they stay the first ones of the text, whatever
the rest of it holds.
-/

namespace EditorPlugins.Yaml.Scan

variable {base : List Token} {scan next : Scan}

/-- Some tokens come first, and nothing will be put in front of them. The latest one leads. -/
structure Keeps (base : List Token) (scan : Scan) : Prop where
  tokens : base <:+ scan.tokens
  places : ∀ place ∈ scan.keyPlaces, base.length ≤ place.number

namespace Keeps

theorem push (keeps : Keeps base scan) {token : Token} (tokens : next.tokens = token :: scan.tokens)
    (places : next.keyPlaces = scan.keyPlaces) : Keeps base next :=
  ⟨tokens ▸ keeps.tokens.trans (List.suffix_cons _ _), places ▸ keeps.places⟩

theorem skip (keeps : Keeps base scan) (count : Nat) : Keeps base (scan.skip count) :=
  ⟨keeps.tokens, keeps.places⟩

theorem insert (keeps : Keeps base scan) {number : Nat} (behind : base.length ≤ number)
    (token : Token) : Keeps base (scan.insert number token) := by
  refine ⟨?_, keeps.places⟩
  obtain ⟨later, whole⟩ := keeps.tokens
  have near : scan.tokens.length - number ≤ later.length := by
    rw [← whole, List.length_append]
    omega
  change base <:+ scan.tokens.take _ ++ token :: scan.tokens.drop _
  rw [← whole] at near ⊢
  rw [List.drop_append_of_le_length near, ← List.cons_append, ← List.append_assoc]
  exact List.suffix_append _ _

private theorem forget (keeps : Keeps base scan) (keep : KeyPlace → Bool) :
    Keeps base { scan with keyPlaces := scan.keyPlaces.filter keep } :=
  ⟨keeps.tokens, fun place member => keeps.places place (List.mem_filter.mp member).1⟩

private theorem suffix_unwindTo (column : Nat) (indents : List Nat) (tokens : List Token) :
    tokens <:+ (unwindTo column indents tokens).2 := by
  induction indents generalizing tokens with
  | nil => exact List.suffix_refl _
  | cons indent rest ih =>
    rw [unwindTo]
    split
    · exact (List.suffix_cons _ _).trans (ih _)
    · exact List.suffix_refl _

theorem unwind (keeps : Keeps base scan) (column : Nat) : Keeps base (scan.unwind column) := by
  rw [Scan.unwind]
  split
  · exact keeps
  · exact ⟨keeps.tokens.trans (suffix_unwindTo column _ _), keeps.places⟩

theorem forgetPlace (keeps : Keeps base scan) (ran : scan.forgetPlace = .ok next) :
    Keeps base next := by
  rw [Scan.forgetPlace] at ran
  split at ran
  · cases ran
  · cases ran
    exact keeps.forget _

theorem dropStale (keeps : Keeps base scan) (ran : scan.dropStale = .ok next) :
    Keeps base next := by
  rw [Scan.dropStale] at ran
  split at ran
  · cases ran
  · cases ran
    exact keeps.forget _

theorem savePlace (keeps : Keeps base scan) (ran : scan.savePlace = .ok next) :
    Keeps base next := by
  rw [Scan.savePlace] at ran
  split at ran
  · cases ran
    exact keeps
  · simp only [Outcome.bind_eq_ok_iff, Outcome.pure_eq_ok_iff] at ran
    obtain ⟨kept, ran, rfl⟩ := ran
    have kept := keeps.forgetPlace ran
    exact ⟨kept.tokens, List.forall_mem_cons.mpr ⟨keeps.tokens.length_le, kept.places⟩⟩

theorem toNextToken (keeps : Keeps base scan) (fuel : Nat) : Keeps base (scan.toNextToken fuel) := by
  induction fuel generalizing scan with
  | zero => exact keeps
  | succ fuel ih =>
    rw [Scan.toNextToken]
    split
    · exact ih ⟨keeps.tokens, keeps.places⟩
    · exact ⟨keeps.tokens, keeps.places⟩

theorem closeBlocks (keeps : Keeps base scan) (ran : scan.closeBlocks = .ok next) :
    Keeps base next := by
  simp only [Scan.closeBlocks, Outcome.bind_eq_ok_iff, Outcome.pure_eq_ok_iff] at ran
  obtain ⟨closed, ran, rfl⟩ := ran
  have kept := (keeps.unwind 0).forgetPlace ran
  exact ⟨kept.tokens, kept.places⟩

theorem deepen (keeps : Keeps base scan) (column : Nat) : Keeps base (scan.deepen column).2 := by
  rw [Scan.deepen]
  split <;> exact ⟨keeps.tokens, keeps.places⟩

theorem openBlock (keeps : Keeps base scan) (token : Token) : Keeps base (scan.openBlock token) := by
  have deeper := keeps.deepen scan.cursor.column
  rw [Scan.openBlock]
  split
  · exact keeps
  · split
    · next found =>
      rw [found] at deeper
      exact deeper.push rfl rfl
    · next found =>
      rw [found] at deeper
      exact deeper

theorem scanDirective (keeps : Keeps base scan) (ran : scan.scanDirective = .ok next) :
    Keeps base next := by
  simp only [Scan.scanDirective, Outcome.bind_eq_ok_iff, Outcome.pure_eq_ok_iff] at ran
  obtain ⟨closed, ran, ⟨token, cursor⟩, -, rfl⟩ := ran
  exact (keeps.closeBlocks ran).push rfl rfl

theorem scanSeparator (keeps : Keeps base scan) {token : Token}
    (ran : scan.scanSeparator token = .ok next) : Keeps base next := by
  simp only [Scan.scanSeparator, Outcome.bind_eq_ok_iff, Outcome.pure_eq_ok_iff] at ran
  obtain ⟨closed, ran, rfl⟩ := ran
  exact (keeps.closeBlocks ran).push rfl rfl

theorem scanFlowStart (keeps : Keeps base scan) {token : Token}
    (ran : scan.scanFlowStart token = .ok next) : Keeps base next := by
  simp only [Scan.scanFlowStart, Outcome.bind_eq_ok_iff, Outcome.pure_eq_ok_iff] at ran
  obtain ⟨saved, ran, rfl⟩ := ran
  exact (keeps.savePlace ran).push rfl rfl

theorem scanFlowEnd (keeps : Keeps base scan) {token : Token}
    (ran : scan.scanFlowEnd token = .ok next) : Keeps base next := by
  simp only [Scan.scanFlowEnd, Outcome.bind_eq_ok_iff, Outcome.pure_eq_ok_iff] at ran
  obtain ⟨saved, ran, rfl⟩ := ran
  exact (keeps.forgetPlace ran).push rfl rfl

theorem scanFlowEntry (keeps : Keeps base scan) (ran : scan.scanFlowEntry = .ok next) :
    Keeps base next := by
  simp only [Scan.scanFlowEntry, Outcome.bind_eq_ok_iff, Outcome.pure_eq_ok_iff] at ran
  obtain ⟨saved, ran, rfl⟩ := ran
  exact (keeps.forgetPlace ran).push rfl rfl

theorem scanBlockEntry (keeps : Keeps base scan) (ran : scan.scanBlockEntry = .ok next) :
    Keeps base next := by
  rw [Scan.scanBlockEntry] at ran
  split at ran
  · cases ran
  simp only [Outcome.bind_eq_ok_iff, Outcome.pure_eq_ok_iff] at ran
  obtain ⟨saved, ran, rfl⟩ := ran
  exact ((keeps.openBlock .blockList).forgetPlace ran).push rfl rfl

theorem scanKey (keeps : Keeps base scan) (ran : scan.scanKey = .ok next) : Keeps base next := by
  rw [Scan.scanKey] at ran
  split at ran
  · cases ran
  simp only [Outcome.bind_eq_ok_iff, Outcome.pure_eq_ok_iff] at ran
  obtain ⟨saved, ran, rfl⟩ := ran
  exact ((keeps.openBlock .blockMap).forgetPlace ran).push rfl rfl

theorem scanValue (keeps : Keeps base scan) (ran : scan.scanValue = .ok next) :
    Keeps base next := by
  rw [Scan.scanValue] at ran
  split at ran
  · next place found =>
    have behind := keeps.places place (List.mem_of_find?_eq_some found)
    have inserted := (keeps.forget fun place => place.flowLevel ≠ scan.flowLevel).insert behind .key
    have deeper := inserted.deepen place.column
    cases ran
    refine push (skip ?_ 1) rfl rfl
    split
    · exact inserted
    split
    · next found =>
      rw [found] at deeper
      exact deeper.insert behind .blockMap
    · next found =>
      rw [found] at deeper
      exact deeper
  · split at ran
    · cases ran
    cases ran
    exact (keeps.openBlock .blockMap).push rfl rfl

theorem scanName (keeps : Keeps base scan) {token : String → Token}
    (ran : scan.scanName token = .ok next) : Keeps base next := by
  simp only [Scan.scanName, Outcome.bind_eq_ok_iff, Outcome.pure_eq_ok_iff] at ran
  obtain ⟨saved, ran, ⟨name, cursor⟩, -, rfl⟩ := ran
  exact (keeps.savePlace ran).push rfl rfl

theorem scanTag (keeps : Keeps base scan) (ran : scan.scanTag = .ok next) : Keeps base next := by
  simp only [Scan.scanTag, Outcome.bind_eq_ok_iff, Outcome.pure_eq_ok_iff] at ran
  obtain ⟨saved, ran, ⟨tag, cursor⟩, -, rfl⟩ := ran
  exact (keeps.savePlace ran).push rfl rfl

theorem scanBlock (keeps : Keeps base scan) {folded : Bool}
    (ran : scan.scanBlock folded = .ok next) : Keeps base next := by
  simp only [Scan.scanBlock, Outcome.bind_eq_ok_iff, Outcome.pure_eq_ok_iff] at ran
  obtain ⟨saved, ran, ⟨text, cursor⟩, -, rfl⟩ := ran
  exact (keeps.forgetPlace ran).push rfl rfl

theorem scanQuoted (keeps : Keeps base scan) {double : Bool}
    (ran : scan.scanQuoted double = .ok next) : Keeps base next := by
  simp only [Scan.scanQuoted, Outcome.bind_eq_ok_iff, Outcome.pure_eq_ok_iff] at ran
  obtain ⟨saved, ran, ⟨text, cursor⟩, -, rfl⟩ := ran
  exact (keeps.savePlace ran).push rfl rfl

theorem scanPlain (keeps : Keeps base scan) (ran : scan.scanPlain = .ok next) :
    Keeps base next := by
  simp only [Scan.scanPlain, Outcome.bind_eq_ok_iff, Outcome.pure_eq_ok_iff] at ran
  obtain ⟨saved, ran, rfl⟩ := ran
  exact (keeps.savePlace ran).push rfl rfl

private theorem of_ite {chosen : Prop} [Decidable chosen] {first second : Read Scan}
    (ran : (if chosen then first else second) = .ok next) (one : first = .ok next → Keeps base next)
    (other : second = .ok next → Keeps base next) : Keeps base next := by
  split at ran
  · exact one ran
  · exact other ran

/-- Whatever token is scanned next, the first tokens stay. -/
theorem scanToken (keeps : Keeps base scan) (ran : scan.scanToken = .ok next) :
    Keeps base next := by
  rw [Scan.scanToken] at ran
  refine of_ite ran keeps.scanDirective fun ran => ?_
  refine of_ite ran keeps.scanSeparator fun ran => ?_
  refine of_ite ran keeps.scanSeparator fun ran => ?_
  refine of_ite ran keeps.scanFlowStart fun ran => ?_
  refine of_ite ran keeps.scanFlowStart fun ran => ?_
  refine of_ite ran keeps.scanFlowEnd fun ran => ?_
  refine of_ite ran keeps.scanFlowEnd fun ran => ?_
  refine of_ite ran keeps.scanFlowEntry fun ran => ?_
  refine of_ite ran keeps.scanBlockEntry fun ran => ?_
  refine of_ite ran keeps.scanKey fun ran => ?_
  refine of_ite ran keeps.scanValue fun ran => ?_
  refine of_ite ran keeps.scanName fun ran => ?_
  refine of_ite ran keeps.scanName fun ran => ?_
  refine of_ite ran keeps.scanTag fun ran => ?_
  refine of_ite ran keeps.scanBlock fun ran => ?_
  refine of_ite ran keeps.scanBlock fun ran => ?_
  refine of_ite ran keeps.scanQuoted fun ran => ?_
  refine of_ite ran keeps.scanQuoted fun ran => ?_
  refine of_ite ran keeps.scanPlain fun ran => ?_
  cases ran

end Keeps

/-- The tokens of the text start with those that no later token changes. -/
theorem isPrefix_run {tokens : List Token} {fuel : Nat} (keeps : Keeps base scan)
    (ran : scan.run fuel = .ok tokens) : base.reverse <+: tokens := by
  induction fuel generalizing scan with
  | zero => cases ran
  | succ fuel ih =>
    rw [run, Outcome.bind_eq_ok_iff] at ran
    obtain ⟨ready, dropped, ran⟩ := ran
    have kept := ((keeps.toNextToken _).dropStale dropped).unwind (ready.cursor.column + 1)
    dsimp only at ran
    split at ran
    · simp only [Outcome.bind_eq_ok_iff, Outcome.pure_eq_ok_iff] at ran
      obtain ⟨closed, ran, rfl⟩ := ran
      exact List.reverse_prefix.mpr (kept.closeBlocks ran).tokens
    · rw [Outcome.bind_eq_ok_iff] at ran
      obtain ⟨scanned, token, ran⟩ := ran
      exact ih (kept.scanToken token) ran

end EditorPlugins.Yaml.Scan
