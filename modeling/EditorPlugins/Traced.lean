import EditorPlugins.Error

/-! # Computations that keep a log

A traced computation has a log and an outcome. The log is kept whether the computation fails or
not; what follows a failure is neither run nor logged. The outcome of a sequence is the sequence of
the outcomes (`outcome_bind`), so a statement about outcomes can leave the logs aside.
-/

namespace EditorPlugins

/-- How much a record matters. -/
inductive Level where
  | debug
  | info
  | warning
deriving DecidableEq, Repr

namespace Level

/-- The rank of a level; the greater the rank, the more a record matters. -/
def rank : Level → Nat
  | debug => 0
  | info => 1
  | warning => 2

end Level

/-- One line of the log. -/
structure Record where
  level : Level
  text : String
deriving DecidableEq, Repr

/-- A log with the outcome of the computation that kept it. -/
structure Traced (α : Type) where
  log : List Record
  outcome : Except Error α

namespace Traced

variable {α β : Type}

/-- A value without a log. -/
def pure (value : α) : Traced α := ⟨[], .ok value⟩

/-- Run a computation and, if it succeeds, the one that its value determines. -/
def bind (first : Traced α) (next : α → Traced β) : Traced β :=
  match first.outcome with
  | .ok value => ⟨first.log ++ (next value).log, (next value).outcome⟩
  | .error error => ⟨first.log, .error error⟩

instance : Monad Traced where
  pure := pure
  bind := bind

/-- An outcome without a log. -/
def lift (outcome : Except Error α) : Traced α := ⟨[], outcome⟩

instance : MonadLift (Except Error) Traced := ⟨lift⟩

/-- Fail without a log. -/
def fail (error : Error) : Traced α := ⟨[], .error error⟩

def note (level : Level) (text : String) : Traced Unit := ⟨[⟨level, text⟩], .ok ()⟩

/-- Fail with an error made from the cause of a failed outcome. -/
def ofExcept {ε : Type} (wrap : ε → Error) : Except ε α → Traced α
  | .ok value => ⟨[], .ok value⟩
  | .error cause => ⟨[], .error (wrap cause)⟩

@[simp] theorem outcome_pure (value : α) :
    (Pure.pure value : Traced α).outcome = .ok value := rfl

@[simp] theorem outcome_bind (first : Traced α) (next : α → Traced β) :
    (first >>= next).outcome = first.outcome.bind fun value => (next value).outcome := by
  change (bind first next).outcome = _
  rcases first with ⟨log, outcome⟩
  cases outcome <;> rfl

@[simp] theorem outcome_note (level : Level) (text : String) :
    (note level text).outcome = .ok () := rfl

@[simp] theorem outcome_fail (error : Error) :
    (fail error : Traced α).outcome = .error error := rfl

private theorem id_map_traced (traced : Traced α) : id <$> traced = traced := by
  rcases traced with ⟨log, outcome⟩
  change bind _ _ = _
  cases outcome <;> simp [bind, Function.comp, pure]

private theorem pure_bind_traced (value : α) (next : α → Traced β) :
    (Pure.pure value : Traced α) >>= next = next value := by
  change bind (pure value) next = _
  simp [bind, pure]

private theorem bind_assoc_traced {γ : Type} (first : Traced α) (next : α → Traced β)
    (last : β → Traced γ) :
    first >>= next >>= last = first >>= fun value => next value >>= last := by
  rcases first with ⟨log, outcome⟩
  change bind (bind _ _) _ = bind _ fun value => bind _ _
  cases outcome with
  | error error => rfl
  | ok value =>
    rcases step : next value with ⟨more, outcome⟩
    cases outcome <;> simp [bind, step]

instance : LawfulMonad Traced :=
  LawfulMonad.mk' Traced id_map_traced pure_bind_traced bind_assoc_traced

end Traced

end EditorPlugins
