import Mathlib.Data.List.Forall2

/-! # Successful outcomes

An outcome that is put together from others succeeds exactly when its parts do. For a list this
means that every item has a result, and the results stand in the order of the items.
-/

namespace EditorPlugins.Outcome

variable {ε α β γ : Type}

@[simp] theorem bind_eq_ok_iff {first : Except ε α} {next : α → Except ε β} {result : β} :
    first >>= next = .ok result ↔ ∃ value, first = .ok value ∧ next value = .ok result := by
  cases first with
  | error cause => simp [bind, Except.bind]
  | ok value => simp [bind, Except.bind]

@[simp] theorem exceptBind_eq_ok_iff {first : Except ε α} {next : α → Except ε β} {result : β} :
    first.bind next = .ok result ↔ ∃ value, first = .ok value ∧ next value = .ok result :=
  bind_eq_ok_iff

@[simp] theorem map_eq_ok_iff {outcome : Except ε α} {f : α → β} {result : β} :
    outcome.map f = .ok result ↔ ∃ value, outcome = .ok value ∧ f value = result := by
  cases outcome <;> simp [Except.map]

@[simp] theorem pure_eq_ok_iff {value result : α} :
    (pure value : Except ε α) = .ok result ↔ value = result := by
  simp [pure, Except.pure]

/-- Whether there is a result does not depend on what is made of it. -/
theorem exists_map_iff {outcome : Except ε α} {f : α → β} :
    (∃ result, outcome.map f = .ok result) ↔ ∃ value, outcome = .ok value := by
  cases outcome <;> simp [Except.map]

theorem exists_bind_pure_iff {outcome : Except ε α} {f : α → β} :
    (∃ result, (outcome >>= fun value => pure (f value)) = .ok result) ↔
      ∃ value, outcome = .ok value := by
  cases outcome <;> simp [bind, Except.bind]

/-- What is found of an outcome is found of its value. -/
theorem exists_of_toOption {outcome : Except ε α} {f : α → β} {found : β}
    (computed : outcome.toOption.map f = some found) :
    ∃ value, outcome = .ok value ∧ f value = found := by
  cases outcome with
  | error cause => cases computed
  | ok value => exact ⟨value, rfl, Option.some.inj computed⟩

theorem mapM_cons_eq_ok_iff {f : α → Except ε β} {item : α} {items : List α} {results : List β} :
    (item :: items).mapM f = .ok results ↔
      ∃ first rest, f item = .ok first ∧ items.mapM f = .ok rest ∧ results = first :: rest := by
  simp only [List.mapM_cons, bind_eq_ok_iff, pure_eq_ok_iff]
  constructor
  · rintro ⟨first, read, rest, later, rfl⟩
    exact ⟨first, rest, read, later, rfl⟩
  · rintro ⟨first, rest, read, later, rfl⟩
    exact ⟨first, read, rest, later, rfl⟩

/-- The results of a list stand for its items one by one, in their order. -/
theorem forall₂_of_mapM {f : α → Except ε β} {items : List α} {results : List β}
    (ran : items.mapM f = .ok results) :
    List.Forall₂ (fun item result => f item = .ok result) items results := by
  induction items generalizing results with
  | nil =>
    cases ran
    exact List.Forall₂.nil
  | cons item items ih =>
    obtain ⟨first, rest, read, later, rfl⟩ := mapM_cons_eq_ok_iff.mp ran
    exact List.Forall₂.cons read (ih later)

/-- Every result in a list is the result of an item. -/
theorem exists_of_mem_mapM {f : α → Except ε β} {items : List α} {results : List β}
    (ran : items.mapM f = .ok results) {result : β} (member : result ∈ results) :
    ∃ item ∈ items, f item = .ok result := by
  induction items generalizing results with
  | nil =>
    cases ran
    cases member
  | cons item items ih =>
    obtain ⟨first, rest, read, later, rfl⟩ := mapM_cons_eq_ok_iff.mp ran
    rcases List.mem_cons.mp member with rfl | member
    · exact ⟨item, List.mem_cons_self, read⟩
    · obtain ⟨other, present, found⟩ := ih later member
      exact ⟨other, List.mem_cons_of_mem _ present, found⟩

/-- Every item in a list has a result among the results. -/
theorem exists_mem_of_mapM {f : α → Except ε β} {items : List α} {results : List β}
    (ran : items.mapM f = .ok results) {item : α} (member : item ∈ items) :
    ∃ result ∈ results, f item = .ok result := by
  induction items generalizing results with
  | nil => cases member
  | cons other items ih =>
    obtain ⟨first, rest, read, later, rfl⟩ := mapM_cons_eq_ok_iff.mp ran
    rcases List.mem_cons.mp member with rfl | member
    · exact ⟨first, List.mem_cons_self, read⟩
    · obtain ⟨result, present, found⟩ := ih later member
      exact ⟨result, List.mem_cons_of_mem _ present, found⟩

/-- What is told of the results when each of them tells it of its item. -/
theorem map_of_mapM {f : α → Except ε β} {items : List α} {results : List β}
    (ran : items.mapM f = .ok results) {g : β → γ} {h : α → γ}
    (each : ∀ item result, f item = .ok result → g result = h item) :
    results.map g = items.map h := by
  have stands := forall₂_of_mapM ran
  clear ran
  induction stands with
  | nil => rfl
  | cons here _ ih => rw [List.map_cons, List.map_cons, each _ _ here, ih]

/-- Another run over the same items has the results that go with those of the first one. -/
theorem exists_mapM_map {δ : Type} {f : α → Except ε β} {g : α → Except ε γ} {items : List α}
    {results : List β} (ran : items.mapM f = .ok results) {h : β → δ} {k : γ → δ}
    (each : ∀ item ∈ items, ∀ result, f item = .ok result →
      ∃ other, g item = .ok other ∧ h result = k other) :
    ∃ others, items.mapM g = .ok others ∧ results.map h = others.map k := by
  induction items generalizing results with
  | nil =>
    cases ran
    exact ⟨[], rfl, rfl⟩
  | cons item items ih =>
    obtain ⟨first, rest, here, later, rfl⟩ := mapM_cons_eq_ok_iff.mp ran
    obtain ⟨eachFirst, eachRest⟩ := List.forall_mem_cons.mp each
    obtain ⟨other, also, same⟩ := eachFirst first here
    obtain ⟨others, found, equal⟩ := ih later eachRest
    exact ⟨other :: others, mapM_cons_eq_ok_iff.mpr ⟨other, others, also, found, rfl⟩,
      by rw [List.map_cons, List.map_cons, same, equal]⟩

/-- Results that are lists have no repetition together if none of them has one, and what is in them
tells the item that it is from. -/
theorem nodup_flatten_of_mapM {Key : Type} {f : α → Except ε (List β)} {items : List α}
    {results : List (List β)} (ran : items.mapM f = .ok results) (key : α → Key) (tag : β → Key)
    (distinct : (items.map key).Nodup)
    (each : ∀ item ∈ items, ∀ result, f item = .ok result →
      result.Nodup ∧ ∀ x ∈ result, tag x = key item) : results.flatten.Nodup := by
  induction items generalizing results with
  | nil =>
    cases ran
    exact List.nodup_nil
  | cons item items ih =>
    obtain ⟨first, rest, here, later, rfl⟩ := mapM_cons_eq_ok_iff.mp ran
    obtain ⟨eachFirst, eachRest⟩ := List.forall_mem_cons.mp each
    rw [List.map_cons, List.nodup_cons] at distinct
    obtain ⟨firstDistinct, tagged⟩ := eachFirst first here
    rw [List.flatten_cons, List.nodup_append]
    refine ⟨firstDistinct, ih later distinct.2 eachRest, ?_⟩
    rintro x member other inside rfl
    obtain ⟨result, present, among⟩ := List.mem_flatten.mp inside
    obtain ⟨next, following, found⟩ := exists_of_mem_mapM later present
    refine distinct.1 (List.mem_map.mpr ⟨next, following, ?_⟩)
    rw [← tagged x member, (eachRest next following result found).2 x among]

theorem mapM_eq_ok_map {f : α → Except ε β} {g : α → β} {items : List α}
    (each : ∀ item ∈ items, f item = .ok (g item)) : items.mapM f = .ok (items.map g) := by
  induction items with
  | nil => rfl
  | cons item items ih =>
    obtain ⟨first, later⟩ := List.forall_mem_cons.mp each
    exact mapM_cons_eq_ok_iff.mpr ⟨_, _, first, ih later, rfl⟩

/-- Runs over a list, in any monad, are the same if they are the same at every item. -/
theorem mapM_congr {m : Type → Type} [Monad m] [LawfulMonad m] {f g : α → m β} {items : List α}
    (same : ∀ item ∈ items, f item = g item) : items.mapM f = items.mapM g := by
  induction items with
  | nil => rfl
  | cons item items ih =>
    obtain ⟨first, later⟩ := List.forall_mem_cons.mp same
    rw [List.mapM_cons, List.mapM_cons, first, ih later]

/-- Items that all have a result have a list of results. -/
theorem exists_mapM_eq_ok {f : α → Except ε β} {items : List α}
    (each : ∀ item ∈ items, ∃ result, f item = .ok result) :
    ∃ results, items.mapM f = .ok results := by
  induction items with
  | nil => exact ⟨[], rfl⟩
  | cons item items ih =>
    obtain ⟨first, read⟩ := each item List.mem_cons_self
    obtain ⟨rest, later⟩ := ih fun other member => each other (List.mem_cons_of_mem _ member)
    exact ⟨first :: rest, mapM_cons_eq_ok_iff.mpr ⟨first, rest, read, later, rfl⟩⟩

/-- A run succeeds when every step that it comes to does. -/
theorem exists_foldlM_iff {step : β → α → Except ε β} {items : List α} {start : β} :
    (∃ last, items.foldlM step start = .ok last) ↔
      ∀ before item after state, items = before ++ item :: after →
        before.foldlM step start = .ok state → ∃ next, step state item = .ok next := by
  induction items generalizing start with
  | nil => simp
  | cons item items ih =>
    simp only [List.foldlM_cons, bind_eq_ok_iff]
    constructor
    · rintro ⟨last, middle, first, run⟩ before other after state shape reached
      cases before with
      | nil =>
        cases shape
        cases reached
        exact ⟨middle, first⟩
      | cons _ before =>
        cases shape
        rw [List.foldlM_cons, first] at reached
        exact ih.mp ⟨last, run⟩ before other after state rfl reached
    · intro each
      obtain ⟨middle, first⟩ := each [] item items start rfl rfl
      obtain ⟨last, run⟩ := ih.mpr fun before other after state shape reached =>
        each (item :: before) other after state (by rw [shape]; rfl) (by
          rw [List.foldlM_cons, first]
          exact reached)
      exact ⟨last, middle, first, run⟩

end EditorPlugins.Outcome
