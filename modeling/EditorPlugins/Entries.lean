/-! # Maps that keep insertion order

A map is the list of its entries. Setting a key that is present replaces the value and keeps the
position, so the order of a map is the order in which its keys first came.
-/

namespace EditorPlugins

/-- The entries of a map, in the order in which their keys first came. -/
abbrev Entries (Key Item : Type) := List (Key × Item)

namespace Entries

variable {Key Item : Type} [DecidableEq Key]

def get? : Entries Key Item → Key → Option Item
  | [], _ => none
  | (key, item) :: rest, wanted => if key = wanted then some item else get? rest wanted

def has (entries : Entries Key Item) (key : Key) : Bool := (get? entries key).isSome

/-- Replace the value at a key in its place, or add the key at the end. -/
def set : Entries Key Item → Key → Item → Entries Key Item
  | [], key, item => [(key, item)]
  | (other, old) :: rest, key, item =>
    if other = key then (other, item) :: rest else (other, old) :: set rest key item

def erase (entries : Entries Key Item) (key : Key) : Entries Key Item :=
  entries.filter fun entry => entry.1 ≠ key

/-- Set every entry of a second map in the first one, in the second one's order. -/
def update (entries later : Entries Key Item) : Entries Key Item :=
  later.foldl (fun merged entry => set merged entry.1 entry.2) entries

/-- The map that some pairs write one after another. -/
def ofPairs (pairs : List (Key × Item)) : Entries Key Item := update [] pairs

def keys (entries : Entries Key Item) : List Key := entries.map Prod.fst

theorem get?_set_self (entries : Entries Key Item) (key : Key) (item : Item) :
    get? (set entries key item) key = some item := by
  induction entries with
  | nil => simp [set, get?]
  | cons entry rest ih =>
    by_cases same : entry.1 = key <;> simp [set, get?, same, ih]

theorem get?_set_of_ne (entries : Entries Key Item) {key other : Key} (item : Item)
    (different : other ≠ key) : get? (set entries key item) other = get? entries other := by
  induction entries with
  | nil => simp [set, get?, Ne.symm different]
  | cons entry rest ih =>
    by_cases same : entry.1 = key
    · simp [set, get?, same, Ne.symm different]
    · simp [set, get?, same, ih]

theorem get?_erase_self (entries : Entries Key Item) (key : Key) :
    get? (erase entries key) key = none := by
  induction entries with
  | nil => rfl
  | cons entry rest ih =>
    by_cases same : entry.1 = key
    · simpa [erase, same] using ih
    · simpa [erase, get?, same] using ih

theorem get?_erase_of_ne (entries : Entries Key Item) {key other : Key} (different : other ≠ key) :
    get? (erase entries key) other = get? entries other := by
  induction entries with
  | nil => rfl
  | cons entry rest ih =>
    by_cases same : entry.1 = key
    · simpa [erase, get?, same, Ne.symm different] using ih
    · by_cases found : entry.1 = other
      · subst found
        simp [erase, get?, different]
      · simpa [erase, get?, same, found] using ih

theorem update_append (entries first second : Entries Key Item) :
    update entries (first ++ second) = update (update entries first) second := by
  simp [update, List.foldl_append]

end Entries

/-- The items of a list without later repetitions. -/
def distinct {Item : Type} [DecidableEq Item] (items : List Item) : List Item :=
  items.foldl (fun kept item => if item ∈ kept then kept else kept ++ [item]) []

end EditorPlugins
