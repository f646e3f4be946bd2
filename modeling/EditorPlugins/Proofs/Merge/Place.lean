import EditorPlugins.Merge.Payload
import EditorPlugins.Proofs.Entries
import EditorPlugins.Proofs.Merge.KeyPath

/-! # Placing values in a document

Giving the entry at a path a value, or removing it, is seen at that path and nowhere else: other
keys of the document and other children of the same map stay. Applying a payload places one path
after another, so what every single placement keeps holds of the result (`apply_invariant`), and
each managed path ends with the value that the content has there (`valueAt?_apply`).
-/

namespace EditorPlugins.Merge

variable {host document content : Mapping} {payload : Payload}

def children? (document : Mapping) (map : String) : Option Mapping :=
  (Mapping.field? document map).bind Value.map?

def childAt? (document : Mapping) (map : String) (key : Scalar) : Option Value :=
  (children? document map).bind fun children => Entries.get? children key

/-- The key of the document itself on the way to an entry. -/
def KeyPath.root : KeyPath → String
  | whole key => key
  | child map _ => map

theorem field?_setOrErase_self (entries : Mapping) (key : String) (value : Option Value) :
    Mapping.field? (setOrErase entries key value) key = value := by
  cases value with
  | none => exact Entries.get?_erase_self entries _
  | some value => exact Entries.get?_set_self entries _ value

private theorem get?_setOrErase_of_ne (entries : Mapping) {key : String} {other : Scalar}
    (value : Option Value) (different : other ≠ .text key) :
    Entries.get? (setOrErase entries key value) other = Entries.get? entries other := by
  cases value with
  | none => exact Entries.get?_erase_of_ne entries different
  | some value => exact Entries.get?_set_of_ne entries value different

private theorem setOrErase_field? (entries : Mapping) (key : String) :
    setOrErase entries key (Mapping.field? entries key) = entries := by
  cases found : Mapping.field? entries key with
  | none => exact Entries.erase_of_get?_eq_none found
  | some value => exact Entries.set_of_get? found

theorem place_child_of_children? {map : String} {children : Mapping} (key : String)
    (value : Option Value) (found : children? document map = some children) :
    place document (.child map key) value =
      Mapping.setField document map (.map (setOrErase children key value)) := by
  change (Mapping.field? document map).bind Value.map? = some children at found
  simp only [place, found]

theorem place_child_some {map : String} (key : String) (value : Value)
    (absent : children? document map = none) :
    place document (.child map key) (some value) =
      Mapping.setField document map (.map (setOrErase [] key (some value))) := by
  change (Mapping.field? document map).bind Value.map? = none at absent
  simp only [place, absent]

/-- A map is not made for the sake of a child to be removed. -/
theorem place_child_none {map : String} (key : String) (absent : children? document map = none) :
    place document (.child map key) none = document := by
  change (Mapping.field? document map).bind Value.map? = none at absent
  simp only [place, absent]

/-- A placement below one key of the document leaves the other keys. -/
theorem get?_place_of_ne {path : KeyPath} {key : Scalar} (value : Option Value)
    (different : key ≠ .text path.root) :
    Entries.get? (place document path value) key = Entries.get? document key := by
  cases path with
  | whole name => exact get?_setOrErase_of_ne document value different
  | child map name =>
    cases found : children? document map with
    | some children =>
      rw [place_child_of_children? name value found]
      exact Entries.get?_set_of_ne document _ different
    | none =>
      cases value with
      | none => rw [place_child_none name found]
      | some value =>
        rw [place_child_some name value found]
        exact Entries.get?_set_of_ne document _ different

private theorem children?_setField_self (document : Mapping) (map : String) (children : Mapping) :
    children? (Mapping.setField document map (.map children)) map = some children := by
  rw [children?, Mapping.field?, Mapping.setField, Entries.get?_set_self]
  rfl

/-- Placing something below a map sets or removes one of its children. -/
theorem children?_place_child (map key : String) (value : Option Value) :
    children? (place document (.child map key) value) map =
      match children? document map, value with
      | none, none => none
      | some children, value => some (setOrErase children key value)
      | none, some value => some (setOrErase [] key (some value)) := by
  cases found : children? document map with
  | some children => rw [place_child_of_children? key value found, children?_setField_self]
  | none =>
    cases value with
    | none => rw [place_child_none key found, found]
    | some value => rw [place_child_some key value found, children?_setField_self]

private theorem valueAt?_place_self (path : KeyPath) (value : Option Value) :
    valueAt? (place document path value) path = value := by
  cases path with
  | whole key => exact field?_setOrErase_self document key value
  | child map key =>
    change (children? (place document (.child map key) value) map).bind _ = value
    rw [children?_place_child]
    cases children? document map <;> cases value <;> simp [field?_setOrErase_self]

/-- A placement below a map leaves the other children of the map. -/
theorem childAt?_place_child_of_ne (map : String) {key : String} {other : Scalar}
    (value : Option Value) (different : other ≠ .text key) :
    childAt? (place document (.child map key) value) map other = childAt? document map other := by
  rw [childAt?, childAt?, children?_place_child]
  cases children? document map <;> cases value <;>
    simp [get?_setOrErase_of_ne _ _ different, Entries.get?]

/-- Placing what a document has at a path changes nothing. -/
theorem place_valueAt? (document : Mapping) (path : KeyPath) :
    place document path (valueAt? document path) = document := by
  cases path with
  | whole key => exact setOrErase_field? document key
  | child map key =>
    change place document _ (childAt? document map (.text key)) = document
    cases found : children? document map with
    | none =>
      rw [childAt?, found]
      exact place_child_none key found
    | some children =>
      rw [childAt?, found, Option.bind_some, place_child_of_children? key _ found]
      change Mapping.setField _ _ (.map (setOrErase _ _ (Mapping.field? children key))) = _
      rw [setOrErase_field?]
      obtain ⟨value, present, shape⟩ := Option.bind_eq_some_iff.mp found
      cases value with
      | map entries =>
        cases shape
        exact Entries.set_of_get? present
      | _ => cases shape

private theorem valueAt?_congr {path : KeyPath} (same : Entries.get? document (.text path.root) =
    Entries.get? content (.text path.root)) : valueAt? document path = valueAt? content path := by
  cases path with
  | whole key => exact same
  | child map key =>
    have children : children? document map = children? content map :=
      congrArg (fun found : Option Value => found.bind Value.map?) same
    change childAt? document map _ = childAt? content map _
    rw [childAt?, childAt?, children]

/-- A document that has the content's value at one path keeps it when the content's value is placed
at another path, even where one of the paths leads through the other. -/
theorem valueAt?_place_of_agree {path : KeyPath} (other : KeyPath)
    (agree : valueAt? document path = valueAt? content path) :
    valueAt? (place document other (valueAt? content other)) path = valueAt? content path := by
  by_cases sameRoot : path.root = other.root
  case neg =>
    rw [← agree]
    apply valueAt?_congr
    exact get?_place_of_ne _ (by simpa using sameRoot)
  cases path with
  | whole key =>
    -- The document and the content agree on the whole entry, so below it nothing is left to place.
    have below : valueAt? content other = valueAt? document other := by
      apply valueAt?_congr
      rw [← sameRoot]
      exact agree.symm
    rw [below, place_valueAt?, agree]
  | child map key =>
    cases other with
    | whole name =>
      apply valueAt?_congr
      rw [show (KeyPath.child map key).root = name from sameRoot]
      exact valueAt?_place_self (.whole name) _
    | child map' name =>
      obtain rfl : map = map' := sameRoot
      by_cases same : key = name
      · rw [same, valueAt?_place_self]
      · rw [← agree]
        exact childAt?_place_child_of_ne map _ (by simpa using same)

/-- What every placement of a managed path keeps holds of the result. -/
theorem apply_invariant (Holds : Mapping → Prop) (start : Holds host)
    (step : ∀ path ∈ payload.managedKeys, ∀ document, Holds document →
      Holds (applyPath payload.content document path)) : Holds (apply host payload) := by
  obtain ⟨paths, content⟩ := payload
  dsimp only [apply] at step ⊢
  induction paths generalizing host with
  | nil => exact start
  | cons path rest ih =>
    apply ih (step path List.mem_cons_self host start)
    exact fun other member => step other (List.mem_cons_of_mem _ member)

/-- An observation that no placement of a managed path changes is the host's own. -/
theorem apply_preserves {α : Type} (observe : Mapping → α)
    (frame : ∀ path ∈ payload.managedKeys, ∀ document,
      observe (applyPath payload.content document path) = observe document) :
    observe (apply host payload) = observe host :=
  apply_invariant (fun document => observe document = observe host) rfl
    fun path member document same => (frame path member document).trans same

/-- A key that no managed path leads through is as in the host. -/
theorem get?_apply_of_root {key : Scalar} (elsewhere : ∀ path ∈ payload.managedKeys,
    key ≠ .text (KeyPath.ofText sharedMaps path).root) :
    Entries.get? (apply host payload) key = Entries.get? host key :=
  apply_preserves (fun document => Entries.get? document key) fun path managed _ =>
    get?_place_of_ne _ (elsewhere path managed)

/-- Every managed path ends with the value that the content has there. -/
theorem valueAt?_apply (host : Mapping) {path : String} (managed : path ∈ payload.managedKeys) :
    valueAt? (apply host payload) (KeyPath.ofText sharedMaps path) =
      valueAt? payload.content (KeyPath.ofText sharedMaps path) := by
  obtain ⟨paths, content⟩ := payload
  obtain ⟨before, after, rfl⟩ := List.append_of_mem managed
  rw [apply, List.foldl_append, List.foldl_cons]
  exact @apply_invariant _ ⟨after, content⟩
    (fun document => valueAt? document _ = valueAt? content _) (valueAt?_place_self _ _)
    fun other _ document agree => valueAt?_place_of_agree _ agree

end EditorPlugins.Merge
