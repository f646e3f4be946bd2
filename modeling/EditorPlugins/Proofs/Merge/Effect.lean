import EditorPlugins.Proofs.Merge.Place

/-! # What a payload does to a document

A managed path ends as in the content, whatever the other managed paths are; everything else of the
host's document stays, in its order. A shared map is the place where the two meet: its children
belong to whoever manages them, and a host value that is no map gives way only to a child that the
content carries.
-/

namespace EditorPlugins.Merge

open Entries

variable {host document content : Mapping} {payload : Payload}

/-- The effect of a payload on a document of the host. -/
structure Effect (host : Mapping) (payload : Payload) (result : Mapping) : Prop where
  /-- A managed key of the document is as in the content. -/
  whole : ∀ key ∈ payload.managedKeys, KeyPath.ofText sharedMaps key = .whole key →
    Mapping.field? result key = Mapping.field? payload.content key
  /-- A managed child of a shared map is as in the content. -/
  child : ∀ map key, .text map ∈ sharedMaps →
    (KeyPath.child map key).text ∈ payload.managedKeys →
      childAt? result map (.text key) = childAt? payload.content map (.text key)
  /-- The other children of a shared map of the host stay as they are. -/
  siblings : ∀ map children, .text map ∈ sharedMaps → map ∉ payload.managedKeys →
    Mapping.field? host map = some (.map children) →
      ∃ kept, Mapping.field? result map = some (.map kept) ∧
        ∀ key, (∀ name, key = .text name →
          (KeyPath.child map name).text ∉ payload.managedKeys) →
            get? kept key = get? children key
  /-- What the host has in the place of a shared map stays if the content has no managed child. -/
  untouched : ∀ map, .text map ∈ sharedMaps → map ∉ payload.managedKeys →
    children? host map = none →
    (∀ key, (KeyPath.child map key).text ∈ payload.managedKeys →
      childAt? payload.content map (.text key) = none) →
        Mapping.field? result map = Mapping.field? host map
  /-- Otherwise it becomes a map of the managed children that the content has. -/
  made : ∀ map, .text map ∈ sharedMaps → map ∉ payload.managedKeys →
    children? host map = none →
    (∃ key, (KeyPath.child map key).text ∈ payload.managedKeys ∧
      (childAt? payload.content map (.text key)).isSome) →
        ∃ children, Mapping.field? result map = some (.map children) ∧
          (∀ key, (KeyPath.child map key).text ∈ payload.managedKeys →
            get? children (.text key) = childAt? payload.content map (.text key)) ∧
          ∀ key, (∀ name, key = .text name →
            (KeyPath.child map name).text ∉ payload.managedKeys) → get? children key = none
  /-- Every other key of the document is as in the host. -/
  others : ∀ key, key ∉ sharedMaps →
    (∀ name ∈ payload.managedKeys, KeyPath.ofText sharedMaps name = .whole name →
      key ≠ .text name) → get? result key = get? host key
  /-- The keys of the host that are left stand in the host's order. -/
  order : (keys host).filter (· ∈ keys result) = (keys result).filter (· ∈ keys host)

theorem children?_eq_some_iff {map : String} {children : Mapping} :
    children? document map = some children ↔
      Mapping.field? document map = some (.map children) := by
  constructor
  · intro found
    obtain ⟨value, present, shape⟩ := Option.bind_eq_some_iff.mp found
    cases value with
    | map entries =>
      cases shape
      exact present
    | _ => cases shape
  · intro found
    rw [children?, found]
    rfl

/-- A path through a shared map that is not managed itself leads to a child of the map. -/
theorem ofText_of_root {path map : String} (managed : path ∈ payload.managedKeys)
    (unmanaged : map ∉ payload.managedKeys)
    (through : (KeyPath.ofText sharedMaps path).root = map) :
    ∃ key, KeyPath.ofText sharedMaps path = .child map key ∧
      (KeyPath.child map key).text ∈ payload.managedKeys := by
  cases read : KeyPath.ofText sharedMaps path with
  | whole key =>
    rw [read, KeyPath.root, KeyPath.eq_of_ofText_eq_whole read] at through
    exact absurd (through ▸ managed) unmanaged
  | child map' key =>
    rw [read] at through
    obtain rfl : map' = map := through
    exact ⟨key, rfl, (KeyPath.of_ofText_eq_child read).2 ▸ managed⟩

/-- Seen from a map that is not managed itself, placing a managed path goes to a child of the map or
leaves the map. -/
theorem applyPath_cases {path map : String} (managed : path ∈ payload.managedKeys)
    (unmanaged : map ∉ payload.managedKeys) (document : Mapping) :
    (∃ key, (KeyPath.child map key).text ∈ payload.managedKeys ∧
      applyPath payload.content document path =
        place document (.child map key) (valueAt? payload.content (.child map key))) ∨
      Mapping.field? (applyPath payload.content document path) map =
        Mapping.field? document map := by
  rw [applyPath]
  by_cases through : (KeyPath.ofText sharedMaps path).root = map
  · obtain ⟨key, read, member⟩ := ofText_of_root managed unmanaged through
    rw [read]
    exact Or.inl ⟨key, member, rfl⟩
  · have different : Scalar.text map ≠ .text (KeyPath.ofText sharedMaps path).root := by
      simpa using Ne.symm through
    exact Or.inr (get?_place_of_ne _ different)

/-- A child of a shared map that is not managed is as in the host. -/
theorem childAt?_apply_of_unmanaged {map : String} {key : Scalar}
    (unmanaged : map ∉ payload.managedKeys)
    (free : ∀ name, key = .text name → (KeyPath.child map name).text ∉ payload.managedKeys) :
    childAt? (apply host payload) map key = childAt? host map key := by
  apply apply_preserves fun document => childAt? document map key
  intro path managed document
  rcases applyPath_cases managed unmanaged document with ⟨name, member, placed⟩ | same
  · rw [placed]
    exact childAt?_place_child_of_ne map _ fun same => free name same member
  · rw [childAt?, children?, same]
    rfl

/-- A map of the host that is not managed itself stays a map. -/
theorem children?_apply_isSome {map : String} (unmanaged : map ∉ payload.managedKeys)
    (present : (children? host map).isSome) : (children? (apply host payload) map).isSome := by
  apply apply_invariant (fun document => (children? document map).isSome) present
  intro path managed document present
  rcases applyPath_cases managed unmanaged document with ⟨name, -, placed⟩ | same
  · obtain ⟨children, found⟩ := Option.isSome_iff_exists.mp present
    rw [placed, children?_place_child, found]
    rfl
  · rw [children?, same]
    exact present

/-- What is no map stays if the content has nothing to put below it. -/
theorem field?_apply_of_no_child {map : String} (unmanaged : map ∉ payload.managedKeys)
    (absent : children? host map = none)
    (empty : ∀ key, (KeyPath.child map key).text ∈ payload.managedKeys →
      childAt? payload.content map (.text key) = none) :
    Mapping.field? (apply host payload) map = Mapping.field? host map := by
  apply apply_invariant (fun document => Mapping.field? document map = Mapping.field? host map) rfl
  intro path managed document same
  rcases applyPath_cases managed unmanaged document with ⟨name, member, placed⟩ | kept
  · have nothing : valueAt? payload.content (.child map name) = none := empty name member
    have still : children? document map = none := by rwa [children?, same]
    rw [placed, nothing, place_child_none name still, same]
  · rw [kept, same]

theorem get?_apply_of_unmanaged {key : Scalar} (notShared : key ∉ sharedMaps)
    (unmanaged : ∀ name ∈ payload.managedKeys, KeyPath.ofText sharedMaps name = .whole name →
      key ≠ .text name) : get? (apply host payload) key = get? host key := by
  apply apply_preserves fun document => get? document key
  intro path managed document
  apply get?_place_of_ne
  cases read : KeyPath.ofText sharedMaps path with
  | whole name =>
    obtain rfl := KeyPath.eq_of_ofText_eq_whole read
    exact unmanaged name managed read
  | child map name =>
    rintro rfl
    exact notShared (KeyPath.of_ofText_eq_child read).1

/-- The keys that a document has in common with the host stand in the host's order, and only keys
that the content does not have are missing. -/
structure KeepsOrder (host content document : Mapping) : Prop where
  order : (keys host).filter (· ∈ keys document) = (keys document).filter (· ∈ keys host)
  missing : ∀ key ∈ keys host, key ∉ keys document → get? content key = none

theorem KeepsOrder.refl (host content : Mapping) : KeepsOrder host content host :=
  ⟨rfl, fun _ present absent => absurd present absent⟩

theorem KeepsOrder.set (keeps : KeepsOrder host content document) {key : Scalar} (value : Value)
    (known : key ∈ keys document ∨ get? content key ≠ none) :
    KeepsOrder host content (Entries.set document key value) := by
  by_cases present : key ∈ keys document
  · exact ⟨by rw [keys_set_of_mem value present, keeps.order],
      fun other member => by rw [keys_set_of_mem value present]; exact keeps.missing other member⟩
  -- A key that is new to the document is new to the host: the content has it.
  have fresh : key ∉ keys host := by
    intro member
    exact (known.resolve_left present) (keeps.missing key member present)
  have keys_eq := keys_set_of_not_mem value present
  refine ⟨?_, ?_⟩
  · rw [keys_eq, List.filter_append, ← keeps.order]
    simp only [List.filter_cons, fresh, decide_false, Bool.false_eq_true, if_false,
      List.filter_nil, List.append_nil]
    apply List.filter_congr
    intro other member
    have different : other ≠ key := fun same => fresh (same ▸ member)
    simp [different]
  · intro other member absent
    rw [keys_eq, List.mem_append, not_or] at absent
    exact keeps.missing other member absent.1

theorem KeepsOrder.erase (keeps : KeepsOrder host content document) {key : Scalar}
    (dropped : get? content key = none) :
    KeepsOrder host content (Entries.erase document key) := by
  refine ⟨?_, ?_⟩
  · calc
      (keys host).filter (· ∈ keys (Entries.erase document key)) =
          ((keys host).filter (· ∈ keys document)).filter (· ≠ key) := by
        rw [List.filter_filter]
        apply List.filter_congr
        intro other _
        simp [keys_erase, Bool.and_comm]
      _ = (keys (Entries.erase document key)).filter (· ∈ keys host) := by
        rw [keeps.order, keys_erase, List.filter_filter, List.filter_filter]
        simp only [Bool.and_comm]
  · intro other member absent
    by_cases same : other = key
    · rw [same, dropped]
    · apply keeps.missing other member
      simpa [keys_erase, same] using absent

private theorem ne_none_of_childAt? {map : String} {key : Scalar} {value : Value}
    (found : childAt? content map key = some value) : get? content (.text map) ≠ none := by
  intro absent
  rw [childAt?, children?, Mapping.field?, absent] at found
  cases found

/-- Placing the content's value at a path keeps the order of the host. -/
theorem KeepsOrder.place (keeps : KeepsOrder host content document) (path : KeyPath) :
    KeepsOrder host content (Merge.place document path (valueAt? content path)) := by
  cases path with
  | whole key =>
    change KeepsOrder host content (setOrErase document key (Mapping.field? content key))
    cases found : Mapping.field? content key with
    | none => exact keeps.erase found
    | some value =>
      have carried : get? content (.text key) ≠ none := by
        rw [show get? content (.text key) = some value from found]
        exact Option.some_ne_none value
      exact keeps.set value (Or.inr carried)
  | child map key =>
    cases found : children? document map with
    | some children =>
      rw [place_child_of_children? key _ found]
      refine keeps.set _ (Or.inl ?_)
      rw [← get?_isSome_iff]
      exact Option.isSome_of_eq_some (children?_eq_some_iff.mp found)
    | none =>
      cases carried : valueAt? content (.child map key) with
      | none => rwa [place_child_none key found]
      | some value =>
        rw [place_child_some key value found]
        exact keeps.set _ (Or.inr (ne_none_of_childAt? carried))

private theorem keepsOrder_apply (host : Mapping) (payload : Payload) :
    KeepsOrder host payload.content (apply host payload) :=
  apply_invariant (KeepsOrder host payload.content) (.refl host payload.content)
    fun path _ _ keeps => keeps.place (KeyPath.ofText sharedMaps path)

theorem childAt?_apply_of_managed (host : Mapping) {map key : String}
    (isShared : .text map ∈ sharedMaps)
    (managed : (KeyPath.child map key).text ∈ payload.managedKeys) :
    childAt? (apply host payload) map (.text key) = childAt? payload.content map (.text key) := by
  have placed := valueAt?_apply host managed
  rwa [KeyPath.ofText_child key isShared] at placed

/-- The result is a map wherever a child is found below it. -/
theorem exists_map_of_childAt? {map : String} {key : Scalar} {value : Value}
    (found : childAt? document map key = some value) :
    ∃ children, Mapping.field? document map = some (.map children) := by
  obtain ⟨children, present, -⟩ := Option.bind_eq_some_iff.mp found
  exact ⟨children, children?_eq_some_iff.mp present⟩

theorem childAt?_of_field? {map : String} {children : Mapping}
    (present : Mapping.field? document map = some (.map children)) (key : Scalar) :
    childAt? document map key = get? children key := by
  rw [childAt?, children?_eq_some_iff.mpr present]
  rfl

/-- A map of the host that is not managed itself keeps the children that are not managed. -/
theorem exists_kept_children {map : String} {children : Mapping}
    (unmanaged : map ∉ payload.managedKeys)
    (present : Mapping.field? host map = some (.map children)) :
    ∃ kept, Mapping.field? (apply host payload) map = some (.map kept) ∧
      ∀ key, (∀ name, key = .text name → (KeyPath.child map name).text ∉ payload.managedKeys) →
        get? kept key = get? children key := by
  have isMap : (children? (apply host payload) map).isSome := by
    apply children?_apply_isSome unmanaged
    rw [children?_eq_some_iff.mpr present]
    rfl
  obtain ⟨kept, found⟩ := Option.isSome_iff_exists.mp isMap
  rw [children?_eq_some_iff] at found
  refine ⟨kept, found, fun key free => ?_⟩
  rw [← childAt?_of_field? found, ← childAt?_of_field? present]
  exact childAt?_apply_of_unmanaged unmanaged free

/-- Applying a payload has its effect on every document of the host, whatever paths it manages. -/
theorem apply_effect (host : Mapping) (payload : Payload) :
    Effect host payload (apply host payload) where
  whole key managed read := by
    have placed := valueAt?_apply host managed
    rwa [read] at placed
  child map key isShared managed := childAt?_apply_of_managed host isShared managed
  siblings _ _ _ unmanaged present := exists_kept_children unmanaged present
  untouched map _ unmanaged absent empty := field?_apply_of_no_child unmanaged absent empty
  made map isShared unmanaged absent carried := by
    obtain ⟨name, managed, isSome⟩ := carried
    obtain ⟨value, carried⟩ := Option.isSome_iff_exists.mp isSome
    rw [← childAt?_apply_of_managed host isShared managed] at carried
    obtain ⟨children, found⟩ := exists_map_of_childAt? carried
    refine ⟨children, found, fun key member => ?_, fun key free => ?_⟩
    · rw [← childAt?_of_field? found]
      exact childAt?_apply_of_managed host isShared member
    · rw [← childAt?_of_field? found, childAt?_apply_of_unmanaged unmanaged free, childAt?, absent]
      rfl
  others key notShared unmanaged := get?_apply_of_unmanaged notShared unmanaged
  order := (keepsOrder_apply host payload).order

end EditorPlugins.Merge
