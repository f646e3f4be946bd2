import EditorPlugins.Proofs.Merge.Effect
import EditorPlugins.Proofs.Value.Alike

/-! # Payloads applied one after another

A payload leaves a document as it is exactly when the document has the content's value at every
managed path, and its own result is such a document. Payloads that manage different entries may be
applied in either order: a key that only one of them leads through is not seen by the other, and
below a shared map each child belongs to one of them. Only the order in which new keys are added
tells the two results apart.
-/

namespace EditorPlugins.Merge

open Entries Value

variable {host document other content : Mapping} {payload first second : Payload}

/-- A payload changes nothing exactly where its content is installed. -/
theorem apply_eq_self_iff : apply host payload = host ↔ ∀ path ∈ payload.managedKeys,
    valueAt? host (KeyPath.ofText sharedMaps path) =
      valueAt? payload.content (KeyPath.ofText sharedMaps path) := by
  constructor
  · intro unchanged path managed
    have placed := valueAt?_apply host managed
    rwa [unchanged] at placed
  · intro agree
    apply apply_invariant (fun document => document = host) rfl
    rintro path managed document rfl
    rw [applyPath, ← agree path managed, place_valueAt?]

/-- Applying a payload once more changes nothing. -/
theorem apply_apply (host : Mapping) (payload : Payload) :
    apply (apply host payload) payload = apply host payload :=
  apply_eq_self_iff.mpr fun _ managed => valueAt?_apply host managed

/-- What a placement makes of a key depends on what the document has there, and on nothing else. -/
theorem get?_place_congr {key : Scalar} (path : KeyPath) (value : Option Value)
    (same : get? document key = get? other key) :
    get? (place document path value) key = get? (place other path value) key := by
  by_cases through : key = .text path.root
  case neg => rw [get?_place_of_ne value through, get?_place_of_ne value through, same]
  subst through
  cases path with
  | whole name =>
    exact (field?_setOrErase_self document name value).trans
      (field?_setOrErase_self other name value).symm
  | child map name =>
    have children : children? document map = children? other map :=
      congrArg (fun found : Option Value => found.bind Value.map?) same
    cases found : children? other map with
    | some entries =>
      rw [place_child_of_children? name value (children.trans found),
        place_child_of_children? name value found]
      exact (get?_set_self document _ _).trans (get?_set_self other _ _).symm
    | none =>
      cases value with
      | none =>
        rw [place_child_none name (children.trans found), place_child_none name found]
        exact same
      | some value =>
        rw [place_child_some name value (children.trans found), place_child_some name value found]
        exact (get?_set_self document _ _).trans (get?_set_self other _ _).symm

/-- What a payload makes of a key depends on what the host has there, and on nothing else. -/
theorem get?_apply_congr {key : Scalar} (payload : Payload)
    (same : get? document key = get? other key) :
    get? (apply document payload) key = get? (apply other payload) key := by
  obtain ⟨paths, content⟩ := payload
  induction paths generalizing document other with
  | nil => exact same
  | cons path rest ih => exact ih (get?_place_congr _ _ same)

/-- Payloads that manage different entries: no path of one leads to an entry of the other, or
through it. -/
def Payload.Apart (first second : Payload) : Prop :=
  ∀ path ∈ first.managedKeys, ∀ other ∈ second.managedKeys,
    ¬ (KeyPath.ofText sharedMaps path).keys <+: (KeyPath.ofText sharedMaps other).keys ∧
      ¬ (KeyPath.ofText sharedMaps other).keys <+: (KeyPath.ofText sharedMaps path).keys

instance (first second : Payload) : Decidable (first.Apart second) :=
  inferInstanceAs (Decidable (∀ path ∈ first.managedKeys, ∀ other ∈ second.managedKeys, _ ∧ _))

theorem Payload.Apart.symm (apart : first.Apart second) : second.Apart first :=
  fun path managed other also => (apart other also path managed).symm

/-- A map that belongs to two payloads: neither manages it as a whole, and no child is managed by
both. -/
structure Shares (map : String) (first second : Payload) : Prop where
  isShared : .text map ∈ sharedMaps
  unmanaged : map ∉ first.managedKeys
  also : map ∉ second.managedKeys
  apart : ∀ key, (KeyPath.child map key).text ∈ first.managedKeys →
    (KeyPath.child map key).text ∉ second.managedKeys

theorem Shares.symm {map : String} (shares : Shares map first second) :
    Shares map second first :=
  ⟨shares.isShared, shares.also, shares.unmanaged,
    fun key managed member => shares.apart key member managed⟩

/-- Where paths of both payloads lead through one key, the key is a shared map, and the other
payload does not manage it as a whole. -/
theorem Payload.Apart.of_root (apart : first.Apart second) {path other : String}
    (managed : path ∈ first.managedKeys) (also : other ∈ second.managedKeys)
    (meet : (KeyPath.ofText sharedMaps path).root = (KeyPath.ofText sharedMaps other).root) :
    .text (KeyPath.ofText sharedMaps path).root ∈ sharedMaps ∧
      (KeyPath.ofText sharedMaps path).root ∉ second.managedKeys := by
  have different := (apart path managed other also).1
  cases read : KeyPath.ofText sharedMaps path with
  | whole key =>
    rw [read] at different meet
    cases readOther : KeyPath.ofText sharedMaps other with
    | whole name =>
      rw [readOther] at different meet
      obtain rfl : key = name := meet
      exact absurd (List.prefix_refl _) different
    | child map name =>
      rw [readOther] at different meet
      obtain rfl : key = map := meet
      exact absurd (List.prefix_append [key] [name]) different
  | child map key =>
    have isShared := (KeyPath.of_ofText_eq_child read).1
    refine ⟨isShared, fun member => ?_⟩
    have through := (apart path managed map member).2
    rw [read, KeyPath.ofText_map isShared] at through
    exact through (List.prefix_append [map] [key])

/-- A key that paths of both payloads lead through is a map that belongs to both. -/
theorem Payload.Apart.shares (apart : first.Apart second) {path other : String}
    (managed : path ∈ first.managedKeys) (also : other ∈ second.managedKeys)
    (meet : (KeyPath.ofText sharedMaps path).root = (KeyPath.ofText sharedMaps other).root) :
    Shares (KeyPath.ofText sharedMaps path).root first second where
  isShared := (apart.of_root managed also meet).1
  unmanaged := meet ▸ (apart.symm.of_root also managed meet.symm).2
  also := (apart.of_root managed also meet).2
  apart _ member again := (apart _ member _ again).1 (List.prefix_refl _)

section Shared

variable {map : String}

/-- What is no map after a payload was applied is as it was, and the payload has no child for it. -/
theorem of_children?_apply_eq_none (isShared : .text map ∈ sharedMaps)
    (unmanaged : map ∉ payload.managedKeys) (absent : children? (apply host payload) map = none) :
    Mapping.field? (apply host payload) map = Mapping.field? host map ∧
      ∀ key, (KeyPath.child map key).text ∈ payload.managedKeys →
        childAt? payload.content map (.text key) = none := by
  have empty : ∀ key, (KeyPath.child map key).text ∈ payload.managedKeys →
      childAt? payload.content map (.text key) = none := by
    intro key managed
    rw [← childAt?_apply_of_managed host isShared managed, childAt?, absent]
    rfl
  have before : children? host map = none := by
    apply Option.not_isSome_iff_eq_none.mp
    intro present
    have after := children?_apply_isSome unmanaged present
    rw [absent] at after
    cases after
  exact ⟨field?_apply_of_no_child unmanaged before empty, empty⟩

/-- Each child of a map that belongs to two payloads is left alone by one of them. -/
theorem Shares.childAt?_comm (shares : Shares map first second) (host : Mapping) (key : Scalar) :
    childAt? (apply (apply host first) second) map key =
      childAt? (apply (apply host second) first) map key := by
  by_cases mine : ∃ name, key = .text name ∧ (KeyPath.child map name).text ∈ first.managedKeys
  · obtain ⟨name, rfl, managed⟩ := mine
    have free : ∀ other, Scalar.text name = .text other →
        (KeyPath.child map other).text ∉ second.managedKeys := by
      rintro other same
      exact Scalar.text.inj same ▸ shares.apart name managed
    rw [childAt?_apply_of_unmanaged shares.also free,
      childAt?_apply_of_managed _ shares.isShared managed,
      childAt?_apply_of_managed _ shares.isShared managed]
  · have free : ∀ name, key = .text name →
        (KeyPath.child map name).text ∉ first.managedKeys :=
      fun name same managed => mine ⟨name, same, managed⟩
    rw [childAt?_apply_of_unmanaged shares.unmanaged free]
    by_cases other : ∃ name, key = .text name ∧
        (KeyPath.child map name).text ∈ second.managedKeys
    · obtain ⟨name, rfl, managed⟩ := other
      rw [childAt?_apply_of_managed _ shares.isShared managed,
        childAt?_apply_of_managed _ shares.isShared managed]
    · have also : ∀ name, key = .text name →
          (KeyPath.child map name).text ∉ second.managedKeys :=
        fun name same managed => other ⟨name, same, managed⟩
      rw [childAt?_apply_of_unmanaged shares.also also,
        childAt?_apply_of_unmanaged shares.also also,
        childAt?_apply_of_unmanaged shares.unmanaged free]

/-- Where two payloads leave no map, neither of them has a child for it, in either order. -/
theorem Shares.field?_comm (shares : Shares map first second)
    (absent : children? (apply (apply host first) second) map = none) :
    Mapping.field? (apply (apply host first) second) map =
      Mapping.field? (apply (apply host second) first) map := by
  obtain ⟨last, emptySecond⟩ := of_children?_apply_eq_none shares.isShared shares.also absent
  have middle : children? (apply host first) map = none := by
    rwa [children?, last] at absent
  obtain ⟨start, emptyFirst⟩ :=
    of_children?_apply_eq_none shares.isShared shares.unmanaged middle
  have before : children? host map = none := by rwa [children?, start] at middle
  have kept := field?_apply_of_no_child shares.also before emptySecond
  have still : children? (apply host second) map = none := by rwa [children?, kept]
  rw [last, start, field?_apply_of_no_child shares.unmanaged still emptyFirst, kept]

/-- A map that belongs to two payloads comes out alike in either order. -/
theorem Shares.rel_comm (shares : Shares map first second) (host : Mapping) :
    Option.Rel Alike (Mapping.field? (apply (apply host first) second) map)
      (Mapping.field? (apply (apply host second) first) map) := by
  cases found : children? (apply (apply host first) second) map with
  | none =>
    rw [shares.field?_comm found]
    exact Alike.rel_refl _
  | some entries =>
    cases also : children? (apply (apply host second) first) map with
    | none =>
      have same := shares.symm.field?_comm also
      rw [children?, same] at also
      cases also.symm.trans found
    | some others =>
      rw [children?_eq_some_iff.mp found, children?_eq_some_iff.mp also]
      refine .some (Alike.map_of_get? fun key => ?_)
      rw [← childAt?_of_field? (children?_eq_some_iff.mp found),
        ← childAt?_of_field? (children?_eq_some_iff.mp also)]
      exact shares.childAt?_comm host key

end Shared

/-- A key that no path of a payload leads through comes out the same whether the payload is applied
first or last. -/
theorem get?_comm_of_root {key : Scalar} (elsewhere : ∀ path ∈ first.managedKeys,
    key ≠ .text (KeyPath.ofText sharedMaps path).root) (host : Mapping) :
    get? (apply (apply host first) second) key = get? (apply (apply host second) first) key := by
  rw [get?_apply_of_root elsewhere]
  exact get?_apply_congr second (get?_apply_of_root elsewhere)

/-- Payloads that manage different entries have the same effect in either order. -/
theorem apply_comm (host : Mapping) (apart : first.Apart second) :
    Alike (.map (apply (apply host first) second)) (.map (apply (apply host second) first)) := by
  refine Alike.map_of_rel fun key => ?_
  by_cases mine : ∃ path ∈ first.managedKeys, key = .text (KeyPath.ofText sharedMaps path).root
  case neg =>
    rw [get?_comm_of_root (fun path managed same => mine ⟨path, managed, same⟩) host]
    exact Alike.rel_refl _
  by_cases other : ∃ path ∈ second.managedKeys, key = .text (KeyPath.ofText sharedMaps path).root
  case neg =>
    rw [← get?_comm_of_root (fun path managed same => other ⟨path, managed, same⟩) host]
    exact Alike.rel_refl _
  obtain ⟨path, managed, rfl⟩ := mine
  obtain ⟨other, also, meet⟩ := other
  exact (apart.shares managed also (Scalar.text.inj meet)).rel_comm host

/-- A payload that brings a hook and a key of the document. -/
def startPayload : Payload where
  managedKeys := ["hooks.start", "theme"]
  content := [(.text "hooks", .map [(.text "start", .list [])]), (.text "theme", .text "dark")]

/-- A payload that takes a hook away and brings a server. -/
def stopPayload : Payload where
  managedKeys := ["mcpServers.brain", "hooks.stop"]
  content := [(.text "mcpServers", .map [(.text "brain", .null)])]

/-- The map of hooks is made by one payload only, in the place of something else, and the keys that
are new to the host come in the order of the payloads. -/
theorem startPayload_stopPayload_comm :
    startPayload.Apart stopPayload ∧
      Alike (.map (apply (apply [(.text "hooks", .text "off")] startPayload) stopPayload))
        (.map (apply (apply [(.text "hooks", .text "off")] stopPayload) startPayload)) := by
  have apart : startPayload.Apart stopPayload := by decide
  exact ⟨apart, apply_comm _ apart⟩

end EditorPlugins.Merge
