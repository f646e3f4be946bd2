import EditorPlugins.Yaml.Node
import EditorPlugins.Yaml.Scalar

/-! # Values of YAML documents

A document is the value of its tree. Keys must be scalars; keys that mean the same are one key, for
which the last value counts. A text without a document has no value. The collections of a document
are filled level by level, so of several faults the one on the outermost level is reported, and on
one level the first. Sets, lists of pairs and ordered maps have no value here: a document with one
of them is `unsupported`, as is one that holds itself.
-/

namespace EditorPlugins.Yaml

namespace Node

/-- The entry that stays in a map when its merges cannot be made. -/
def refusedMerge : Node × Node := (.scalar .merge "", empty)

mutual

/-- Replace the merges in a tree by the entries they stand for. Only what is to be a map has any. -/
def expand : Node → Node
  | .scalar kind text => .scalar kind text
  | .list kind items => .list kind (expandItems items)
  | .map kind entries =>
    if kind = .map then
      match expandEntries entries with
      | some (others, own) => .map kind (others ++ own)
      | none => .map kind [refusedMerge]
    else .map kind entries

def expandItems : List Node → List Node
  | [] => []
  | item :: items => expand item :: expandItems items

/-- The merged entries and the own entries of a map; `none` when a merge cannot be made. -/
def expandEntries : List (Node × Node) → Option (List (Node × Node) × List (Node × Node))
  | [] => some ([], [])
  | (key, value) :: entries =>
    match expandEntries entries with
    | none => none
    | some (others, own) =>
      if key.kind = .merge then (sources? value).map fun merged => (merged ++ others, own)
      else some (others, (expand key, expand value) :: own)

/-- The entries of the maps that a merged node stands for, the first map's entries last. -/
def sources? : Node → Option (List (Node × Node))
  | .scalar _ _ => none
  | .list _ items => itemSources? items
  | .map _ entries => (expandEntries entries).map fun (others, own) => others ++ own

/-- The entries of the maps in a list, the first map's entries last. -/
def itemSources? : List Node → Option (List (Node × Node))
  | [] => some []
  | .map _ entries :: items =>
    match expandEntries entries, itemSources? items with
    | some (others, own), some later => some (later ++ (others ++ own))
    | _, _ => none
  | _ :: _ => none

end

mutual

/-- The text of a node where a scalar is asked for: a map stands for its default entry. -/
def scalarText? : Node → Option String
  | .scalar _ text => some text
  | .list _ _ => none
  | .map _ entries => defaultText? entries

/-- The text of the default entry among some entries. -/
def defaultText? : List (Node × Node) → Option String
  | [] => none
  | (key, value) :: entries =>
    if key.kind = .default then scalarText? value else defaultText? entries

end

mutual

/-- Whether no node of a tree is a set or a list of pairs. -/
def isSupported : Node → Bool
  | .scalar _ _ => true
  | .list kind items => kind ≠ .omap && kind ≠ .pairs && areSupported items
  | .map kind entries => kind ≠ .set && entriesSupported entries

def areSupported : List Node → Bool
  | [] => true
  | item :: items => isSupported item && areSupported items

def entriesSupported : List (Node × Node) → Bool
  | [] => true
  | (key, value) :: entries => isSupported key && isSupported value && entriesSupported entries

end

end Node

/-- What is wrong in a tree, with the count of the collections around it. -/
structure Fault where
  depth : Nat
  error : ReadError
deriving DecidableEq, Repr

/-- A value made from a tree, or the fault that is reported. -/
abbrev Filled (α : Type) := Except Fault α

namespace Filled

variable {α β : Type}

/-- An outcome on the level of the tree itself. -/
def here (outcome : Read α) : Filled α := outcome.mapError (⟨0, ·⟩)

/-- The outcome of a collection from that of its content. -/
def inside (content : Filled α) : Filled α :=
  content.mapError fun fault => { fault with depth := fault.depth + 1 }

/-- Two outcomes side by side; of two faults the one on the outer level is reported, and the first
one on the same level. -/
def both (first : Filled α) (second : Filled β) : Filled (α × β) :=
  match first, second with
  | .ok a, .ok b => .ok (a, b)
  | .ok _, .error fault => .error fault
  | .error fault, .ok _ => .error fault
  | .error fault, .error other => .error (if other.depth < fault.depth then other else fault)

end Filled

namespace Node

/-- The value of a node that is to be a scalar of some kind. -/
def leafValue (kind : Kind) (node : Node) : Read Scalar :=
  match node.scalarText? with
  | none => .error .malformed
  | some text =>
    if kind = .date && node matches .map _ _ then .error (.refused .mapForDate)
    else scalarValue kind text

/-- The value of a node that can be a key. A key that is marked as a default is a text. -/
def keyValue (node : Node) : Filled Scalar :=
  if node.kind.isCollection then Filled.here (.error .malformed)
  else Filled.here (leafValue (if node.kind = .default then .text else node.kind) node)

/-- The value of a node that is no collection, or whose kind asks for another one. A collection is
filled after it is made, so that this is found out on the level below. -/
def plainValue (node : Node) : Filled Value :=
  if node.kind.isCollection then Filled.inside (Filled.here (.error .malformed))
  else (Filled.here (leafValue node.kind node)).map Value.scalar

mutual

/-- The value of a tree whose merges are made. -/
def value : Node → Filled Value
  | .scalar kind text => plainValue (.scalar kind text)
  | .list kind items =>
    if kind = .list then (Filled.inside (itemValues items)).map Value.list
    else plainValue (.list kind items)
  | .map kind entries =>
    if kind = .map then
      (Filled.inside (entryValues entries)).map fun entries => Value.map (Mapping.ofPairs entries)
    else plainValue (.map kind entries)

def itemValues : List Node → Filled (List Value)
  | [] => .ok []
  | item :: items =>
    ((value item).both (itemValues items)).map fun (item, items) => item :: items

/-- The keys and values of the entries of a map. -/
def entryValues : List (Node × Node) → Filled (List (Scalar × Value))
  | [] => .ok []
  | (key, item) :: entries =>
    (((keyValue key).both (value item)).both (entryValues entries)).map
      fun (entry, entries) => entry :: entries

end

end Node

/-- Read the value of a text; a text without a document means nothing. -/
def read (text : String) : Read Value := do
  match ← Reader.readOnly (← tokens text.toList) with
  | none => return .null
  | some node =>
    if node.isSupported then node.expand.value.mapError Fault.error else throw .unsupported

end EditorPlugins.Yaml
