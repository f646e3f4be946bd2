import EditorPlugins.Text.Basic
import EditorPlugins.Value.Display

/-! # Key paths

A key path names an entry of a document: a key of the document itself, or a child of one of the
maps that several plugins share. Written out, a child is joined to its map by a dot. Only the first
dot behind the name of a shared map separates, so the names of children and of other keys may hold
dots of their own.
-/

namespace EditorPlugins.Merge

open Text

/-- The maps whose children belong to different plugins. -/
def sharedMaps : List Scalar := [.text "hooks", .text "mcpServers"]

/-- An entry of a document. -/
inductive KeyPath where
  | whole (key : String)
  | child (map key : String)
deriving DecidableEq, Repr

namespace KeyPath

/-- The keys on the way to the entry. -/
def keys : KeyPath → List String
  | whole key => [key]
  | child map key => [map, key]

def text : KeyPath → String
  | whole key => key
  | child map key => map ++ "." ++ key

/-- Read a path, given the shared maps. -/
def ofText (shared : List Scalar) (path : String) : KeyPath :=
  match cutAt '.' path.toList with
  | (_, none) => whole path
  | (before, some after) =>
    let map := String.ofList before
    if (Scalar.text map).isAmong shared then child map (String.ofList after) else whole path

end KeyPath

/-- What manages an entry: the paths of its children if it is a shared map, otherwise its key. -/
def managedBy (shared : List Scalar) (key : Scalar) (value : Value) : List Scalar :=
  match value.map? with
  | some children =>
    if key.isAmong shared then
      children.map fun entry => .text (KeyPath.child key.display entry.1.display).text
    else [key]
  | none => [key]

/-- The keys and paths that a document takes up, each once and in order. -/
def managedKeys (shared : List Scalar) (content : Mapping) : List Scalar :=
  Scalar.distinct <| content.flatMap fun (key, value) => managedBy shared key value

end EditorPlugins.Merge
