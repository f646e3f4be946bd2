import EditorPlugins.Config.Check
import EditorPlugins.Merge.KeyPath

/-! # Merge payloads

A payload tells an installer what to put into a document of the host. It lists the paths it manages:
each is replaced by the payload's value there, or removed when the payload has none. Everything
else in the host's document stays as it is.
-/

namespace EditorPlugins.Merge

/-- Content for a document of the host, with the paths that it manages. -/
structure Payload where
  managedKeys : List String
  content : Mapping

namespace Payload

def ofRecord (entries : Mapping) : Config.Checked Payload :=
  let keys := Config.fieldOr entries ["managedKeys", "managed_keys"] [] Config.checkTexts
  let content := Config.fieldOr entries ["content"] [] Config.checkAnyMap
  (keys.both content).map fun (keys, content) => ⟨keys, Mapping.ofFields content⟩

/-- A payload for some content; without a list of keys it manages what the content takes up. -/
def ofContent (content : Mapping) (managed : Option (List Scalar)) : Config.Checked Payload :=
  let keys :=
    match managed with
    | none => Merge.managedKeys sharedMaps content
    | some keys => Scalar.distinct keys
  ofRecord <| Mapping.ofFields
    [("managed_keys", .list (keys.map Value.scalar)), ("content", .map content)]

def ofValue : Value → Config.Checked Payload := Config.checkRecord ofRecord

/-- The document that carries a payload to the installer. -/
def toValue (payload : Payload) : Value :=
  .map <| Mapping.ofFields
    [("managedKeys", Value.texts payload.managedKeys), ("content", .map payload.content)]

end Payload

def valueAt? (document : Mapping) : KeyPath → Option Value
  | .whole key => Mapping.field? document key
  | .child map key =>
    ((Mapping.field? document map).bind Value.map?).bind fun children =>
      Mapping.field? children key

def setOrErase (entries : Mapping) (key : String) : Option Value → Mapping
  | some value => Mapping.setField entries key value
  | none => Entries.erase entries (.text key)

/-- Give the entry at a path a value, or remove it. A map on the way is made only when there is
something to put into it. -/
def place (host : Mapping) (path : KeyPath) (value : Option Value) : Mapping :=
  match path with
  | .whole key => setOrErase host key value
  | .child map key =>
    match (Mapping.field? host map).bind Value.map?, value with
    | some children, value => Mapping.setField host map (.map (setOrErase children key value))
    | none, some value => Mapping.setField host map (.map (setOrErase [] key (some value)))
    | none, none => host

def applyPath (content : Mapping) (host : Mapping) (path : String) : Mapping :=
  let path := KeyPath.ofText sharedMaps path
  place host path (valueAt? content path)

def apply (host : Mapping) (payload : Payload) : Mapping :=
  payload.managedKeys.foldl (applyPath payload.content) host

end EditorPlugins.Merge
