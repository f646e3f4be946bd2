import EditorPlugins.Json.Reader
import EditorPlugins.Json.Writer
import EditorPlugins.Traced

/-! # JSON documents of the template tree

A document that should be a map but is not, or is no JSON at all, is passed over with a warning
that names it.
-/

namespace EditorPlugins.Json

/-- Read a map; `none`, and a warning, when the text is not one. -/
def readObject (text label : String) : Traced (Option Mapping) :=
  match read text with
  | .error (.number cause) => Traced.fail (.number cause)
  | .error (.malformed fault place) => do
    Traced.note .warning
      ("Ignoring " ++ label ++ ": invalid JSON (" ++ faultText fault place ++ ")")
    return none
  | .ok (.map entries) => return some entries
  | .ok _ => do
    Traced.note .warning ("Ignoring " ++ label ++ ": expected a JSON object")
    return none

def render (value : Value) : Traced String := Traced.ofExcept Error.unwritable (write value)

end EditorPlugins.Json
