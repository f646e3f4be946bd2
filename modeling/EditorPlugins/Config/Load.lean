import EditorPlugins.Config.Schema
import EditorPlugins.Config.Target
import EditorPlugins.Disk.Basic
import EditorPlugins.Json.Reader
import EditorPlugins.Template.Source
import EditorPlugins.Text.Lines
import EditorPlugins.Yaml.Document

/-! # Loading a configuration

A configuration is a JSON or a YAML document; the ending of its file's name tells which. It is read
from the disk, where any ending of a line counts as a feed, or from the template tree, where the
text is taken as it is. How YAML is read is a matter of its reader, which gives the value of a tree
or fails: what is done with the answer does not depend on which reader gave it.
-/

namespace EditorPlugins.Config

open Text

/-- The formats of documents. -/
inductive Format where
  | json
  | yaml
deriving DecidableEq, Repr

namespace Format

def ofPath (path : String) : Format :=
  let folded := String.ofList (lower path.toList)
  if endsWith ".yaml" folded || endsWith ".yml" folded then .yaml else .json

/-- Read the value of a document, with some reader of YAML. -/
def readWith (yaml : String → Yaml.Read Value) (format : Format) (text : String) :
    Except Error Value :=
  match format with
  | .json =>
    match Json.read text with
    | .ok value => .ok value
    | .error (.malformed fault place) => .error (.configNotJson fault place)
    | .error (.number cause) => .error (.number cause)
  | .yaml =>
    match yaml text with
    | .ok value => .ok value
    | .error .malformed => .error .configNotYaml
    | .error (.number cause) => .error (.number cause)
    | .error (.value wording) => .error (.valueRefused wording)
    | .error (.refused refusal) => .error (.scalarRefused refusal)
    | .error .unsupported => .error .documentUnsupported

end Format

/-- Read a configuration from the value of a document, comparing it with its shape if asked to. -/
def ofDocument (document : Value) (validate : Bool) : Except Error TargetConfig := do
  if validate then checkShape document
  match TargetConfig.ofValue document with
  | .ok config => return config
  | .error issues => throw (.configInvalid issues)

/-- A document that says nothing stands for an empty map. -/
def orEmpty : Value → Value
  | .null => .map []
  | document => document

/-- Read a configuration from a text, with some reader of YAML. -/
def parseWith (yaml : String → Yaml.Read Value) (text : String) (format : Format)
    (validate : Bool) : Except Error TargetConfig := do
  ofDocument (orEmpty (← format.readWith yaml text)) validate

def parse (text : String) (format : Format) (validate : Bool) : Except Error TargetConfig :=
  parseWith Yaml.read text format validate

/-- The path in the template tree where the configuration is looked for. -/
def defaultPath : String := "configs/target.config.json"

def readFile (disk : Disk) (path : FilePath) : Except Error String := do
  match disk.exists? path with
  | .error failure => throw (.disk failure)
  | .ok false => throw (.configMissing path.text)
  | .ok true =>
    match disk.readFile path with
    | .error failure => throw (.configUnreadable path.text failure)
    | .ok content =>
      match Utf8.decode content with
      | .error failure => throw (.notUtf8 failure)
      | .ok text => return String.ofList (unifyNewlines text.toList)

/-- Load a configuration from the disk, with some reader of YAML. -/
def loadWith (yaml : String → Yaml.Read Value) (disk : Disk) (path : FilePath) (validate : Bool) :
    Traced TargetConfig := do
  let text ← readFile disk path
  let config ← parseWith yaml text (Format.ofPath path.text) validate
  Traced.note .debug ("Loaded configuration " ++ path.text ++ " with " ++
    Number.natText config.agents.length ++ " agents")
  return config

def load (disk : Disk) (path : FilePath) (validate : Bool) : Traced TargetConfig :=
  loadWith Yaml.read disk path validate

def loadFromSource (source : Template.Source) (path : String) (validate : Bool) :
    Except Error TargetConfig := do
  match ← source.readText? path with
  | none => throw (.configNotInTemplates path)
  | some text => parse text (Format.ofPath path) validate

end EditorPlugins.Config
