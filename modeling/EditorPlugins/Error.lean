import EditorPlugins.Config.Issue
import EditorPlugins.Disk.Failure
import EditorPlugins.Json.Reader
import EditorPlugins.Json.Writer
import EditorPlugins.Text.Utf8
import EditorPlugins.Yaml.Cursor

/-! # Errors

An error is a cause with the data that its wording needs. Its category says which part of the work
failed; callers that tolerate missing templates ask for the category, never for the wording. Errors
of the program's own categories carry details for tools, the others are refusals of a single value.
Issues of a document are listed beside an error, so its wording only points to them.
-/

namespace EditorPlugins

open Number

/-- Why an operation fails. -/
inductive Error where
  /-- No configuration stands at a path of the disk. -/
  | configMissing (path : String)
  | configUnreadable (path : String) (cause : Disk.Failure)
  /-- No configuration stands at a path of the template tree. -/
  | configNotInTemplates (path : String)
  | configNotJson (fault : Json.Fault) (place : Json.Place)
  | configNotYaml
  /-- A value of the document has none of the types that its place admits. -/
  | configType (place : List Scalar) (wording : String)
  /-- Keys of a document have to be put in order, but their kinds have none. -/
  | keysUnordered (kind other : String)
  | configInvalid (issues : List Config.Issue)
  | hookSourceInvalid (target : String) (issues : List Config.Issue)
  | hookInvalid (hook target : String) (issues : List Config.Issue)
  | pathOutsideTemplates (path : String)
  | templateUnreadable (path : String) (cause : Disk.Failure)
  | directoryUnreadable (path : String) (cause : Disk.Failure)
  | templateNotText (path : String)
  | templateMissing (path : String)
  | directoryMissing (path : String)
  | snapshotMissing (path : String)
  | snapshotDirectoryMissing (path : String)
  | notComposable (path : String)
  | sectionMissing (path entry target : String)
  | unknownTarget (target : String) (known : List String)
  | targetNotCompiled (target : String)
  | writeFailed (path : String) (cause : Disk.Failure)
  | templatesAbsent (path : String)
  /-- A refusal of a command-line argument, with the wording of its cause. -/
  | argumentRefused (wording : String)
  | assignmentMalformed (text : String)
  | invalid (issues : List Config.Issue)
  | number (cause : ConversionError)
  /-- A value that has no JSON text. -/
  | unwritable (fault : Json.WriteFault)
  | valueRefused (wording : String)
  | scalarRefused (refusal : Yaml.Refusal)
  /-- A document holds a set, a list of pairs, or itself. -/
  | documentUnsupported
  | notUtf8 (cause : Text.Utf8.Failure)
  | disk (cause : Disk.Failure)

namespace Error

/-- The part of the work that failed. -/
inductive Category where
  | config
  | source
  | notFound
  | composition
  | compilation
  | write
  | general
  | validation
  | value
  | kind
  | key
  | decoding
  | system
deriving DecidableEq, Repr

def category : Error → Category
  | configMissing _ | configUnreadable .. | configNotInTemplates _ | configNotJson .. |
    configNotYaml | configType .. | configInvalid _ | hookSourceInvalid .. | hookInvalid .. =>
    .config
  | pathOutsideTemplates _ | templateUnreadable .. | directoryUnreadable .. | templateNotText _ =>
    .source
  | templateMissing _ | directoryMissing _ | snapshotMissing _ | snapshotDirectoryMissing _ =>
    .notFound
  | notComposable _ | sectionMissing .. => .composition
  | unknownTarget .. => .compilation
  | targetNotCompiled _ | scalarRefused (.notTruth _) | scalarRefused .emptyNumber => .key
  | writeFailed .. => .write
  | templatesAbsent _ | argumentRefused _ => .general
  | invalid _ => .validation
  | assignmentMalformed _ | number _ | valueRefused _ | unwritable (.number _) |
    scalarRefused (.tooLarge _) => .value
  | unwritable _ | keysUnordered .. | scalarRefused _ | documentUnsupported => .kind
  | notUtf8 _ => .decoding
  | disk cause => if cause.reason = .nullInName then .value else .system

/-- Whether an error is one of the program's own, which the command line reports. -/
def isReported (error : Error) : Bool :=
  match error.category with
  | .config | .source | .notFound | .composition | .compilation | .write | .general => true
  | _ => false

/-- The place of a value in a document, as its keys; the document itself has none. -/
def placeText (place : List Scalar) : String :=
  if place.isEmpty then "<root>" else Text.join "/" (place.map Scalar.display)

def message : Error → String
  | configMissing path => "Configuration file not found: " ++ path
  | configUnreadable _ cause => "Failed to read configuration file: " ++ cause.message
  | configNotInTemplates path => "Configuration file not found in templates: " ++ path
  | configNotJson fault place =>
    "Failed to parse configuration JSON: " ++ Json.faultText fault place
  | configNotYaml => "Failed to parse configuration YAML: ..."
  | configType place wording =>
    "Configuration schema validation failed at " ++ placeText place ++ ": " ++ wording
  | keysUnordered kind other =>
    "'>' not supported between instances of '" ++ kind ++ "' and '" ++ other ++ "'"
  | configInvalid _ => "Configuration validation failed: ..."
  | hookSourceInvalid target _ => "Invalid hooks source for target '" ++ target ++ "': ..."
  | hookInvalid hook target _ =>
    "Invalid hook '" ++ hook ++ "' for target '" ++ target ++ "': ..."
  | pathOutsideTemplates path =>
    "Template path must be relative and inside the template root: " ++ path
  | templateUnreadable path cause =>
    "Failed to read template file " ++ path ++ ": " ++ cause.message
  | directoryUnreadable path cause =>
    "Failed to list template directory " ++ path ++ ": " ++ cause.message
  | templateNotText path => "Template file is not valid UTF-8: " ++ path
  | templateMissing path => "Template file not found: " ++ path
  | directoryMissing path => "Template directory not found: " ++ path
  | snapshotMissing path => "Embedded template not found: " ++ path
  | snapshotDirectoryMissing path => "Embedded template directory not found: " ++ path
  | notComposable path => "Not a composable directory (no _order.yaml): " ++ path
  | sectionMissing path entry _ =>
    "Missing section '" ++ entry ++ "' in composable artifact " ++ path
  | unknownTarget target known =>
    "Unknown target '" ++ target ++ "' (known targets: " ++ Text.join ", " known ++ ")"
  | targetNotCompiled target => Text.literal target
  | writeFailed path cause => "Failed to write " ++ path ++ ": " ++ cause.message
  | templatesAbsent path => "Template directory not found: " ++ path
  | argumentRefused wording => wording
  | assignmentMalformed text => "Expected KEY=VALUE, got: " ++ Text.literal text
  | invalid _ => "Validation failed: ..."
  | number cause => cause.message
  | unwritable fault => fault.message
  | valueRefused wording => wording
  | scalarRefused refusal => refusal.message
  | documentUnsupported => "The document holds a set, a list of pairs, or itself"
  | notUtf8 cause => cause.message
  | disk cause => cause.message

/-- The data of an error for tools, by name. -/
def details : Error → Mapping
  | configMissing path | configUnreadable path _ | configNotInTemplates path |
    pathOutsideTemplates path | templateUnreadable path _ | directoryUnreadable path _ |
    templateNotText path | templateMissing path | directoryMissing path | snapshotMissing path |
    snapshotDirectoryMissing path | notComposable path | writeFailed path _ =>
    Mapping.ofFields [("path", .text path)]
  | configNotJson _ place =>
    Mapping.ofFields [("line", .int place.line), ("column", .int place.column)]
  | configType place _ => Mapping.ofFields [("path", .list (place.map Value.scalar))]
  | hookSourceInvalid target _ | unknownTarget target _ =>
    Mapping.ofFields [("target", .text target)]
  | hookInvalid hook target _ =>
    Mapping.ofFields [("hook", .text hook), ("target", .text target)]
  | sectionMissing path entry target =>
    Mapping.ofFields [("path", .text path), ("section", .text entry), ("target", .text target)]
  | _ => []

/-- The issues of a document that stand beside an error. -/
def issues? : Error → Option (List Config.Issue)
  | configInvalid issues | hookSourceInvalid _ issues | hookInvalid _ _ issues | invalid issues =>
    some issues
  | _ => none

end Error

end EditorPlugins
