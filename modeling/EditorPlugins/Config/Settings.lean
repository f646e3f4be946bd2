import EditorPlugins.Config.Check

/-! # Settings of agents and hooks

Settings are records of named fields. A field that is left out differs from one that is given as
nothing only in what was `given`; whoever uses the settings treats both as not set. Some fields have
several names, of which the first one given counts.
-/

namespace EditorPlugins.Config

open Text

/-- The settings of an agent for one target. -/
structure AgentSettings where
  model : Option String
  description : Option String
  memory : Option String
  color : Option String
  argumentHint : Option String
  tools : Option (List String)
  skills : Option (List String)
  given : List String
deriving DecidableEq, Repr

namespace AgentSettings

/-- The names of the fields, and for each the names it may be given under, in their order. -/
def fieldNames : List (String × List String) :=
  [("model", ["model"]), ("description", ["description"]), ("memory", ["memory"]),
    ("color", ["color"]),
    ("argument_hint", ["argument_hint", "argument-hint", "argumentHint"]),
    ("tools", ["tools", "allowed_tools", "allowed-tools"]), ("skills", ["skills"])]

/-- The names under which a field may be given. -/
def namesOf (name : String) : List String := (fieldNames.lookup name).getD [name]

/-- The fields that a record gives, whatever their values. -/
def givenIn (entries : Mapping) : List String :=
  (fieldNames.filter fun (_, names) => (firstField? entries names).isSome).map Prod.fst

def textField (entries : Mapping) (name : String) : Checked (Option String) :=
  fieldOr entries (namesOf name) none (checkOptional checkText)

def textsField (entries : Mapping) (name : String) : Checked (Option (List String)) :=
  fieldOr entries (namesOf name) none (checkOptional checkTexts)

def ofRecord (entries : Mapping) : Checked AgentSettings :=
  let texts := (textField entries "model").both <| (textField entries "description").both <|
    (textField entries "memory").both <| (textField entries "color").both <|
    textField entries "argument_hint"
  let lists := (textsField entries "tools").both (textsField entries "skills")
  (texts.both lists).map fun ((model, description, memory, color, hint), (tools, skills)) =>
    ⟨model, description, memory, color, hint, tools, skills, givenIn entries⟩

def ofValue : Value → Checked AgentSettings := checkRecord ofRecord

def textValue : Option String → Value
  | some text => .text text
  | none => .null

def textsValue : Option (List String) → Value
  | some texts => Value.texts texts
  | none => .null

def toValue (settings : AgentSettings) : Value :=
  .map <| Mapping.ofFields
    [("model", textValue settings.model), ("description", textValue settings.description),
      ("memory", textValue settings.memory), ("color", textValue settings.color),
      ("argument_hint", textValue settings.argumentHint), ("tools", textsValue settings.tools),
      ("skills", textsValue settings.skills)]

end AgentSettings

/-- How a hook is registered for one target. -/
structure HookSettings where
  event : String
  matcher : String
  timeout : Int
  script : Option String
deriving DecidableEq, Repr

namespace HookSettings

/-- The timeout of a hook that gives none, in seconds. -/
def defaultTimeout : Int := 10

/-- The name of an event is not blank. -/
def checkEvent (value : Value) : Checked String :=
  require (fun event => !isBlankText event.toList) "Hook event must not be empty" (checkText value)

/-- A timeout is a positive whole number. -/
def checkTimeout (value : Value) : Checked Int :=
  require (fun timeout => 0 < timeout) "Hook timeout must be positive" (checkWhole value)

def ofRecord (entries : Mapping) : Checked HookSettings :=
  let fields := (field entries "event" checkEvent).both <|
    (fieldOr entries ["matcher"] "" checkText).both <|
    (fieldOr entries ["timeout"] defaultTimeout checkTimeout).both <|
    fieldOr entries ["script"] none (checkOptional checkText)
  fields.map fun (event, matcher, timeout, script) => ⟨event, matcher, timeout, script⟩

def ofValue : Value → Checked HookSettings := checkRecord ofRecord

def toValue (settings : HookSettings) : Value :=
  .map <| Mapping.ofFields
    [("event", .text settings.event), ("matcher", .text settings.matcher),
      ("timeout", .int settings.timeout), ("script", AgentSettings.textValue settings.script)]

end HookSettings

/-- Where the hooks of a target are kept in the template tree. -/
structure HookSource where
  source : String
  scripts : Option String
deriving DecidableEq, Repr

namespace HookSource

def ofRecord (entries : Mapping) : Checked HookSource :=
  let fields := (field entries "source" checkText).both <|
    fieldOr entries ["scripts"] none (checkOptional checkText)
  fields.map fun (source, scripts) => ⟨source, scripts⟩

def ofValue : Value → Checked HookSource := checkRecord ofRecord

def toValue (hooks : HookSource) : Value :=
  .map <| Mapping.ofFields
    [("source", .text hooks.source), ("scripts", AgentSettings.textValue hooks.scripts)]

end HookSource

end EditorPlugins.Config
