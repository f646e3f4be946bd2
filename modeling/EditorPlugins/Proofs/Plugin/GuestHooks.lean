import EditorPlugins.Plugin.Guest
import EditorPlugins.Proofs.Json.Written
import EditorPlugins.Proofs.Merge.Effect
import EditorPlugins.Proofs.Outcome
import EditorPlugins.Proofs.Traced
import EditorPlugins.Proofs.Value.Keys

/-! # The hooks of a guest plugin

The hooks of a document and those registered in the configuration are folded into one map. Each
registration goes behind the entries that its event has by then, so an event ends with what the
document declares for it and its own registrations, in the order of the configuration; nothing is
lost on the way, or moved to another event.
-/

namespace EditorPlugins

open Config Entries

namespace Config.TargetConfig

/-- The settings of a hook for a target, if they name an event. -/
def eventSettings? (target : String) (entry : Option (Entries String Value)) : Option Mapping :=
  match entry.bind fun entry => get? entry target with
  | some (.map settings) => if has settings (.text "event") then some settings else none
  | _ => none

/-- The hooks that name an event for a target, with their settings, in the order of the document. -/
def eventHooks (config : TargetConfig) (target : String) : List (String × Mapping) :=
  config.hooks.filterMap fun declared => (eventSettings? target declared.2).map (declared.1, ·)

private theorem registration?_eq (target name : String) (entry : Option (Entries String Value)) :
    registration? target name entry =
      match eventSettings? target entry with
      | none => .ok none
      | some settings =>
        match HookSettings.ofRecord settings with
        | .ok hook => .ok (some (name, hook))
        | .error issues => .error (.hookInvalid name target issues) := by
  unfold registration? eventSettings?
  cases entry.bind fun entry => get? entry target with
  | none => rfl
  | some value =>
    cases value with
    | map settings =>
      dsimp only
      split <;> rfl
    | _ => rfl

/-- The registered hooks are those that name an event, one by one and in their order. -/
theorem forall₂_of_hookRegistrations {config : TargetConfig} {target : String}
    {registered : List (String × HookSettings)}
    (registers : config.hookRegistrations target = .ok registered) :
    List.Forall₂ (fun declared hook =>
      hook.1 = declared.1 ∧ HookSettings.ofRecord declared.2 = .ok hook.2)
      (config.eventHooks target) registered := by
  obtain ⟨found, ran, same⟩ := Outcome.bind_eq_ok_iff.mp registers
  obtain rfl := Outcome.pure_eq_ok_iff.mp same
  have stands := Outcome.forall₂_of_mapM ran
  unfold eventHooks
  generalize config.hooks = hooks at stands ⊢
  clear registers ran same
  induction stands with
  | nil => exact .nil
  | @cons declared first hooks rest here _ ih =>
    obtain ⟨name, entry⟩ := declared
    change registration? target name entry = .ok first at here
    cases named : eventSettings? target entry with
    | none =>
      simp only [registration?_eq, named] at here
      cases here
      rw [List.filterMap_cons_none (by rw [named, Option.map_none])]
      exact ih
    | some settings =>
      simp only [registration?_eq, named] at here
      rw [List.filterMap_cons_some (by rw [named, Option.map_some])]
      split at here
      · next hook made =>
        cases here
        exact .cons ⟨rfl, made⟩ ih
      · cases here

end Config.TargetConfig

namespace Plugin.Guest

variable {document events content : Mapping} {registered : List (String × HookSettings)}

/-- The entries that a map of events has for an event. -/
def entriesAt (events : Mapping) (event : String) : List Value :=
  ((Mapping.field? events event).bind Value.list?).getD []

/-- The hooks that are registered for an event, in their order. -/
def hooksOf (event : String) (registered : List (String × HookSettings)) :
    List (String × HookSettings) :=
  registered.filter fun hook => hook.2.event = event

def registeredEvents (registered : List (String × HookSettings)) : List String :=
  registered.map fun hook => hook.2.event

section Entry

/-- An entry of an event that runs a single command. -/
def commandEntry (matcher command : String) (seconds : Int) : Value :=
  .map <| Mapping.ofFields
    [("matcher", .text matcher),
      ("hooks", .list
        [.map <| Mapping.ofFields
          [("type", .text "command"), ("command", .text command), ("timeout", .int seconds)]])]

/-- How long a hook may take: ten seconds, unless it says otherwise. -/
def secondsOf (settings : HookSettings) : Int :=
  if settings.timeout = 0 then 10 else settings.timeout

/-- An entry registers a hook: what the hook matches runs the script of the hook, or the script with
the marked name of the hook where it has none of its own. -/
inductive Registers : String × HookSettings → Value → Prop where
  | own {name script : String} {settings : HookSettings} (given : settings.script = some script)
      (filled : script ≠ "") :
      Registers (name, settings)
        (commandEntry settings.matcher ("hooks/scripts/" ++ script) (secondsOf settings))
  | named {name : String} {settings : HookSettings} (none : settings.script.getD "" = "") :
      Registers (name, settings) (commandEntry settings.matcher
        ("hooks/scripts/" ++ (Template.withGlyph name ++ ".js")) (secondsOf settings))

private theorem registers_registration (hook : String × HookSettings) :
    Registers hook (registration hook.1 hook.2) := by
  obtain ⟨name, settings⟩ := hook
  have directory : scriptsDirectory ++ "/" = "hooks/scripts/" := by decide
  cases given : settings.script with
  | none =>
    simp only [registration, given, directory]
    exact .named (by rw [given, Option.getD_none])
  | some script =>
    simp only [registration, given, directory]
    by_cases empty : script = ""
    · rw [if_pos empty]
      exact .named (by rw [given, Option.getD_some, empty])
    · rw [if_neg empty]
      exact .own given empty

/-- The entries of the hooks that are registered for an event, in their order. -/
def registrationsOf (event : String) (registered : List (String × HookSettings)) : List Value :=
  (hooksOf event registered).map fun hook => registration hook.1 hook.2

private theorem registers_registrationsOf (event : String)
    (registered : List (String × HookSettings)) :
    List.Forall₂ Registers (hooksOf event registered) (registrationsOf event registered) :=
  List.forall₂_map_right_iff.mpr
    (List.forall₂_same.mpr fun hook _ => registers_registration hook)

end Entry

section Fold

private theorem field?_addRegistration_self (events : Mapping) (hook : String × HookSettings) :
    Mapping.field? (addRegistration events hook) hook.2.event =
      some (.list (entriesAt events hook.2.event ++ [registration hook.1 hook.2])) :=
  get?_set_self events _ _

private theorem get?_addRegistration_of_ne (events : Mapping) {hook : String × HookSettings}
    {key : Scalar}
    (different : key ≠ .text hook.2.event) :
    get? (addRegistration events hook) key = get? events key :=
  get?_set_of_ne events _ different

/-- A registration goes behind the entries of its event, and leaves those of other events. -/
theorem entriesAt_addRegistration (events : Mapping) (hook : String × HookSettings)
    (event : String) :
    entriesAt (addRegistration events hook) event =
      entriesAt events event ++ registrationsOf event [hook] := by
  by_cases same : hook.2.event = event
  · subst same
    rw [entriesAt, field?_addRegistration_self]
    simp [registrationsOf, hooksOf, Value.list?]
  · have different : Scalar.text event ≠ .text hook.2.event := by simpa using Ne.symm same
    have kept := get?_addRegistration_of_ne events different
    rw [entriesAt, Mapping.field?, kept, ← Mapping.field?, ← entriesAt]
    simp [registrationsOf, hooksOf, same]

private theorem entriesAt_foldl (events : Mapping) (registered : List (String × HookSettings))
    (event : String) :
    entriesAt (registered.foldl addRegistration events) event =
      entriesAt events event ++ registrationsOf event registered := by
  induction registered generalizing events with
  | nil => simp [registrationsOf, hooksOf]
  | cons hook registered ih =>
    rw [List.foldl_cons, ih, entriesAt_addRegistration, List.append_assoc]
    simp only [registrationsOf, hooksOf, ← List.map_append, ← List.filter_append,
      List.singleton_append]

private theorem get?_foldl_of_not_mem {key : Scalar}
    (absent : ∀ event ∈ registeredEvents registered, key ≠ .text event) :
    get? (registered.foldl addRegistration events) key = get? events key := by
  induction registered generalizing events with
  | nil => rfl
  | cons hook registered ih =>
    obtain ⟨first, later⟩ := List.forall_mem_cons.mp absent
    rw [List.foldl_cons, ih later, get?_addRegistration_of_ne events first]

/-- An event for which a hook is registered has a list of entries. -/
theorem field?_foldl {event : String} (member : event ∈ registeredEvents registered) :
    Mapping.field? (registered.foldl addRegistration events) event =
      some (.list (entriesAt events event ++ registrationsOf event registered)) := by
  -- What is in the list is known already, so it is enough that there is one.
  suffices listed : ∃ items, Mapping.field? (registered.foldl addRegistration events) event =
      some (.list items) by
    obtain ⟨items, found⟩ := listed
    rw [← entriesAt_foldl, entriesAt, found]
    rfl
  -- From the end: the last hook of the event makes the list, and the hooks behind it keep it.
  induction registered using List.reverseRecOn with
  | nil => cases member
  | append_singleton registered last ih =>
    rw [List.foldl_append, List.foldl_cons, List.foldl_nil]
    by_cases same : last.2.event = event
    · exact same ▸ ⟨_, field?_addRegistration_self _ last⟩
    · have earlier : event ∈ registeredEvents registered := by
        simpa [registeredEvents, Ne.symm same] using member
      have different : Scalar.text event ≠ .text last.2.event := by simpa using Ne.symm same
      rw [Mapping.field?, get?_addRegistration_of_ne _ different]
      exact ih earlier

end Fold

/-- A document of hooks with the registered hooks added to it, and nothing lost, repeated or
moved. -/
structure Combines (document : Mapping) (registered : List (String × HookSettings))
    (content : Mapping) : Prop where
  /-- Without registrations the document stays as it is. -/
  unchanged : registered = [] → content = document
  /-- The entries that the document has for an event are followed by one for each hook that is
  registered for it, and the other events are as in the document. -/
  events : registered ≠ [] → ∃ events, Mapping.field? content "hooks" = some (.map events) ∧
    (∀ event ∈ registeredEvents registered, ∃ entries,
      Mapping.field? events event = some (.list (entriesAt (eventsOf document) event ++ entries)) ∧
      List.Forall₂ Registers (hooksOf event registered) entries) ∧
    ∀ key, (∀ event ∈ registeredEvents registered, key ≠ .text event) →
      get? events key = get? (eventsOf document) key
  /-- The other keys of the document are as they were. -/
  others : ∀ key, key ≠ .text "hooks" → get? content key = get? document key
  /-- Every event is managed, once. -/
  managed : ∀ events event, Mapping.field? content "hooks" = some (.map events) →
    .text event ∈ keys events → (Merge.managedKeys Merge.sharedMaps content).count
      (.text (Merge.KeyPath.child "hooks" event).text) = 1

/-- The children of a shared map are managed, each once. -/
theorem count_managedKeys {map name : String} (isShared : .text map ∈ Merge.sharedMaps)
    (present : Mapping.field? content map = some (.map events))
    (member : .text name ∈ keys events) :
    (Merge.managedKeys Merge.sharedMaps content).count
      (.text (Merge.KeyPath.child map name).text) = 1 := by
  apply Scalar.count_text_distinct
  refine List.mem_flatMap.mpr ⟨_, mem_of_get? present, ?_⟩
  obtain ⟨entry, inside, same⟩ := List.mem_map.mp member
  simp only [Merge.managedBy, Value.map?, Scalar.isAmong_text.mpr isShared, if_true]
  refine List.mem_map.mpr ⟨entry, inside, ?_⟩
  rw [same]
  rfl

private theorem field?_hooks_of_eventsOf (nonempty : eventsOf document ≠ []) :
    Mapping.field? document "hooks" = some (.map (eventsOf document)) := by
  apply Merge.children?_eq_some_iff.mp
  change Merge.children? document "hooks" = some ((Merge.children? document "hooks").getD [])
  cases found : Merge.children? document "hooks" with
  | some events => rfl
  | none =>
    refine absurd ?_ nonempty
    change (Merge.children? document "hooks").getD [] = []
    rw [found]
    rfl

private theorem withRegistrations_nil (document : Mapping) :
    withRegistrations document [] = document := by
  unfold withRegistrations
  rw [List.foldl_nil]
  by_cases empty : eventsOf document = []
  · simp only [empty, List.isEmpty_nil, if_true]
  · rw [if_neg (by rwa [List.isEmpty_iff])]
    exact set_of_get? (field?_hooks_of_eventsOf empty)

/-- Where there are registrations, the events with them are the hooks of the document. -/
theorem withRegistrations_of_ne_nil (document : Mapping) (given : registered ≠ []) :
    withRegistrations document registered =
      Mapping.setField document "hooks"
        (.map (registered.foldl addRegistration (eventsOf document))) := by
  obtain ⟨hook, others, rfl⟩ := List.exists_cons_of_ne_nil given
  have listed : Mapping.field? ((hook :: others).foldl addRegistration (eventsOf document))
      hook.2.event = some _ := field?_foldl List.mem_cons_self
  -- The event of a hook has a list, so there are events.
  refine if_neg fun empty => ?_
  rw [List.isEmpty_iff.mp empty] at listed
  cases listed

/-- Adding the registrations to a document combines the two. -/
theorem combines_withRegistrations (document : Mapping)
    (registered : List (String × HookSettings)) :
    Combines document registered (withRegistrations document registered) where
  unchanged none := by rw [none, withRegistrations_nil]
  events given := by
    rw [withRegistrations_of_ne_nil document given]
    exact ⟨_, get?_set_self document _ _,
      fun event member => ⟨_, field?_foldl member, registers_registrationsOf event registered⟩,
      fun _ absent => get?_foldl_of_not_mem absent⟩
  others key other := by
    by_cases none : registered = []
    · rw [none, withRegistrations_nil]
    · rw [withRegistrations_of_ne_nil document none]
      exact get?_set_of_ne document _ other
  managed _ _ present member := count_managedKeys (by decide) present member

/-- The path of the document of hooks, configured or not. -/
def hooksFile : Option HookSource → Except Error String
  | some configured => templateRelative configured.source
  | none => .ok defaultHooks

/-- What a source has for a document: the map in its file, or nothing if there is no file, or no
map in it. -/
inductive Supplies (source : Template.Source) (path : String) : Mapping → Prop where
  | absent (missing : source.readText? path = .ok none) : Supplies source path []
  | malformed {text : String} {fault : Json.Fault} {place : Json.Place}
      (present : source.readText? path = .ok (some text))
      (broken : Json.read text = .error (.malformed fault place)) : Supplies source path []
  | other {text : String} {value : Value} (present : source.readText? path = .ok (some text))
      (read : Json.read text = .ok value) (unfit : value.map? = none) : Supplies source path []
  | map {text : String} {document : Mapping}
      (present : source.readText? path = .ok (some text))
      (read : Json.read text = .ok (.map document)) : Supplies source path document

theorem Supplies.read {source : Template.Source} {path : String}
    (supplied : Supplies source path document) :
    (source.readText? path = .ok none ∧ document = []) ∨
      ∃ text found, source.readText? path = .ok (some text) ∧
        (Json.readObject text path).outcome = .ok found ∧ document = found.getD [] := by
  cases supplied with
  | absent missing => exact .inl ⟨missing, rfl⟩
  | @malformed text _ _ present broken =>
    refine .inr ⟨text, none, present, ?_, rfl⟩
    rw [Json.readObject, broken]
    rfl
  | @other text value present read unfit =>
    refine .inr ⟨text, none, present, ?_, rfl⟩
    rw [Json.readObject, read]
    cases value with
    | map entries => cases unfit
    | _ => rfl
  | @map text _ present read =>
    refine .inr ⟨text, some document, present, ?_, rfl⟩
    rw [Json.readObject, read]
    rfl

private theorem hooksDocument_of_supplies {job : Job} {configured : Option HookSource}
    {path : String}
    (found : job.config.hookSource? job.target = .ok configured)
    (named : hooksFile configured = .ok path) (supplied : Supplies job.source path document) :
    (hooksDocument job).outcome = .ok document := by
  refine Traced.bind_eq_ok_iff.mpr ⟨configured, found, ?_⟩
  -- The path is found in one of two ways, and what follows is the same.
  cases configured
  all_goals
    refine Traced.bind_eq_ok_iff.mpr ⟨path, named, ?_⟩
    obtain ⟨missing, rfl⟩ | ⟨text, object, present, read, rfl⟩ := supplied.read
    · exact Traced.bind_eq_ok_iff.mpr ⟨none, missing, rfl⟩
    · refine Traced.bind_eq_ok_iff.mpr ⟨some text, present, ?_⟩
      exact Traced.bind_eq_ok_iff.mpr ⟨object, read, rfl⟩

/-- The hooks of a plugin are those of its document combined with those that the configuration
registers, which are the ones that name an event, in their order. -/
theorem hooksContent_combines {job : Job} {configured : Option HookSource} {path : String}
    (found : job.config.hookSource? job.target = .ok configured)
    (named : hooksFile configured = .ok path) (supplied : Supplies job.source path document)
    (registers : job.config.hookRegistrations job.target = .ok registered) :
    List.Forall₂ (fun declared hook =>
        hook.1 = declared.1 ∧ HookSettings.ofRecord declared.2 = .ok hook.2)
      (job.config.eventHooks job.target) registered ∧
    ∃ content, (hooksContent job).outcome = .ok content ∧
      Combines document registered content := by
  refine ⟨TargetConfig.forall₂_of_hookRegistrations registers,
    withRegistrations document registered, ?_, combines_withRegistrations document registered⟩
  refine Traced.bind_eq_ok_iff.mpr ⟨document, hooksDocument_of_supplies found named supplied, ?_⟩
  exact Traced.bind_eq_ok_iff.mpr ⟨registered, registers, rfl⟩

def hookEntry (settings : Mapping) : Option (Entries String Value) :=
  some [(targetName, .map settings)]

/-- A document with two events; what it has for one of them is no list. -/
def turnsDocument : Mapping :=
  Mapping.ofFields
    [("hooks", .map <| Mapping.ofFields [("stop", .list [.text "first"]), ("start", .int 1)]),
      ("version", .int 1)]

/-- A job that takes this document, and registers hooks for both events in turn, with an entry that
names no event between them. -/
def turnsJob : Job where
  target := targetName
  source :=
    { origin := .snapshot 1
      projectRoot := FilePath.ofText "/project"
      readBytes := fun path =>
        if path = "hooks/own.json" then
          .ok (Text.Utf8.encode (Json.documentText (.map turnsDocument)))
        else .error (.snapshotMissing path)
      list := fun directory => .error (.snapshotDirectoryMissing directory)
      exists? := fun path => .ok (path = "hooks/own.json")
      isDir? := fun _ => .ok false
      depth := 1 }
  config :=
    { version := "1"
      targets := []
      agents := []
      hooks :=
        [(targetName, some [("source", .text "templates/hooks/own.json")]),
          ("lint", hookEntry (Mapping.ofFields [("event", .text "stop")])),
          ("scan", hookEntry
            (Mapping.ofFields [("event", .text "start"), ("script", .text "scan.sh")])),
          ("idle", hookEntry (Mapping.ofFields [("matcher", .text "Read")])),
          ("tidy", hookEntry (Mapping.ofFields [("event", .text "stop"), ("timeout", .int 3)]))]
      skills := []
      commands := []
      protocols := [] }
  bindings := []

def turnsHooks : List (String × HookSettings) :=
  [("lint", ⟨"stop", "", 10, none⟩), ("scan", ⟨"start", "", 10, some "scan.sh"⟩),
    ("tidy", ⟨"stop", "", 3, none⟩)]

private theorem turnsJob_supplies : Supplies turnsJob.source "hooks/own.json" turnsDocument := by
  have exact : Value.IsTree Json.IsExact (.map turnsDocument) := by
    simp [turnsDocument, Value.IsTree.map_ofFields_iff, Value.IsTree.list_iff,
      Value.IsTree.scalar_iff, Entries.keys, Json.IsExact, Number.withinLimit,
      Number.natDigits_of_lt, Number.digitLimit]
  have decoded : (turnsJob.source.readText? "hooks/own.json").toOption.map id =
      some (some (Json.documentText (.map turnsDocument))) := by decide +kernel
  obtain ⟨_, present, rfl⟩ := Outcome.exists_of_toOption decoded
  exact .map present (Json.read_documentText exact)

private theorem registers_own_iff {name script : String} {settings : HookSettings} {entry : Value}
    (given : settings.script = some script) (filled : script ≠ "") :
    Registers (name, settings) entry ↔
      entry = commandEntry settings.matcher ("hooks/scripts/" ++ script) (secondsOf settings) := by
  refine ⟨fun registers => ?_, fun same => same ▸ .own given filled⟩
  cases registers with
  | own also => rw [Option.some.inj (given.symm.trans also)]
  | named none => exact absurd (by simpa [given] using none) filled

private theorem registers_named_iff {name : String} {settings : HookSettings} {entry : Value}
    (none : settings.script.getD "" = "") :
    Registers (name, settings) entry ↔ entry = commandEntry settings.matcher
      ("hooks/scripts/" ++ (Template.withGlyph name ++ ".js")) (secondsOf settings) := by
  refine ⟨fun registers => ?_, fun same => same ▸ .named none⟩
  cases registers with
  | own given filled => exact absurd (by simpa [given] using none) filled
  | named => rfl

/-- The one event keeps its entry in front of those of two hooks, the other one has the entry of its
hook alone. -/
theorem turnsJob_combines :
    turnsJob.config.hookSource? turnsJob.target =
        .ok (some ⟨"templates/hooks/own.json", none⟩) ∧
      hooksFile (some ⟨"templates/hooks/own.json", none⟩) = .ok "hooks/own.json" ∧
      Supplies turnsJob.source "hooks/own.json" turnsDocument ∧
      turnsJob.config.hookRegistrations turnsJob.target = .ok turnsHooks ∧
      List.Forall₂ (fun declared hook =>
          hook.1 = declared.1 ∧ HookSettings.ofRecord declared.2 = .ok hook.2)
        (turnsJob.config.eventHooks turnsJob.target) turnsHooks ∧
      ∃ content events, (hooksContent turnsJob).outcome = .ok content ∧
        Combines turnsDocument turnsHooks content ∧
        Mapping.field? content "hooks" = some (.map events) ∧
        Mapping.field? events "stop" = some (.list [.text "first",
          commandEntry "" "hooks/scripts/🧠-lint.js" 10,
          commandEntry "" "hooks/scripts/🧠-tidy.js" 3]) ∧
        Mapping.field? events "start" =
          some (.list [commandEntry "" "hooks/scripts/scan.sh" 10]) := by
  have source : turnsJob.config.hookSource? turnsJob.target =
      .ok (some ⟨"templates/hooks/own.json", none⟩) := rfl
  have named : hooksFile (some ⟨"templates/hooks/own.json", none⟩) = .ok "hooks/own.json" := rfl
  have registers : turnsJob.config.hookRegistrations turnsJob.target = .ok turnsHooks := rfl
  obtain ⟨declared, content, made, combines⟩ :=
    hooksContent_combines source named turnsJob_supplies registers
  obtain ⟨events, found, each, -⟩ := combines.events (by simp [turnsHooks])
  refine ⟨source, named, turnsJob_supplies, registers, declared, content, events, made, combines,
    found, ?_, ?_⟩
  · obtain ⟨entries, listed, hooks⟩ := each "stop" (by decide)
    have those : hooksOf "stop" turnsHooks =
      [("lint", ⟨"stop", "", 10, none⟩), ("tidy", ⟨"stop", "", 3, none⟩)] := rfl
    rw [those] at hooks
    obtain ⟨first, rest, lint, others, rfl⟩ := List.forall₂_cons_left_iff.mp hooks
    obtain ⟨second, none, tidy, last, rfl⟩ := List.forall₂_cons_left_iff.mp others
    obtain rfl := List.forall₂_nil_left_iff.mp last
    rw [listed, (registers_named_iff rfl).mp lint, (registers_named_iff rfl).mp tidy]
    rfl
  · obtain ⟨entries, listed, hooks⟩ := each "start" (by decide)
    have those : hooksOf "start" turnsHooks = [("scan", ⟨"start", "", 10, some "scan.sh"⟩)] := rfl
    rw [those] at hooks
    obtain ⟨first, none, scan, last, rfl⟩ := List.forall₂_cons_left_iff.mp hooks
    obtain rfl := List.forall₂_nil_left_iff.mp last
    rw [listed, (registers_own_iff rfl (by decide)).mp scan]
    rfl

end Plugin.Guest

end EditorPlugins
