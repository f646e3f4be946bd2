import EditorPlugins.Plugin.Guest
import EditorPlugins.Proofs.Frontmatter.Restored
import EditorPlugins.Proofs.Plugin.File
import EditorPlugins.Proofs.Traced
import EditorPlugins.Proofs.Value.Tree

/-! # Rules keep the frontmatter of their protocols

A protocol becomes a rule with its own frontmatter, which also says that the rule always applies.
Whoever splits the rule finds what was written of this frontmatter, as long as its keys are names,
and all of it just when its values are faithful. A list in an inner map is not.
-/

namespace EditorPlugins.Plugin.Guest

open Template Frontmatter

def ruleFrontmatter (artifact : Artifact) : Mapping :=
  Mapping.setField artifact.frontmatter "alwaysApply" (.bool true)

/-- The body of the rule of a protocol, without the line ends at its start. -/
def ruleBody (artifact : Artifact) : String :=
  String.ofList ((rewriteReferences artifact.body).toList.dropWhile Text.isNewline)

/-- The text of a template is the source of an artifact. -/
def IsReadFrom (source : Source) (artifact : Artifact) : Prop :=
  ∃ text, source.readText (joinPath artifact.category artifact.fileName) = .ok text ∧
    split text = .ok ⟨artifact.frontmatter, artifact.body⟩

private theorem isReadFrom_of_artifact {source : Source} {category fileName : String}
    {artifact : Artifact}
    (read : source.artifact category fileName = .ok artifact) : IsReadFrom source artifact := by
  simp only [Source.artifact, Outcome.bind_eq_ok_iff] at read
  obtain ⟨text, found, read⟩ := read
  cases document : split text with
  | error cause =>
    rw [document] at read
    cases read
  | ok document' =>
    rw [document] at read
    cases read
    exact ⟨text, found, document⟩

private theorem isReadFrom_of_artifacts {source : Source} {category : String}
    {artifacts : List Artifact}
    (read : (source.artifacts category).outcome = .ok artifacts) :
    ∀ artifact ∈ artifacts, IsReadFrom source artifact := by
  simp only [Source.artifacts, Traced.outcome_bind, Traced.outcome_mapM, Traced.outcome_lift,
    Outcome.exceptBind_eq_ok_iff] at read
  obtain ⟨fileNames, -, found, each, _, -, same⟩ := read
  cases same
  intro artifact member
  obtain ⟨fileName, -, one⟩ := Outcome.exists_of_mem_mapM each member
  exact isReadFrom_of_artifact one

/-- The frontmatter of a rule can be read again, and something is written of it. -/
theorem isMapOf_ruleFrontmatter {source : Source} {artifact : Artifact}
    (read : IsReadFrom source artifact) :
    IsMapOf IsParsed (ruleFrontmatter artifact) ∧ kept (ruleFrontmatter artifact) ≠ [] := by
  obtain ⟨text, -, document⟩ := read
  refine ⟨(isMapOf_of_split document).setField _ (.line (.inr (.bool true))), ?_⟩
  have found : Mapping.field? (ruleFrontmatter artifact) "alwaysApply" = some (.bool true) :=
    Entries.get?_set_self _ _ _
  exact List.ne_nil_of_mem (mem_kept (Entries.mem_of_get? found) rfl)

/-- A rule is split into what is restored of the frontmatter of its protocol, and its body. -/
theorem ruleFile_read {source : Source} {artifact : Artifact} {file : GeneratedFile}
    (read : IsReadFrom source artifact) (names : HasNames (ruleFrontmatter artifact))
    (made : ruleFile artifact = .ok file) :
    split file.content = .ok ⟨restored (ruleFrontmatter artifact), ruleBody artifact⟩ := by
  obtain ⟨parsed, nonempty⟩ := isMapOf_ruleFrontmatter read
  simp only [ruleFile] at made
  split at made
  · cases made
  · next content joined =>
    obtain ⟨-, same⟩ := GeneratedFile.of_eq_ok made
    rw [same]
    exact split_join names parsed nonempty joined

/-- The files of protocols stand for the artifacts of their directory one by one. A protocol on the
list of rules whose keys are names is split into the body of the rule and frontmatter with the keys
of the protocol; this is the frontmatter of the protocol without what has no content, just when its
values are faithful. -/
theorem rules_read {job : Job} {rules : List String} {files : List GeneratedFile}
    (compiled : (protocols job rules).outcome = .ok files) :
    ∃ artifacts written instructions,
      (job.source.artifacts protocolsDirectory).outcome = .ok artifacts ∧
      (∀ artifact ∈ artifacts, IsReadFrom job.source artifact) ∧
      (job.instructions instructionsPath).outcome = .ok instructions ∧
      files = written ++ instructions ∧
      List.Forall₂ (fun artifact file =>
        artifact.fileName ∈ rules → HasNames (ruleFrontmatter artifact) →
          split file.content = .ok ⟨restored (ruleFrontmatter artifact), ruleBody artifact⟩ ∧
          (restored (ruleFrontmatter artifact) = kept (ruleFrontmatter artifact) ↔
            ∀ entry ∈ kept (ruleFrontmatter artifact), IsFaithful entry.2))
        artifacts written := by
  simp only [protocols, Traced.outcome_bind, Traced.outcome_mapM, Traced.outcome_lift,
    Outcome.exceptBind_eq_ok_iff] at compiled
  obtain ⟨artifacts, read, written, made, instructions, composed, same⟩ := compiled
  cases same
  have sources := isReadFrom_of_artifacts read
  refine ⟨artifacts, written, instructions, read, sources, composed, rfl, ?_⟩
  have pairs := (List.forall₂_and_left _ _).mpr ⟨sources, Outcome.forall₂_of_mapM made⟩
  refine pairs.imp fun artifact file both isRule names => ?_
  obtain ⟨source, made⟩ := both
  rw [protocolFile, if_pos (List.contains_iff_mem.mpr isRule)] at made
  exact ⟨ruleFile_read source names made, restored_eq_kept_iff⟩

def ruleJob (protocol : String) : Job where
  target := targetName
  source :=
    { origin := .snapshot 1
      projectRoot := FilePath.ofText "/project"
      readBytes := fun path =>
        if path = "protocols/AGENT-INSTRUCTIONS.md" then .ok (Text.Utf8.encode protocol)
        else .error (.snapshotMissing path)
      list := fun directory =>
        if directory = protocolsDirectory then .ok [⟨"AGENT-INSTRUCTIONS.md", false⟩]
        else .error (.snapshotDirectoryMissing directory)
      exists? := fun path => .ok (path = "protocols/AGENT-INSTRUCTIONS.md")
      isDir? := fun path => .ok (path = protocolsDirectory)
      depth := 1 }
  config := ⟨"1", [], [], [], [], [], []⟩
  bindings := []

def ruleArtifact (frontmatter : Mapping) (body : String) : Artifact :=
  ⟨"AGENT-INSTRUCTIONS", frontmatter, body, protocolsDirectory, "AGENT-INSTRUCTIONS.md"⟩

/-- Frontmatter with a quoted text, a value that is not there and an inner map, and a body that
refers to another protocol. -/
def oddProtocol : String :=
  "---\ntitle: 'a: b'\nenv:\n  -k: ~\n  n: true\n---\n\nSee SESSION-PROTOCOL.md\n"

def oddArtifact : Artifact :=
  ruleArtifact (Mapping.ofFields
    [("title", .text "a: b"), ("env", .map (Mapping.ofFields [("-k", .null), ("n", .bool true)]))])
    "See SESSION-PROTOCOL.md\n"

/-- What is written of the frontmatter of the odd protocol. -/
def oddKept : Mapping := Mapping.ofFields
  [("title", .text "a: b"), ("env", .map (Mapping.ofFields [("n", .bool true)])),
    ("alwaysApply", .bool true)]

private theorem kept_oddArtifact : kept (ruleFrontmatter oddArtifact) = oddKept := rfl

private theorem oddArtifact_names : HasNames (ruleFrontmatter oddArtifact) := by
  constructor
  · rw [kept_oddArtifact]
    simp only [oddKept, Mapping.ofFields, List.map_cons, List.map_nil, List.forall_mem_cons,
      List.not_mem_nil, false_implies, implies_true, and_true]
    exact ⟨.text (by decide), .text (by decide), .text (by decide)⟩
  · intro key entries member
    rw [kept_oddArtifact] at member
    obtain ⟨name, -, present⟩ := Mapping.mem_ofFields.mp member
    simp only [List.mem_cons, Prod.mk.injEq, reduceCtorEq, and_false, Value.map.injEq,
      List.not_mem_nil, or_false, false_or] at present
    rw [present.2]
    exact List.forall_mem_singleton.mpr (.text (by decide))

private theorem oddArtifact_faithful :
    ∀ entry ∈ kept (ruleFrontmatter oddArtifact), IsFaithful entry.2 := by
  rw [kept_oddArtifact]
  simp [oddKept, Mapping.ofFields, IsFaithful, IsFaithfulLine]

private theorem oddProtocol_artifacts :
    ((ruleJob oddProtocol).source.artifacts protocolsDirectory).outcome = .ok [oddArtifact] := rfl

/-- Keys and values of the odd protocol come back, and its reference leads elsewhere. -/
theorem oddProtocol_rule : ∃ file,
    (protocols (ruleJob oddProtocol) defaultRules).outcome = .ok [file] ∧
      split file.content = .ok ⟨oddKept, "See ~/.agents/SESSION-PROTOCOL.md\n"⟩ := by
  have count : (protocols (ruleJob oddProtocol) defaultRules).outcome.toOption.map List.length =
      some 1 := by decide +kernel
  have body : ruleBody oddArtifact = "See ~/.agents/SESSION-PROTOCOL.md\n" := by decide +kernel
  cases compiled : (protocols (ruleJob oddProtocol) defaultRules).outcome with
  | error cause =>
    rw [compiled] at count
    cases count
  | ok files =>
    obtain ⟨artifacts, written, instructions, read, -, -, rfl, pairs⟩ := rules_read compiled
    rw [oddProtocol_artifacts] at read
    cases read
    obtain ⟨file, rest, pair, none, rfl⟩ := List.forall₂_cons_left_iff.mp pairs
    cases none
    rw [compiled] at count
    obtain rfl : instructions = [] :=
      List.length_eq_zero_iff.mp (Nat.succ.inj (Option.some.inj count))
    obtain ⟨reads, same⟩ := pair (by decide) oddArtifact_names
    rw [same.mpr oddArtifact_faithful, kept_oddArtifact, body] at reads
    exact ⟨file, rfl, reads⟩

def nestedProtocol : String := "---\nmeta:\n  tags: [a, b]\n---\nRead.\n"

def nestedArtifact : Artifact :=
  ruleArtifact (Mapping.ofFields
    [("meta", .map (Mapping.ofFields [("tags", Value.texts ["a", "b"])]))]) "Read.\n"

/-- A list in an inner map comes back as the text that displays it. -/
theorem nestedProtocol_changed :
    ((ruleJob nestedProtocol).source.artifacts protocolsDirectory).outcome = .ok [nestedArtifact] ∧
      nestedArtifact.fileName ∈ defaultRules ∧
      ∃ file document, (protocols (ruleJob nestedProtocol) defaultRules).outcome = .ok [file] ∧
        split file.content = .ok document ∧
        document.frontmatter = Mapping.ofFields
          [("meta", .map (Mapping.ofFields [("tags", .text "['a', 'b']")])),
            ("alwaysApply", .bool true)] ∧
        document.frontmatter ≠ kept (ruleFrontmatter nestedArtifact) := by
  refine ⟨rfl, by decide, ?_⟩
  have contents : (protocols (ruleJob nestedProtocol) defaultRules).outcome.toOption.map
      (·.map GeneratedFile.content) =
        some ["---\nmeta:\n  tags: \"['a', 'b']\"\nalwaysApply: true\n---\n\nRead.\n"] := by
    decide +kernel
  cases compiled : (protocols (ruleJob nestedProtocol) defaultRules).outcome with
  | error cause =>
    rw [compiled] at contents
    cases contents
  | ok files =>
    rw [compiled] at contents
    obtain ⟨file, rest, rfl, content, none⟩ := List.map_eq_cons_iff.mp (Option.some.inj contents)
    obtain rfl := List.map_eq_nil_iff.mp none
    refine ⟨file, _, rfl, by rw [content]; rfl, rfl, fun same => ?_⟩
    cases same

end EditorPlugins.Plugin.Guest
