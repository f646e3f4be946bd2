import EditorPlugins.CommandLine.Run
import EditorPlugins.Proofs.Plugin.Install
import EditorPlugins.Proofs.Plugin.Tidy

/-! # A build writes all it has compiled, or nothing

All targets are compiled before the first file is written. So a build that cannot be loaded, whose
targets are unknown or cannot be compiled, or that is only to list its files leaves the disk as it
is. Any other one writes the compiled files in their order, until a file cannot be written.
-/

namespace EditorPlugins

namespace Plugin

open Traced

section Compile

variable {compiler : Compiler} {requested : Option (List String)} {compilation : Compilation}

private theorem Compiler.target_eq_ok {name : String} {target : Target}
    (found : compiler.target name = .ok target) :
    target ∈ compiler.targets ∧ target.name = name := by
  unfold Compiler.target at found
  split at found
  · next among =>
    cases found
    exact ⟨List.mem_of_find?_eq_some among, by simpa using List.find?_some among⟩
  · cases found

/-- What is compiled for a request has been compiled for each of its targets. -/
theorem Compiler.compile_eq_ok (ran : (compiler.compile requested).outcome = .ok compilation) :
    (∀ name ∈ requested.getD compiler.known, ∃ files,
      (compiler.compileTarget name).outcome = .ok files) ∧
    ∀ entry ∈ compilation, ∃ target ∈ compiler.targets,
      entry.1 = target.name ∧ (compiler.compileFor target).outcome = .ok entry.2 := by
  simp only [Compiler.compile, bind_eq_ok_iff, outcome_mapM, outcome_lift] at ran
  obtain ⟨targets, found, pairs, made, -, -, same⟩ := ran
  cases same
  refine ⟨fun name member => ?_, fun entry member => ?_⟩
  · obtain ⟨target, among, known⟩ : ∃ target ∈ targets, compiler.target name = .ok target := by
      cases requested with
      | none => exact Outcome.exists_mem_of_mapM found member
      | some names => exact Outcome.exists_mem_of_mapM found (mem_distinct.mpr member)
    obtain ⟨pair, -, ran⟩ := Outcome.exists_mem_of_mapM made among
    obtain ⟨files, compiled, -⟩ := bind_eq_ok_iff.mp ran
    exact ⟨files, bind_eq_ok_iff.mpr ⟨target, known, compiled⟩⟩
  · obtain ⟨target, among, ran⟩ :=
      Outcome.exists_of_mem_mapM made (Entries.mem_of_mem_ofPairs member)
    obtain ⟨files, compiled, same⟩ := bind_eq_ok_iff.mp ran
    cases same
    obtain ⟨name, -, known⟩ := Outcome.exists_of_mem_mapM found among
    exact ⟨target, (Compiler.target_eq_ok known).1, rfl, compiled⟩

end Compile

end Plugin

namespace CommandLine

open Plugin Template Traced

section Endings

variable (disk : Disk) (page : List Block) (error : Error) (ending : Ending)

@[simp]
theorem Ending.disk_printing (exitCode : Nat) :
    (Ending.printing disk page exitCode).disk = disk := rfl

@[simp]
theorem Ending.disk_failing : (Ending.failing disk page error).disk = disk := rfl

@[simp]
theorem Ending.exitCode_failing : (Ending.failing disk page error).exitCode = 1 := by
  simp only [Ending.failing, Ending.printing, ite_self]

@[simp]
theorem Ending.disk_withLog (least : Level) (log : List Record) :
    (Ending.withLog least log ending).disk = ending.disk := rfl

@[simp]
theorem Ending.exitCode_withLog (least : Level) (log : List Record) :
    (Ending.withLog least log ending).exitCode = ending.exitCode := rfl

end Endings

/-- A compiler reads the templates from the disk and knows the targets of the library. -/
theorem of_compilerAt {disk : Disk} {place : Location} {assignments : List String}
    {compiler : Compiler} (found : (compilerAt disk place assignments).outcome = .ok compiler) :
    compiler.source = Directory.source disk (place.projectPath disk) place.templates ∧
      compiler.targets = Target.all := by
  simp only [compilerAt, bind_eq_ok_iff] at found
  obtain ⟨present, -, found⟩ := found
  cases present with
  | false => cases found
  | true =>
    simp only [Bool.not_true, Bool.false_eq_true, if_false, bind_eq_ok_iff] at found
    obtain ⟨config, -, found⟩ := found
    split at found
    · cases found
    · cases found
      exact ⟨rfl, rfl⟩

namespace BuildRequest

/-- The targets that a build names, if it names any. -/
def requested (request : BuildRequest) : Option (List String) :=
  if request.targets.isEmpty then none else some request.targets

/-- What a build compiles before it writes anything. -/
def compiled (disk : Disk) (request : BuildRequest) : Traced Compilation := do
  let compiler ← compilerAt disk request.place request.assignments
  compiler.compile request.requested

/-- Why a build writes nothing: it cannot be loaded, one of its targets is unknown or cannot be
compiled, it is only to list its files, or it has nowhere to write them. -/
inductive IsIdle (disk : Disk) (request : BuildRequest) : Prop where
  | notLoaded {error : Error}
      (failed : (compilerAt disk request.place request.assignments).outcome = .error error)
  | notKnown {compiler : Compiler} {name : String}
      (loaded : (compilerAt disk request.place request.assignments).outcome = .ok compiler)
      (asked : name ∈ request.targets) (unknown : name ∉ compiler.known)
  | notCompiled {compiler : Compiler} {name : String} {error : Error}
      (loaded : (compilerAt disk request.place request.assignments).outcome = .ok compiler)
      (asked : name ∈ request.requested.getD compiler.known)
      (failed : (compiler.compileTarget name).outcome = .error error)
  | dryRun (only : request.dryRun = true)
  | nowhere (absent : request.output = none)

variable {disk : Disk} {request : BuildRequest} {compilation : Compilation}

private theorem mem_requested {name : String} (asked : name ∈ request.targets)
    (known : List String) :
    name ∈ request.requested.getD known := by
  have some : request.targets.isEmpty = false := by
    rw [List.isEmpty_eq_false_iff]
    exact List.ne_nil_of_mem asked
  rwa [requested, some]

/-- A build that compiles all its targets writes, unless it is not to. -/
theorem IsIdle.of_compiled (idle : request.IsIdle disk)
    (ran : (request.compiled disk).outcome = .ok compilation) :
    request.dryRun = true ∨ request.output = none := by
  obtain ⟨compiler, found, compiles⟩ := bind_eq_ok_iff.mp ran
  have each := (Compiler.compile_eq_ok compiles).1
  cases idle with
  | notLoaded failed => cases failed.symm.trans found
  | notKnown loaded asked unknown =>
    cases loaded.symm.trans found
    obtain ⟨files, ran⟩ := each _ (mem_requested asked _)
    obtain ⟨target, known, -⟩ := bind_eq_ok_iff.mp ran
    obtain ⟨among, rfl⟩ := Compiler.target_eq_ok known
    exact absurd (List.mem_map_of_mem among) unknown
  | notCompiled loaded asked failed =>
    cases loaded.symm.trans found
    obtain ⟨files, ran⟩ := each _ asked
    cases failed.symm.trans ran
  | dryRun only => exact .inl only
  | nowhere absent => exact .inr absent

/-- Compiled files have tidy paths below targets that are known. -/
theorem allFiles_of_compiled (wellFormed : disk.IsWellFormed)
    (ran : (request.compiled disk).outcome = .ok compilation) :
    ∀ entry ∈ compilation.allFiles,
      entry.1 ∈ Target.all.map Target.name ∧ FilePath.IsTidy entry.2.path := by
  obtain ⟨compiler, found, compiles⟩ := bind_eq_ok_iff.mp ran
  obtain ⟨source, targets⟩ := of_compilerAt found
  have templates : compiler.source.IsTemplates := source ▸ .directory wellFormed _ _
  rintro ⟨name, file⟩ member
  obtain ⟨⟨target, files⟩, among, inside⟩ := List.mem_flatMap.mp member
  obtain ⟨file, present, same⟩ := List.mem_map.mp inside
  cases same
  obtain ⟨target, known, rfl, ran⟩ := (Compiler.compile_eq_ok compiles).2 _ among
  rw [targets] at known
  exact ⟨List.mem_map_of_mem known,
    areTidy_compileFor templates known ran _ (List.mem_map_of_mem present)⟩

/-- The first files of a build are installed once they are written. -/
theorem isInstalled_of_compiled (wellFormed : disk.IsWellFormed)
    (ran : (request.compiled disk).outcome = .ok compilation) {after : Disk} {output : FilePath}
    (linkFree : ∀ name, disk.IsLinkFree ((disk.settled output).names ++ [name]))
    {done rest : List (String × GeneratedFile)} (part : compilation.allFiles = done ++ rest)
    (written : disk.IsWritten after (outputFiles output done)) :
    IsInstalled disk after output done := by
  have each := allFiles_of_compiled wellFormed ran
  simp only [part, List.mem_append] at each
  exact isInstalled linkFree (fun entry member => (each entry (.inl member)).1)
    (fun entry member => (each entry (.inl member)).2) written

/-- The end of a build whose targets are compiled, or that fails at it. -/
private def ending (disk : Disk) (request : BuildRequest) (outcome : Except Error Compilation) :
    Ending :=
  match outcome, request.output with
  | .error error, _ => Ending.failing disk [] error
  | .ok compilation, some output =>
    if request.dryRun then Ending.printing disk (buildPage request compilation) 0
    else finishBuild disk request output compilation
  | .ok compilation, none => Ending.printing disk (buildPage request compilation) 0

private theorem runBuild_eq (disk : Disk) (request : BuildRequest) : runBuild disk request =
    if request.output.isNone && !(request.dryRun || request.report) then
      Ending.printing disk
        [.line "Error: --output is required unless --dry-run or --json is set"] 1
    else
      (ending disk request (request.compiled disk).outcome).withLog
        (if request.verbose then .debug else .warning) (request.compiled disk).log := by
  unfold runBuild ending
  rfl

/-- An idle build leaves the disk as it is. -/
theorem IsIdle.disk_runBuild (idle : request.IsIdle disk) :
    (runBuild disk request).disk = disk := by
  rw [runBuild_eq]
  split
  · rfl
  · rw [Ending.disk_withLog]
    cases ran : (request.compiled disk).outcome with
    | error error => rfl
    | ok compilation =>
      rcases idle.of_compiled ran with only | absent
      · cases given : request.output with
        | none => simp only [ending, given, Ending.disk_printing]
        | some output => simp only [ending, given, only, if_true, Ending.disk_printing]
      · simp only [ending, absent, Ending.disk_printing]

/-- A build that cannot compile its targets fails. -/
theorem exitCode_runBuild_of_error {error : Error}
    (failed : (request.compiled disk).outcome = .error error) :
    (runBuild disk request).exitCode = 1 := by
  rw [runBuild_eq, failed]
  split
  · simp only [Ending.printing, ite_self]
  · rw [Ending.exitCode_withLog]
    exact Ending.exitCode_failing disk [] error

variable {output : String}

/-- A build that is not idle writes its files, and fails if one of them cannot be written. -/
theorem runBuild_of_compiled (ran : (request.compiled disk).outcome = .ok compilation)
    (given : request.output = some output) (writes : request.dryRun = false) :
    (runBuild disk request).disk = (installAll disk (FilePath.ofText output) compilation).disk ∧
      ∀ error, (installAll disk (FilePath.ofText output) compilation).traced.outcome =
        .error error → (runBuild disk request).exitCode = 1 := by
  have goes : ending disk request (.ok compilation) =
      finishBuild disk request output compilation := by
    simp only [ending, given, writes, Bool.false_eq_true, if_false]
  rw [runBuild_eq, ran, goes, given, if_neg (by simp), Ending.disk_withLog,
    Ending.exitCode_withLog, finishBuild]
  cases (installAll disk (FilePath.ofText output) compilation).traced.outcome with
  | error error => simp
  | ok written => simp

/-- A build that has written all its files succeeds, if what it prints about them can be shown. -/
theorem exitCode_runBuild_of_written (ran : (request.compiled disk).outcome = .ok compilation)
    (given : request.output = some output) (writes : request.dryRun = false)
    {written : Entries String (List FilePath)}
    (installed : (installAll disk (FilePath.ofText output) compilation).traced.outcome =
      .ok written) :
    (runBuild disk request).exitCode =
      if (shownPage (buildPage request compilation ++
        if request.report then [] else written.map (writtenLine (FilePath.ofText output)))).2
      then 0 else 1 := by
  rw [runBuild_eq, ran, given, if_neg (by simp), Ending.exitCode_withLog]
  simp only [ending, given, writes, Bool.false_eq_true, if_false, finishBuild, installed,
    Ending.exitCode_withLog]
  rfl

section Writing

variable (wellFormed : disk.IsWellFormed) (given : request.output = some output)
  (writes : request.dryRun = false)
  (linkFree : ∀ name, disk.IsLinkFree ((disk.settled (FilePath.ofText output)).names ++ [name]))

include wellFormed given writes linkFree

/-- A build that succeeds has installed all its files. -/
theorem isInstalled_of_success (success : (runBuild disk request).exitCode = 0) :
    ∃ compilation, (request.compiled disk).outcome = .ok compilation ∧
      IsInstalled disk (runBuild disk request).disk (FilePath.ofText output)
        compilation.allFiles := by
  cases ran : (request.compiled disk).outcome with
  | error error =>
    rw [exitCode_runBuild_of_error ran] at success
    cases success
  | ok compilation =>
    obtain ⟨leaves, fails⟩ := runBuild_of_compiled ran given writes
    have wrote := wrote_installAll disk (FilePath.ofText output) compilation
    cases installed : (installAll disk (FilePath.ofText output) compilation).traced.outcome with
    | error error =>
      rw [fails error installed] at success
      cases success
    | ok paths =>
      rw [installed] at wrote
      cases wrote with
      | finished written =>
        refine ⟨compilation, rfl, leaves ▸ ?_⟩
        exact isInstalled_of_compiled wellFormed ran linkFree (List.append_nil _).symm written

/-- A build that cannot write a file has installed the files in front of it. -/
theorem isInstalled_of_failure (ran : (request.compiled disk).outcome = .ok compilation)
    {error : Error}
    (stops : (installAll disk (FilePath.ofText output) compilation).traced.outcome =
      .error error) :
    (runBuild disk request).exitCode = 1 ∧
      ∃ done entry rest, compilation.allFiles = done ++ entry :: rest ∧
        IsWriteError (outputPath (FilePath.ofText output) entry) error ∧
        IsInstalled disk (runBuild disk request).disk (FilePath.ofText output) done := by
  obtain ⟨leaves, fails⟩ := runBuild_of_compiled ran given writes
  have wrote := wrote_installAll disk (FilePath.ofText output) compilation
  rw [stops] at wrote
  cases wrote with
  | stopped done entry rest split written failed =>
    refine ⟨fails error stops, done, entry, rest, split, failed, leaves ▸ ?_⟩
    exact isInstalled_of_compiled wellFormed ran linkFree split written

end Writing

end BuildRequest

private theorem disk_runStatus (disk : Disk) (place : Location) :
    (runStatus disk place).disk = disk := by
  unfold runStatus
  dsimp only
  rw [Ending.disk_withLog]
  split <;> rfl

/-- Only a build that is not idle changes the disk. If it succeeds, the disk holds all that is
compiled for its targets. If a file cannot be written, the disk holds what comes before that file,
in the order of the targets and of their files. Besides, nothing is new but directories. -/
theorem run_build {disk : Disk} (wellFormed : disk.IsWellFormed) (arguments : List String) :
    ((∀ request, Command.ofArguments disk arguments = .ok (.build request) →
      request.IsIdle disk) → (run disk arguments).disk = disk) ∧
    ∀ request output, Command.ofArguments disk arguments = .ok (.build request) →
      request.output = some output → request.dryRun = false →
      (∀ name, disk.IsLinkFree ((disk.settled (FilePath.ofText output)).names ++ [name])) →
      ((run disk arguments).exitCode = 0 →
        ∃ compilation, (request.compiled disk).outcome = .ok compilation ∧
          IsInstalled disk (run disk arguments).disk (FilePath.ofText output)
            compilation.allFiles) ∧
      ∀ compilation error, (request.compiled disk).outcome = .ok compilation →
        (installAll disk (FilePath.ofText output) compilation).traced.outcome = .error error →
        (run disk arguments).exitCode = 1 ∧
          ∃ done entry rest, compilation.allFiles = done ++ entry :: rest ∧
            IsWriteError (outputPath (FilePath.ofText output) entry) error ∧
            IsInstalled disk (run disk arguments).disk (FilePath.ofText output) done := by
  refine ⟨fun idle => ?_, fun request output asked given writes linkFree => ?_⟩
  · rw [run]
    split
    · next command asked =>
      cases command with
      | version => rfl
      | help => rfl
      | build request => exact (idle request asked).disk_runBuild
      | status place => exact disk_runStatus disk place
    · rfl
  · have builds : run disk arguments = runBuild disk request := by
      rw [run, asked]
      rfl
    rw [builds]
    exact ⟨BuildRequest.isInstalled_of_success wellFormed given writes linkFree,
      fun _ _ ran => BuildRequest.isInstalled_of_failure wellFormed given writes linkFree ran⟩

/-- A project with instructions, and an output that has a directory for the manifest, or a file in
its place. -/
def siteDisk (blocked : Bool) : Disk where
  here := []
  items :=
    [(["templates"], .directory), (["templates", "configs"], .directory),
      (["templates", "configs", "target.config.json"], .file (Text.Utf8.encode "{}")),
      (["templates", "rules"], .directory),
      (["templates", "rules", "_order.yaml"], .file (Text.Utf8.encode "sections: [body.md]\n")),
      (["templates", "rules", "body.md"], .file (Text.Utf8.encode "Be kind.\n")),
      (["out"], .directory), (["out", "claude-code"], .directory),
      (["out", "claude-code", ".claude-plugin"], if blocked then .file [] else .directory),
      (["out", "claude-code", "instructions"], .directory),
      (["out", "claude-code", "instructions", "AGENTS.md"], .file [])]

def siteArguments : List String := ["build", "--output", "/out", "--target", "claude-code"]

def siteRequest : BuildRequest where
  place := ⟨none, "templates", none⟩
  targets := ["claude-code"]
  output := some "/out"
  assignments := []
  dryRun := false
  report := false
  verbose := false

section Site

variable (blocked : Bool)

private theorem siteDisk_isWellFormed : (siteDisk blocked).IsWellFormed where
  distinct := by cases blocked <;> decide
  legal := by cases blocked <;> decide +kernel
  above := by cases blocked <;> decide
  start := rfl

private theorem siteDisk_linkFree (location : Disk.Location) :
    (siteDisk blocked).IsLinkFree location :=
  Disk.isLinkFree_of_items (by cases blocked <;> simp [siteDisk]) location

private theorem siteArguments_ask :
    Command.ofArguments (siteDisk blocked) siteArguments = .ok (.build siteRequest) := by
  have computed : (Command.ofArguments (siteDisk blocked) siteArguments).toOption.map id =
      some (.build siteRequest) := by
    unfold Command.ofArguments Command.ofWords Command.ofBuild Disk.isFile? Disk.itemAt?
    rw [Disk.lookup_eq_descend (siteDisk_linkFree blocked [])]
    cases blocked <;> decide +kernel
  obtain ⟨command, read, rfl⟩ := Outcome.exists_of_toOption computed
  exact read

private theorem siteRequest_compiled : ∃ instructions manifest : GeneratedFile,
    (siteRequest.compiled (siteDisk blocked)).outcome =
        .ok [("claude-code", [instructions, manifest])] ∧
      instructions.path = "instructions/AGENTS.md" ∧
      manifest.path = ".claude-plugin/plugin.json" := by
  have here : (siteDisk blocked).settled ⟨"/", (siteDisk blocked).here⟩ = ⟨"/", []⟩ := by
    cases blocked <;> cbv
  have computed : (siteRequest.compiled (siteDisk blocked)).outcome.toOption.map
      (fun compilation =>
        compilation.map fun entry => (entry.1, entry.2.map GeneratedFile.path)) =
        some [("claude-code", ["instructions/AGENTS.md", ".claude-plugin/plugin.json"])] := by
    unfold BuildRequest.compiled compilerAt Location.projectPath Config.load Config.loadWith
      Config.readFile Directory.source Directory.rootOf Directory.readBytes Directory.list
      Disk.exists? Disk.isDir? Disk.list Disk.readFile Disk.itemAt?
    simp only [siteRequest, here, Disk.lookup_eq_descend (siteDisk_linkFree blocked [])]
    cases blocked <;> decide +kernel
  obtain ⟨compilation, compiled, same⟩ := Outcome.exists_of_toOption computed
  obtain ⟨⟨target, files⟩, others, rfl, entry, none⟩ := List.map_eq_cons_iff.mp same
  obtain rfl := List.map_eq_nil_iff.mp none
  obtain ⟨rfl, paths⟩ := Prod.mk.inj entry
  obtain ⟨instructions, rest, rfl, first, paths⟩ := List.map_eq_cons_iff.mp paths
  obtain ⟨manifest, last, rfl, second, none⟩ := List.map_eq_cons_iff.mp paths
  obtain rfl := List.map_eq_nil_iff.mp none
  exact ⟨instructions, manifest, compiled, first, second⟩

private theorem siteDisk_installAll {instructions manifest : GeneratedFile}
    (first : instructions.path = "instructions/AGENTS.md")
    (second : manifest.path = ".claude-plugin/plugin.json") :
    (installAll (siteDisk blocked) (FilePath.ofText "/out")
      [("claude-code", [instructions, manifest])]).traced.outcome =
        if blocked then .error (.writeFailed "/out/claude-code/.claude-plugin/plugin.json"
          ⟨.alreadyExists, "/out/claude-code/.claude-plugin"⟩)
        else .ok [("claude-code",
          [⟨"/", ["out", "claude-code", "instructions", "AGENTS.md"]⟩,
            ⟨"/", ["out", "claude-code", ".claude-plugin", "plugin.json"]⟩])] := by
  have output : FilePath.ofText "/out" = ⟨"/", ["out"]⟩ := by decide
  have root : (FilePath.mk "/" ["out"]).child "claude-code" = ⟨"/", ["out", "claude-code"]⟩ := by
    decide
  have document : (FilePath.mk "/" ["out", "claude-code"]).child "instructions/AGENTS.md" =
      ⟨"/", ["out", "claude-code", "instructions", "AGENTS.md"]⟩ := by decide
  have plugin : (FilePath.mk "/" ["out", "claude-code"]).child ".claude-plugin/plugin.json" =
      ⟨"/", ["out", "claude-code", ".claude-plugin", "plugin.json"]⟩ := by decide
  have texts : (FilePath.mk "/" ["out", "claude-code", ".claude-plugin"]).text =
        "/out/claude-code/.claude-plugin" ∧
      (FilePath.mk "/" ["out", "claude-code", ".claude-plugin", "plugin.json"]).text =
        "/out/claude-code/.claude-plugin/plugin.json" := by decide
  have short : ¬Disk.nameLimit < "out".utf8ByteSize ∧ ¬Disk.nameLimit < "claude-code".utf8ByteSize ∧
      ¬Disk.nameLimit < "instructions".utf8ByteSize ∧ ¬Disk.nameLimit < "AGENTS.md".utf8ByteSize ∧
      ¬Disk.nameLimit < ".claude-plugin".utf8ByteSize ∧
      ¬Disk.nameLimit < "plugin.json".utf8ByteSize := by decide +kernel
  have taken : Disk.refusal? ⟨"/", ["out", "claude-code"]⟩ = none ∧
      Disk.refusal? ⟨"/", ["out", "claude-code", "instructions"]⟩ = none ∧
      Disk.refusal? ⟨"/", ["out", "claude-code", "instructions", "AGENTS.md"]⟩ = none ∧
      Disk.refusal? ⟨"/", ["out", "claude-code", ".claude-plugin"]⟩ = none ∧
      Disk.refusal? ⟨"/", ["out", "claude-code", ".claude-plugin", "plugin.json"]⟩ = none := by
    decide +kernel
  cases blocked <;>
    simp [installAll, install, writeFiles, writeFile, first, second, output, root, document, plugin,
      texts, short, taken, FilePath.parent, siteDisk, Disk.makeDirs, Disk.makeDirsFrom,
      Disk.vacancy, Disk.makeDir, Disk.isDir?, Disk.itemAt?, Disk.writeFile, Disk.lookup, Disk.walk,
      Disk.base, Disk.item?, Disk.put, Entries.get?, Entries.set, Except.map, Traced.fail]

end Site

/-- With a directory for the manifest both files are written; without it the instructions are, and
the manifest is not. -/
theorem siteDisk_run_build :
    (∃ instructions manifest : GeneratedFile,
      (siteRequest.compiled (siteDisk false)).outcome =
          .ok [("claude-code", [instructions, manifest])] ∧
        instructions.path = "instructions/AGENTS.md" ∧
        manifest.path = ".claude-plugin/plugin.json" ∧
        (run (siteDisk false) siteArguments).exitCode = 0 ∧
        IsInstalled (siteDisk false) (run (siteDisk false) siteArguments).disk
          (FilePath.ofText "/out") [("claude-code", instructions), ("claude-code", manifest)]) ∧
    ∃ instructions manifest : GeneratedFile,
      (siteRequest.compiled (siteDisk true)).outcome =
          .ok [("claude-code", [instructions, manifest])] ∧
        instructions.path = "instructions/AGENTS.md" ∧
        manifest.path = ".claude-plugin/plugin.json" ∧
        (run (siteDisk true) siteArguments).exitCode = 1 ∧
        IsInstalled (siteDisk true) (run (siteDisk true) siteArguments).disk
          (FilePath.ofText "/out") [("claude-code", instructions)] := by
  constructor
  · obtain ⟨instructions, manifest, compiled, first, second⟩ := siteRequest_compiled false
    refine ⟨instructions, manifest, compiled, first, second, ?_⟩
    obtain ⟨succeeds, -⟩ := (run_build (siteDisk_isWellFormed false) siteArguments).2 siteRequest
      "/out" (siteArguments_ask false) rfl rfl fun _ => siteDisk_linkFree false _
    have page : buildPage siteRequest [("claude-code", [instructions, manifest])] = [] := rfl
    have success : (run (siteDisk false) siteArguments).exitCode = 0 := by
      rw [run, siteArguments_ask]
      refine (BuildRequest.exitCode_runBuild_of_written compiled rfl rfl
        (siteDisk_installAll false first second)).trans ?_
      rw [page]
      decide +kernel
    obtain ⟨compilation, also, installed⟩ := succeeds success
    cases compiled.symm.trans also
    exact ⟨success, installed⟩
  · obtain ⟨instructions, manifest, compiled, first, second⟩ := siteRequest_compiled true
    refine ⟨instructions, manifest, compiled, first, second, ?_⟩
    obtain ⟨-, stops⟩ := (run_build (siteDisk_isWellFormed true) siteArguments).2 siteRequest "/out"
      (siteArguments_ask true) rfl rfl fun _ => siteDisk_linkFree true _
    obtain ⟨code, done, entry, rest, split, failed, installed⟩ :=
      stops _ _ compiled (siteDisk_installAll true first second)
    have text : (outputPath (FilePath.ofText "/out") ("claude-code", instructions)).text =
        "/out/claude-code/instructions/AGENTS.md" := by
      rw [outputPath, first]
      dsimp only
      decide
    change [("claude-code", instructions), ("claude-code", manifest)] = _ at split
    -- The error does not name the instructions, so these are in front of the file that failed.
    rcases done with _ | ⟨one, _ | ⟨two, more⟩⟩
    · cases split
      exact absurd (text.symm.trans failed.text_eq) (by decide)
    · cases split
      exact ⟨code, installed⟩
    · simp at split

end CommandLine

end EditorPlugins
