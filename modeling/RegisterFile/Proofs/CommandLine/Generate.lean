import Mathlib
import RegisterFile.CommandLine.Run
import RegisterFile.Proofs.FileTree
import RegisterFile.Proofs.Generate

/-!
The command that generates files, on a file tree. All that can be wrong with a configuration is
found before the first file is written. From then on only the file tree can stop the command, and
what was written by then stays.
-/

namespace RegisterFile.CommandLine

/-- The paths that files are asked for at, in the order in which they are written. -/
def Targets.paths (targets : Targets) : List String :=
  targets.verilog ::
    (targets.header.toList ++ targets.registerMap.toList ++ targets.accessors.toList)

theorem Targets.map_writes {targets : Targets} {artifacts : Artifacts}
    (haccessors : artifacts.accessors.isSome = targets.accessors.isSome) :
    (targets.writes artifacts).map Prod.fst = targets.paths := by
  obtain ⟨verilog, header, registerMap, accessors⟩ := targets
  cases accessors with
  | none => cases header <;> cases registerMap <;> rfl
  | some path =>
    obtain ⟨text, htext⟩ := Option.isSome_iff_exists.mp haccessors
    simp only [writes, paths, htext]
    cases header <;> cases registerMap <;> rfl

section

variable (environment : Environment) (source : Source) (targets : Targets)
  (timestamp : Option String) (tree : FileTree)

/-- What a command line asks of generation. -/
def askedOptions (prepare : PrepareOptions) : GenerateOptions where
  prepare := prepare
  timestamp := chooseTimestamp timestamp environment.timestamp environment.now
  accessors := targets.accessors.isSome

/-- Artifacts come out of a file tree: the file of the configuration is a text that can be loaded,
    and generation succeeds on it. -/
def Generates (artifacts : Artifacts) : Prop :=
  ∃ content text config prepare, tree.read? source.path = some content ∧
    FileTree.decode? content = some text ∧ source.load? text = some (config, prepare) ∧
    generate config (askedOptions environment targets timestamp prepare) = .ok artifacts

/-- What the command may come to. -/
structure AllOrNothing (outcome : Outcome) : Prop where
  codes : outcome.exitCode ∈ [exitOk, exitInvalid, exitIo]
  /-- A configuration that is refused leaves the tree as it is. -/
  invalid : outcome.exitCode = exitInvalid → outcome.tree = tree
  /-- Success means that all paths hold their artifacts, and that no other file has changed. -/
  ok : outcome.exitCode = exitOk → ∃ artifacts,
    Generates environment source targets timestamp tree artifacts ∧
      (targets.writes artifacts).map Prod.fst = targets.paths ∧
      tree.Holds outcome.tree (targets.writes artifacts)
  /-- After generation only a write can fail, and the artifacts before it stay in place. -/
  stopped : ∀ artifacts, Generates environment source targets timestamp tree artifacts →
    outcome.exitCode = exitIo → ∃ done file rest between,
      targets.writes artifacts = done ++ file :: rest ∧ tree.Holds between done ∧
      between.write file.1 file.2 = (outcome.tree, false) ∧ tree.Holds outcome.tree done
  /-- Otherwise the configuration could not be read, and nothing was written. -/
  unread : (∀ artifacts, ¬ Generates environment source targets timestamp tree artifacts) →
    outcome.exitCode = exitIo →
      (tree.read? source.path).bind FileTree.decode? = none ∧ outcome.tree = tree

end

variable {environment : Environment} {words : List String} {source : Source} {targets : Targets}
  {timestamp : Option String} {tree : FileTree}

/-- What comes out once the text of the configuration is known. -/
theorem generates_iff {content : List UInt8} {text : String} {artifacts : Artifacts}
    (hcontent : tree.read? source.path = some content)
    (htext : FileTree.decode? content = some text) :
    Generates environment source targets timestamp tree artifacts ↔
      ∃ config prepare, source.load? text = some (config, prepare) ∧
        generate config (askedOptions environment targets timestamp prepare) = .ok artifacts := by
  constructor
  · rintro ⟨content', text', config, prepare, hcontent', htext', hload, hgenerate⟩
    obtain rfl := Option.some.inj (hcontent.symm.trans hcontent')
    obtain rfl := Option.some.inj (htext.symm.trans htext')
    exact ⟨config, prepare, hload, hgenerate⟩
  · rintro ⟨config, prepare, hload, hgenerate⟩
    exact ⟨content, text, config, prepare, hcontent, htext, hload, hgenerate⟩

/-- A file tree gives one set of artifacts at most. -/
theorem Generates.unique {artifacts other : Artifacts}
    (hfirst : Generates environment source targets timestamp tree artifacts)
    (hsecond : Generates environment source targets timestamp tree other) : other = artifacts := by
  obtain ⟨content, text, config, prepare, hread, htext, hload, hgenerate⟩ := hfirst
  obtain ⟨config', prepare', hload', hgenerate'⟩ := (generates_iff hread htext).mp hsecond
  obtain ⟨rfl, rfl⟩ := Prod.mk.inj (Option.some.inj (hload.symm.trans hload'))
  exact Except.ok.inj (hgenerate'.symm.trans hgenerate)

theorem Generates.accessors {artifacts : Artifacts}
    (hgenerates : Generates environment source targets timestamp tree artifacts) :
    artifacts.accessors.isSome = targets.accessors.isSome := by
  obtain ⟨content, text, config, prepare, -, -, -, hgenerate⟩ := hgenerates
  exact accessors_of_generate hgenerate

/-- A configuration that can be loaded and that generation accepts is written to the paths. -/
theorem planGenerate_of_ok {text : String} {config : Config} {options : PrepareOptions}
    {artifacts : Artifacts} (hload : source.load? text = some (config, options))
    (hgenerate : generate config (askedOptions environment targets timestamp options) =
      .ok artifacts) :
    planGenerate source targets
        (chooseTimestamp timestamp environment.timestamp environment.now) text =
      { exitCode := exitOk, writes := targets.writes artifacts } := by
  rw [askedOptions] at hgenerate
  simp only [planGenerate, hload, hgenerate]

/-- For every other text nothing is planned. -/
theorem planGenerate_of_forall_ne {text : String}
    (hrefused : ∀ config options artifacts, source.load? text = some (config, options) →
      generate config (askedOptions environment targets timestamp options) ≠ .ok artifacts) :
    planGenerate source targets
        (chooseTimestamp timestamp environment.timestamp environment.now) text =
      { exitCode := exitInvalid } := by
  cases hload : source.load? text with
  | none => simp only [planGenerate, hload]
  | some loaded =>
    obtain ⟨config, options⟩ := loaded
    cases hgenerate : generate config (askedOptions environment targets timestamp options) with
    | error e =>
      rw [askedOptions] at hgenerate
      simp only [planGenerate, hload, hgenerate]
    | ok artifacts => exact absurd hgenerate (hrefused config options artifacts hload)

theorem run_of_unread
    (hcommand : Command.ofWords words = .ok (.generate source targets timestamp))
    (hread : (tree.read? source.path).bind FileTree.decode? = none) :
    run environment words tree = ⟨exitIo, "", tree⟩ := by
  simp only [run, task, hcommand, Command.task, Task.run, hread]

theorem run_of_read {text : String}
    (hcommand : Command.ofWords words = .ok (.generate source targets timestamp))
    (hread : (tree.read? source.path).bind FileTree.decode? = some text) :
    run environment words tree = (planGenerate source targets
      (chooseTimestamp timestamp environment.timestamp environment.now) text).run tree := by
  simp only [run, task, hcommand, Command.task, Task.run, hread]

/-- The four ways in which the command ends: the configuration cannot be read, it is refused, all
    artifacts are written, or a write fails. -/
theorem run_cases
    (hcommand : Command.ofWords words = .ok (.generate source targets timestamp)) :
    ((∀ artifacts, ¬ Generates environment source targets timestamp tree artifacts) ∧
      (((tree.read? source.path).bind FileTree.decode? = none ∧
        run environment words tree = ⟨exitIo, "", tree⟩) ∨
        run environment words tree = ⟨exitInvalid, "", tree⟩)) ∨
    ∃ artifacts after, Generates environment source targets timestamp tree artifacts ∧
      ((tree.writeAll (targets.writes artifacts) = (after, true) ∧
        run environment words tree = ⟨exitOk, "", after⟩) ∨
        (tree.writeAll (targets.writes artifacts) = (after, false) ∧
          run environment words tree = ⟨exitIo, "", after⟩)) := by
  cases hread : (tree.read? source.path).bind FileTree.decode? with
  | none =>
    refine .inl ⟨?_, .inl ⟨rfl, run_of_unread hcommand hread⟩⟩
    rintro artifacts ⟨content, text, -, -, hcontent, htext, -⟩
    rw [hcontent, Option.bind_some, htext] at hread
    cases hread
  | some text =>
    have hrun := @run_of_read environment words source targets timestamp tree text hcommand hread
    obtain ⟨content, hcontent, htext⟩ := Option.bind_eq_some_iff.mp hread
    have hplanned := fun artifacts =>
      @generates_iff environment source targets timestamp tree content text artifacts hcontent htext
    by_cases hsome : ∃ artifacts, Generates environment source targets timestamp tree artifacts
    · obtain ⟨artifacts, hgenerates⟩ := hsome
      obtain ⟨config, options, hload, hgenerate⟩ := (hplanned artifacts).mp hgenerates
      rw [planGenerate_of_ok hload hgenerate] at hrun
      cases hwrites : tree.writeAll (targets.writes artifacts) with
      | mk after done =>
        refine .inr ⟨artifacts, after, hgenerates, ?_⟩
        simp only [Plan.run, hwrites] at hrun
        cases done with
        | true => exact .inl ⟨hwrites, hrun⟩
        | false => exact .inr ⟨hwrites, hrun⟩
    · have hnone := not_exists.mp hsome
      rw [planGenerate_of_forall_ne fun config options artifacts hload hgenerate =>
        hnone artifacts ((hplanned artifacts).mpr ⟨config, options, hload, hgenerate⟩)] at hrun
      exact .inl ⟨hnone, .inr hrun⟩

/-- All or nothing: a refused configuration changes nothing, success means that every path holds its
    artifact, and a failure after generation is one of a write. -/
theorem allOrNothing_of_ofWords
    (hcommand : Command.ofWords words = .ok (.generate source targets timestamp)) :
    AllOrNothing environment source targets timestamp tree (run environment words tree) := by
  have hokInvalid : exitOk ≠ exitInvalid := by decide
  have hokIo : exitOk ≠ exitIo := by decide
  have hinvalidIo : exitInvalid ≠ exitIo := by decide
  rcases @run_cases environment words source targets timestamp tree hcommand with
    ⟨hnone, ⟨hread, hrun⟩ | hrun⟩ |
      ⟨artifacts, after, hgenerates, ⟨hwrites, hrun⟩ | ⟨hwrites, hrun⟩⟩
  · rw [hrun]
    exact {
      codes := by simp
      invalid := fun _ => rfl
      ok := fun hok => absurd hok hokIo.symm
      stopped := fun artifacts hgenerates => absurd hgenerates (hnone artifacts)
      unread := fun _ _ => ⟨hread, rfl⟩ }
  · rw [hrun]
    exact {
      codes := by simp
      invalid := fun _ => rfl
      ok := fun hok => absurd hok hokInvalid.symm
      stopped := fun artifacts hgenerates => absurd hgenerates (hnone artifacts)
      unread := fun _ hio => absurd hio hinvalidIo }
  · rw [hrun]
    exact {
      codes := by simp
      invalid := fun hinvalid => absurd hinvalid hokInvalid
      ok := fun _ => ⟨artifacts, hgenerates, Targets.map_writes hgenerates.accessors,
        (FileTree.writeAll_eq_true hwrites).holds⟩
      stopped := fun _ _ hio => absurd hio hokIo
      unread := fun hnone => absurd hgenerates (hnone artifacts) }
  · rw [hrun]
    exact {
      codes := by simp
      invalid := fun hinvalid => absurd hinvalid hinvalidIo.symm
      ok := fun hok => absurd hok hokIo.symm
      stopped := by
        intro other hother _
        obtain rfl := hgenerates.unique hother
        obtain ⟨done, file, rest, between, hparts, hdone, hstopped⟩ :=
          FileTree.writeAll_eq_false hwrites
        have hwritten := FileTree.writeAll_eq_true hdone
        exact ⟨done, file, rest, between, hparts, hwritten.holds, hstopped,
          (hwritten.grown (FileTree.write_eq_false hstopped)).holds⟩
      unread := fun hnone => absurd hgenerates (hnone artifacts) }

/-- A configuration without registers. -/
def bareSource : Source where
  path := "regs.json"
  protocol := none
  autoAddress := false

/-- The module and the header at one path. -/
def sharedTargets : Targets where
  verilog := "out"
  header := some "out"
  registerMap := none
  accessors := none

/-- The text of that configuration. -/
def bareText : String :=
  "\x7b\"module_name\": \"regs\"\x7d"

/-- A working directory with nothing but that configuration. -/
def bareTree : FileTree where
  entries := [(["regs.json"], .file (FileTree.encode bareText))]

theorem exists_generates_bareTree :
    ∃ artifacts, Generates {} bareSource sharedTargets none bareTree artifacts := by
  have hread : (bareTree.read? "regs.json").bind FileTree.decode? = some bareText := by
    decide +kernel
  obtain ⟨content, hcontent, htext⟩ := Option.bind_eq_some_iff.mp hread
  have hvalid : (bareSource.load? bareText).map (fun loaded =>
      (prepare loaded.1 loaded.2).report.isValid) = some true := by decide +kernel
  obtain ⟨⟨config, options⟩, hload, hloaded⟩ := Option.map_eq_some_iff.mp hvalid
  obtain ⟨artifacts, hgenerate, -⟩ := (@generate_of_accessors config
    (askedOptions {} sharedTargets none options) hloaded).2 none rfl
  exact ⟨artifacts, content, bareText, config, options, hcontent, htext, hload, hgenerate⟩

/-- Where two paths are the same, the header is what stays. -/
theorem allOrNothing_of_ofWords_shared :
    Command.ofWords ["generate", "-c", "regs.json", "-o", "out", "--header", "out"] =
        .ok (.generate bareSource sharedTargets none) ∧
      (run {} ["generate", "-c", "regs.json", "-o", "out", "--header", "out"] bareTree).exitCode =
        exitOk ∧
      ∃ artifacts, Generates {} bareSource sharedTargets none bareTree artifacts ∧
        (run {} ["generate", "-c", "regs.json", "-o", "out", "--header", "out"] bareTree).tree.read?
          "out" = some (FileTree.encode artifacts.header) := by
  have hcommand : Command.ofWords ["generate", "-c", "regs.json", "-o", "out", "--header", "out"] =
      .ok (.generate bareSource sharedTargets none) := by decide +kernel
  have hall := @allOrNothing_of_ofWords {} _ bareSource sharedTargets none bareTree hcommand
  obtain ⟨artifacts, hgenerates⟩ := exists_generates_bareTree
  have hwrites : (bareTree.writeAll (sharedTargets.writes artifacts)).2 = true := rfl
  have hok : (run {} ["generate", "-c", "regs.json", "-o", "out", "--header", "out"]
      bareTree).exitCode = exitOk := by
    rcases @run_cases {} _ bareSource sharedTargets none bareTree hcommand with
      ⟨hnone, -⟩ | ⟨other, after, hother, ⟨-, hrun⟩ | ⟨hfailed, -⟩⟩
    · exact absurd hgenerates (hnone artifacts)
    · rw [hrun]
    · rw [← hgenerates.unique hother, hfailed] at hwrites
      cases hwrites
  obtain ⟨other, hother, -, hholds⟩ := hall.ok hok
  obtain rfl := hgenerates.unique hother
  obtain ⟨text, hlast, hread⟩ := hholds.reads ("out", other.header) (by
    simp [Targets.writes, sharedTargets])
  have hheader : bareTree.lastText? (sharedTargets.writes other) (bareTree.placeOf "out") =
      some other.header := by
    simp [Targets.writes, sharedTargets, FileTree.lastText?]
  obtain rfl := Option.some.inj (hlast.symm.trans hheader)
  exact ⟨hcommand, hok, other, hother, hread⟩

/-- Command lines that ask for anything else write nothing. -/
theorem tree_run_of_not_generate
    (hother : ∀ source targets timestamp,
      Command.ofWords words ≠ .ok (.generate source targets timestamp)) :
    (run environment words tree).tree = tree := by
  rw [run, task]
  cases hcommand : Command.ofWords words with
  | error stop => cases stop <;> rfl
  | ok command =>
    cases command with
    | generate source targets timestamp => exact absurd hcommand (hother source targets timestamp)
    | types => rfl
    | validate source format =>
      simp only [Command.task, Task.run]
      split
      · simp only [planValidate]
        split <;> rfl
      · rfl

end RegisterFile.CommandLine
