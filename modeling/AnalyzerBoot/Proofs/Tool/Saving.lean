import AnalyzerBoot.Proofs.Arguments.Options
import AnalyzerBoot.Proofs.Config.Loading
import AnalyzerBoot.Usb.Simulated

/-!
The tool as it saves configurations. It puts the directories of its arguments in front of those of a
configuration file and writes the result, possibly to that same file; nothing else is changed, and
nothing is written if the file does not load.
-/

set_option autoImplicit false

namespace AnalyzerBoot

namespace Tool

open Arguments (assigned Opt Level Given)

/-! Runs -/

/-- What arguments ask for, if they ask for something to be done. -/
def request? (arguments : List String) : Option Request :=
  match program.read arguments with
  | .run name given => Request.of? name given
  | _ => none

/-- The configuration of a file, or the default one. -/
def startingConfig (files : Files.View) : (source : Option String) → Except ConfigError Config
  | some path => Config.load files path
  | none => .ok {}

/-- How a run ends, what it prints, and the files it leaves. -/
structure Outcome where
  code : UInt32
  output : String := ""
  files : Files.Tree

variable {σ : Type} (η : Type) [Usb.Bus σ η]

def outcome (arguments : List String) (environment : Option String) (files : Files.Tree)
    (host : Host σ) : Outcome :=
  let response := ((respond (η := η) arguments files.lookup environment).run host).1
  let (status, after) := response.conclude files
  ⟨status.code, response.output, after⟩

/-- The directories of a request stand in front of those of the configuration it starts from. -/
theorem effectiveConfig_eq (request : Request) (files : Files.View) :
    request.effectiveConfig files = (startingConfig files request.config).map fun config =>
      { config with firmwareDirs := request.firmwareDirs ++ config.firmwareDirs } := by
  rw [Request.effectiveConfig, startingConfig.eq_def]
  cases request.config with
  | none => rfl
  | some path =>
    dsimp only
    cases Config.load files path <;> rfl

section
variable {arguments dirs : List String} {source : Option String} {path : String}
  (asked : request? arguments = some ⟨source, dirs, .saveConfig path⟩)
  (environment : Option String) {files : Files.Tree} (host : Host σ)
include asked

theorem respond_of_request? (view : Files.View) :
    respond (σ := σ) (η := η) arguments view environment =
      Request.perform (σ := σ) (η := η) ⟨source, dirs, .saveConfig path⟩ view environment := by
  unfold request? at asked
  split at asked
  · next name given read =>
    rw [respond, read]
    simp only [asked]
  · cases asked

theorem outcome_of_error {error : ConfigError}
    (failed : startingConfig files.lookup source = .error error) :
    outcome η arguments environment files host = { code := 1, files := files } := by
  rw [outcome, respond_of_request? η asked, Request.perform, effectiveConfig_eq, failed]
  rfl

theorem outcome_of_ok {config : Config} (started : startingConfig files.lookup source = .ok config)
    {after : Files.Tree}
    (saved : (Config.save { config with firmwareDirs := dirs ++ config.firmwareDirs } path).run
      files = (.ok (), after)) :
    outcome η arguments environment files host = { code := 0, files := after } := by
  have concluded := Config.conclude_of_save
    { config with firmwareDirs := dirs ++ config.firmwareDirs } path files .success ""
  rw [saved] at concluded
  rw [outcome, respond_of_request? η asked, Request.perform, effectiveConfig_eq, started]
  exact congrArg (fun ending => Outcome.mk ending.1.code "" ending.2) concluded

end

/-! Arguments -/

/-- Arguments that ask for the configuration to be saved. -/
def saveArguments (source : Option String) (dirs : List String) (path : String) : List String :=
  "save-config" :: (source.toList.map (assigned "config") ++
    (dirs.map (assigned "firmware-dir") ++ ["--", path]))

def saveCommand : Arguments.Command :=
  (program.command? "save-config").get rfl

/-- What may follow the command. -/
def saveLevel : Level :=
  program.level saveCommand

theorem operands_saveLevel : saveLevel.operands = .one "PATH" isPath :=
  rfl

theorem exists_configOption : ∃ opt label, saveLevel.named? "config".toList = some opt ∧
    opt.name = "config" ∧ opt.meaning = .value label isPath false :=
  ⟨_, _, rfl, rfl, rfl⟩

theorem exists_dirOption : ∃ opt label, saveLevel.named? "firmware-dir".toList = some opt ∧
    opt.name = "firmware-dir" ∧ opt.meaning = .value label isPath true :=
  ⟨_, _, rfl, rfl, rfl⟩

section
variable {source : Option String} {dirs rest : List String} {path : String}

theorem read_source {given : Given} (first : given.values "config" = [])
    (nonempty : ∀ file ∈ source, file ≠ "") :
    saveLevel.read none given (source.toList.map (assigned "config") ++ rest) =
      saveLevel.read none (given.addOptions "config" source.toList) rest := by
  obtain ⟨opt, label, named, name, meaning⟩ := exists_configOption
  cases source with
  | none => simp [Given.addOptions]
  | some file =>
    have accepted : isPath file = true := decide_eq_true (nonempty file rfl)
    rw [← name] at named first ⊢
    exact Level.read_assigned (by rw [name]; decide) named (Opt.take_once meaning accepted first)

theorem read_dirs {given : Given} (nonempty : ∀ dir ∈ dirs, dir ≠ "") :
    saveLevel.read none given (dirs.map (assigned "firmware-dir") ++ rest) =
      saveLevel.read none (given.addOptions "firmware-dir" dirs) rest := by
  obtain ⟨opt, label, named, name, meaning⟩ := exists_dirOption
  have accepted : ∀ dir ∈ dirs, isPath dir = true := fun dir member =>
    decide_eq_true (nonempty dir member)
  rw [← name] at named ⊢
  exact Level.read_repeated (by rw [name]; decide) named meaning accepted

/-- There are such arguments for any file, any directories and any path, if none is empty. -/
theorem request?_saveArguments (named : ∀ file ∈ source, file ≠ "")
    (nonempty : ∀ dir ∈ dirs, dir ≠ "") (target : path ≠ "") :
    request? (saveArguments source dirs path) = some ⟨source, dirs, .saveConfig path⟩ := by
  let given := (Given.addOptions {} "config" source.toList).addOptions "firmware-dir" dirs
  have accepted : isPath path = true := decide_eq_true target
  have operand : saveLevel.read none given ["--", path] =
      .ok { given := { given with operands := [path] } } := by
    rw [Level.read_separator]
    simp only [Level.addOperands, operands_saveLevel, Given.addOptions, List.foldlM_cons,
      List.foldlM_nil, Arguments.Operands.add, List.isEmpty_nil, accepted, Bool.and_self,
      ↓reduceIte, given]
    rfl
  have read : program.read (saveArguments source dirs path) =
      .run "save-config" { given with operands := [path] } := by
    have found : program.command? "save-config" = some saveCommand := rfl
    rw [saveArguments, Arguments.Program.read_command (by decide) (by decide) found,
      Arguments.Program.readCommand, ← saveLevel, read_source rfl named, read_dirs nonempty,
      operand]
    exact congrArg _ (Given.within_empty _)
  have sources : given.values "config" = source.toList := by
    simp [given, Given.values_addOptions, Given.values_empty]
  have directories : given.values "firmware-dir" = dirs := by
    simp [given, Given.values_addOptions, Given.values_empty]
  have asked : Request.of? "save-config" { given with operands := [path] } =
      some ⟨(given.values "config").head?, given.values "firmware-dir", .saveConfig path⟩ := rfl
  rw [request?, read, ← directories]
  refine asked.trans ?_
  rw [sources]
  cases source <;> rfl

end

/-! Saving -/

/-- A run that has something to start from and somewhere to write leaves a file there with all
entries of the merged configuration. -/
theorem outcome_of_lines {arguments dirs : List String} {source : Option String} {path : String}
    (asked : request? arguments = some ⟨source, dirs, .saveConfig path⟩)
    (environment : Option String) {files : Files.Tree} (host : Host σ) {config : Config}
    (started : startingConfig files.lookup source = .ok config)
    (writable : files.isWritable path = true) {lines : List (String × List Char)}
    (written : Config.lines? { config with firmwareDirs := dirs ++ config.firmwareDirs } =
      some lines) :
    ∃ after, outcome η arguments environment files host = { code := 0, files := after } ∧
      after.lookup path = some (.ofContent (Config.fileOf lines)) := by
  obtain ⟨after, saved, found⟩ := Config.save_of_lines written writable
  exact ⟨after, outcome_of_ok η asked environment host started saved, found⟩

theorem isRepresentable_of_start {files : Files.View} {source : Option String} {config : Config}
    (started : startingConfig files source = .ok config) : config.IsRepresentable := by
  cases source with
  | none =>
    cases started
    decide
  | some file => exact Config.isRepresentable_of_load started

/-- The tool saves the configuration that it starts from, with the directories that it is given in
front: what it writes loads as just that, and saving what it wrote once more, here or elsewhere,
writes the same bytes. Where there is nothing to start from, no file changes. Whatever is to be
saved, there are arguments that ask for it. -/
theorem saving_merges_configurations {arguments dirs : List String} {source : Option String}
    {path : String} (asked : request? arguments = some ⟨source, dirs, .saveConfig path⟩)
    (environment : Option String) (files : Files.Tree) (host : Host σ) :
    let run := outcome η arguments environment files host
    (∀ config, startingConfig files.lookup source = .ok config → files.isWritable path = true →
      run.code = 0 ∧ run.output = "" ∧ run.files.isWritable path = true ∧
      Config.load run.files.lookup path =
        .ok { config with firmwareDirs := dirs ++ config.firmwareDirs } ∧
      ∀ again copy, request? again = some ⟨some path, [], .saveConfig copy⟩ →
        run.files.isWritable copy = true → ∀ environment (host : Host σ),
        let rerun := outcome η again environment run.files host
        rerun.code = 0 ∧ rerun.output = "" ∧
        ∃ content, run.files.lookup path = some (.ofContent content) ∧
          rerun.files.lookup copy = some (.ofContent content)) ∧
    (∀ error, startingConfig files.lookup source = .error error →
      run = { code := 1, files := files }) ∧
    ∀ (source : Option String) (dirs : List String) (path : String),
      (∀ file ∈ source, file ≠ "") → (∀ dir ∈ dirs, dir ≠ "") → path ≠ "" →
      request? (saveArguments source dirs path) = some ⟨source, dirs, .saveConfig path⟩ := by
  intro run
  refine ⟨fun config started writable => ?_, fun error failed => ?_,
    fun source dirs path => request?_saveArguments⟩
  · let merged := { config with firmwareDirs := dirs ++ config.firmwareDirs }
    -- Directories are texts, which a file can always hold.
    have representable : merged.IsRepresentable :=
      (isRepresentable_of_start started : config.IsRepresentable)
    obtain ⟨lines, written⟩ := Config.exists_lines representable
    obtain ⟨after, ran, found⟩ := outcome_of_lines η asked environment host started writable written
    have loaded := Config.load_of_lines representable written found
    rw [show run = _ from ran]
    refine ⟨rfl, rfl, Files.Tree.isWritable_of_lookup found, loaded, ?_⟩
    intro again copy askedAgain writableCopy environment host
    obtain ⟨last, ranAgain, foundAgain⟩ :=
      outcome_of_lines η askedAgain environment host loaded writableCopy written
    intro rerun
    rw [show rerun = _ from ranAgain]
    exact ⟨rfl, rfl, _, found, foundAgain⟩
  · exact outcome_of_error η asked environment host failed

/-- A file that is replaced by what it is merged into, and is then saved once more. -/
theorem saving_merges_configurations_in_place :
    let files : Files.Tree :=
      ⟨[], [(["fx3.toml"], .ofContent (Text.toUtf8 "usb_interface = 1\n"))]⟩
    let dirs := ["a=b", "it's \"\n"]
    let config : Config := { usbInterface := 1 }
    let host : Host Usb.SimulatedBus := { bus := {} }
    let arguments := saveArguments (some "fx3.toml") dirs "fx3.toml"
    let run := outcome Usb.Handle arguments none files host
    let again := saveArguments (some "fx3.toml") [] "fx3.toml"
    let rerun := outcome Usb.Handle again none run.files host
    request? arguments = some ⟨some "fx3.toml", dirs, .saveConfig "fx3.toml"⟩ ∧
    startingConfig files.lookup (some "fx3.toml") = .ok config ∧
    files.isWritable "fx3.toml" = true ∧ run.code = 0 ∧
    Config.load run.files.lookup "fx3.toml" = .ok { config with firmwareDirs := dirs } ∧
    rerun.code = 0 ∧ rerun.files.lookup "fx3.toml" = run.files.lookup "fx3.toml" := by
  intro files dirs config host arguments run again rerun
  have asked : request? arguments = some ⟨some "fx3.toml", dirs, .saveConfig "fx3.toml"⟩ :=
    request?_saveArguments (by simp) (by decide) (by decide)
  have askedAgain : request? again = some ⟨some "fx3.toml", [], .saveConfig "fx3.toml"⟩ :=
    request?_saveArguments (by simp) (by simp) (by decide)
  have written : Toml.write? [("usb_interface", .integer 1)] =
      some "usb_interface = 1\n".toList := by decide
  have read := Toml.read?_write? (by decide) written
  have started : startingConfig files.lookup (some "fx3.toml") = .ok config := by
    have found : files.lookup "fx3.toml" =
        some (.ofContent (Text.toUtf8 "usb_interface = 1\n")) := rfl
    rw [startingConfig, Config.load, found]
    simp only [Files.Entry.ofContent, Text.ofUtf8?_toUtf8, Config.ofToml?, read]
    rfl
  have writable : files.isWritable "fx3.toml" = true := by decide
  -- Neither run is to be carried out here.
  have ran : outcome Usb.Handle arguments none files host = run := rfl
  have ranAgain : outcome Usb.Handle again none run.files host = rerun := rfl
  clear_value rerun run
  have saved := (saving_merges_configurations Usb.Handle asked none files host).1 config started
    writable
  rw [ran] at saved
  obtain ⟨done, -, writableNow, loaded, savedAgain⟩ := saved
  have resaved := savedAgain again "fx3.toml" askedAgain writableNow none host
  rw [ranAgain] at resaved
  obtain ⟨doneAgain, -, content, found, foundAgain⟩ := resaved
  exact ⟨asked, started, writable, done, loaded, doneAgain, foundAgain.trans found.symm⟩

end Tool

end AnalyzerBoot
