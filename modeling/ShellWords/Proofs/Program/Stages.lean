import ShellWords.Program.Run
import ShellWords.Proofs.EventLog.Consistency
import ShellWords.Proofs.Settings.Load

/-!
# The stages of a run

A run loads its settings, configures its log, loads the catalogs for its messages and carries out
its command, in this order. It fails in one of these stages or the command has an answer
(`failsIn_or_answers`). What it then does follows from the stage alone (`report_of_failsIn`,
`report_of_answers`), since writing to a log that has just been configured cannot fail.
-/
namespace ShellWords

inductive Stage
  | settings
  | log
  | catalogs
  | command
  deriving DecidableEq, Repr

/-- What a run that fails in a stage prints and how it ends, given the message of the failure. -/
def Stage.report (f : Failure) (message : Text) : Stage → Report
  | settings =>
    if f.family = .value then
      ⟨.status 2, [], "shellsplit: config error: " ++ message ++ "\n"⟩
    else ⟨.failed f, [], []⟩
  | log | catalogs => ⟨.failed f, [], []⟩
  | command =>
    if f.family = .other then ⟨.failed f, [], []⟩
    else
      let answer : Json := .obj [("error", .str message), ("kind", .str f.name)]
      ⟨.status 1, answer.render ++ ['\n'], []⟩

namespace World

variable {w : World} {now : Text} {input : Bytes} {arguments : List Text} {command : Command}
  {s : Settings} {catalogs : List Catalog}

/-- The world in which the catalogs are loaded and the command is carried out. -/
def configured (w : World) (s : Settings) : World :=
  { w with tree := (w.log.configure w.tree w.cwd s).tree
           log := (w.log.configure w.tree w.cwd s).log }

@[simp] theorem configured_translate (w : World) (s : Settings) :
    (w.configured s).translate = w.translate := rfl

/-- Everything before the command has gone well. -/
structure Ready (w : World) (s : Settings) (catalogs : List Catalog) : Prop where
  loaded : w.settings = .ok s
  opened : (w.log.configure w.tree w.cwd s).failure = none
  found : (w.configured s).catalogs s = .ok catalogs

/-- What the command of a run gets once everything before it has gone well. -/
def context (w : World) (s : Settings) (input : Bytes) : Command.Context :=
  ⟨w.configured s, s, input⟩

/-- The first failure of a run that ends it or is reported, and its message. -/
inductive FailsIn (w : World) (input : Bytes) (command : Command) : Stage → Failure → Text → Prop
  | settings {f : Failure} : w.settings = .error f → FailsIn w input command .settings f f.text
  | log {s : Settings} {e : FileError} :
      w.settings = .ok s → (w.log.configure w.tree w.cwd s).failure = some e →
      FailsIn w input command .log (.file e) e.message
  | catalogs {s : Settings} {e : CatalogError} :
      w.settings = .ok s → (w.log.configure w.tree w.cwd s).failure = none →
      (w.configured s).catalogs s = .error e →
      FailsIn w input command .catalogs (.catalog e) (Failure.catalog e).text
  | command {s : Settings} {catalogs : List Catalog} {f : Failure} {message : Text} :
      w.Ready s catalogs → command.answer (w.context s input) = .error f →
      f.message (w.translate catalogs) = .ok message →
      FailsIn w input command .command f message
  /-- What fails is to translate the message of another failure. -/
  | translation {s : Settings} {catalogs : List Catalog} {f : Failure} {fault : PluralFault} :
      w.Ready s catalogs → command.answer (w.context s input) = .error f →
      f.message (w.translate catalogs) = .error fault →
      FailsIn w input command .command (.plural fault) fault.message

/-- The command of a run has an answer under these settings. -/
def Answers (w : World) (input : Bytes) (command : Command) (s : Settings)
    (outcome : Command.Outcome) : Prop :=
  ∃ catalogs, w.Ready s catalogs ∧ command.answer (w.context s input) = .ok outcome

theorem failsIn_or_answers (w : World) (input : Bytes) (command : Command) :
    (∃ stage f message, w.FailsIn input command stage f message) ∨
      ∃ s outcome, w.Answers input command s outcome := by
  -- In the order of the stages: each one is reached only if those before it have gone well.
  cases loaded : w.settings with
  | error f => exact .inl ⟨_, _, _, .settings loaded⟩
  | ok s =>
    cases opened : (w.log.configure w.tree w.cwd s).failure with
    | some e => exact .inl ⟨_, _, _, .log loaded opened⟩
    | none =>
      cases found : (w.configured s).catalogs s with
      | error e => exact .inl ⟨_, _, _, .catalogs loaded opened found⟩
      | ok catalogs =>
        have ready : w.Ready s catalogs := ⟨loaded, opened, found⟩
        cases answered : command.answer (w.context s input) with
        | ok outcome => exact .inr ⟨s, outcome, catalogs, ready, answered⟩
        | error f =>
          cases worded : f.message (w.translate catalogs) with
          | ok message => exact .inl ⟨_, _, _, .command ready answered worded⟩
          | error fault => exact .inl ⟨_, _, _, .translation ready answered worded⟩

/-! ### The log in a run -/

theorem configured_consistent (opened : (w.log.configure w.tree w.cwd s).failure = none) :
    (w.configured s).log.isEnabled = (w.configured s).log.isOpen := by
  have notStranded : ¬ (⟨w.libraries.writer, w.log, w.tree, w.cwd⟩ : Logging).Strands s := by
    rintro ⟨-, failed⟩
    rw [opened] at failed
    cases failed
  exact (Logging.step_configure_consistent_iff s).mpr notStranded

/-- Recording an event changes the files at most, unless a logger has lost its file. -/
private theorem record_of_consistent (consistent : w.log.isEnabled = w.log.isOpen) (now : Text)
    (e : Event) : ∃ tree, w.record now e = .ok { w with tree } := by
  rw [record, EventLog.record]
  by_cases passes : w.log.passes w.libraries.writer e.level
  · have opened : w.log.isOpen := consistent ▸ EventLog.isEnabled_of_passes passes
    obtain ⟨place, file⟩ := Option.isSome_iff_exists.mp opened
    simp [passes, file]
  · exact ⟨w.tree, by simp [passes]⟩

private theorem conclude_of_consistent (consistent : w.log.isEnabled = w.log.isOpen) (now : Text)
    (status : Nat) (outcome : Command.Outcome) :
    ∃ tree, w.conclude now status outcome =
      ({ w with tree }, ⟨.status status, outcome.answer.render ++ ['\n'], []⟩) := by
  obtain ⟨tree, recorded⟩ := record_of_consistent consistent now outcome.event
  exact ⟨tree, by rw [conclude, recorded]⟩

/-! ### What a run does -/

private theorem carryOut_of_faulty {e : CatalogError} (found : w.catalogs s = .error e) :
    w.carryOut now s input command = (w, ⟨.failed (.catalog e), [], []⟩) := by
  rw [carryOut, found]

private theorem carryOut_of_answer (found : w.catalogs s = .ok catalogs) {outcome : Command.Outcome}
    (answered : command.answer ⟨w, s, input⟩ = .ok outcome) :
    w.carryOut now s input command = w.conclude now 0 outcome := by
  rw [carryOut, found]
  dsimp only
  rw [answered]

theorem carryOut_of_failure (found : w.catalogs s = .ok catalogs) {f : Failure}
    (failed : command.answer ⟨w, s, input⟩ = .error f) :
    w.carryOut now s input command =
      match f.message (w.translate catalogs) with
      | .error fault => (w, ⟨.failed (.plural fault), [], []⟩)
      | .ok message =>
        if f.family = .other then (w, ⟨.failed f, [], []⟩)
        else w.conclude now 1 (failureOutcome command f message) := by
  rw [carryOut, found]
  dsimp only
  rewrite [failed]
  rfl

theorem runCommand_of_opened (loaded : w.settings = .ok s)
    (opened : (w.log.configure w.tree w.cwd s).failure = none) :
    w.runCommand now input command = (w.configured s).carryOut now s input command := by
  rw [runCommand, loaded]
  dsimp only
  rw [opened]
  rfl

theorem run_of_asked (asked : Command.ofArguments arguments = .ok command) :
    w.run now input arguments = w.runCommand now input command := by
  rw [run, asked]

theorem run_of_answers (asked : Command.ofArguments arguments = .ok command)
    {outcome : Command.Outcome} (answers : w.Answers input command s outcome) :
    w.run now input arguments = (w.configured s).conclude now 0 outcome := by
  obtain ⟨catalogs, ready, answered⟩ := answers
  rw [run_of_asked asked, runCommand_of_opened ready.loaded ready.opened,
    carryOut_of_answer ready.found answered]

theorem report_of_answers (asked : Command.ofArguments arguments = .ok command)
    {outcome : Command.Outcome} (answers : w.Answers input command s outcome) :
    (w.run now input arguments).2 = ⟨.status 0, outcome.answer.render ++ ['\n'], []⟩ := by
  rw [run_of_answers asked answers]
  obtain ⟨catalogs, ready, -⟩ := answers
  obtain ⟨tree, concluded⟩ :=
    conclude_of_consistent (configured_consistent ready.opened) now 0 outcome
  rw [concluded]

theorem report_of_failsIn (asked : Command.ofArguments arguments = .ok command) {stage : Stage}
    {f : Failure} {message : Text} (fails : w.FailsIn input command stage f message) :
    (w.run now input arguments).2 = stage.report f message := by
  rw [run_of_asked asked]
  cases fails with
  | settings failed =>
    rw [runCommand, failed, Stage.report]
    dsimp only
    split <;> rfl
  | log loaded failed =>
    rw [runCommand, loaded]
    dsimp only
    rw [failed]
    rfl
  | catalogs loaded opened failed =>
    rw [runCommand_of_opened loaded opened, carryOut_of_faulty failed]
    rfl
  | command ready failed worded =>
    rw [runCommand_of_opened ready.loaded ready.opened, carryOut_of_failure ready.found failed,
      configured_translate, worded, Stage.report]
    dsimp only
    split
    · rfl
    -- The log is open if it is set at all, so the event of the failure can be written.
    · obtain ⟨tree, concluded⟩ :=
        conclude_of_consistent (configured_consistent ready.opened) now 1 _
      rw [concluded]
      rfl
  | translation ready failed unworded =>
    rw [runCommand_of_opened ready.loaded ready.opened, carryOut_of_failure ready.found failed,
      configured_translate, unworded]
    rfl

/-! ### Without settings -/

theorem settings_of_load (known : w.cwdFault? = none)
    (loaded : Settings.load w.tree w.surroundings w.cwd.path = .ok s) : w.settings = .ok s := by
  rw [settings, known]
  dsimp only
  rw [loaded]
  rfl

/-- The working directory is known, no settings file is there, and the catalogs that are installed
can be loaded. -/
structure Unconfigured (w : World) : Prop where
  known : w.cwdFault? = none
  sources : Settings.Sources w.tree w.surroundings w.cwd.path []
  catalogs : ∃ catalogs, w.catalogs {} = .ok catalogs

theorem Unconfigured.ready (unconfigured : w.Unconfigured) : ∃ catalogs, w.Ready {} catalogs := by
  obtain ⟨catalogs, found⟩ := unconfigured.catalogs
  obtain ⟨s, parsed, loaded⟩ :=
    Settings.load_of_parsed unconfigured.sources (List.forall_mem_nil _)
  obtain rfl : {} = s := Except.ok.inj parsed
  exact ⟨catalogs, settings_of_load unconfigured.known loaded, rfl, found⟩

/-- Without settings there is no log, so a command that has an answer only prints it. -/
theorem run_of_unconfigured (unconfigured : w.Unconfigured)
    (asked : Command.ofArguments arguments = .ok command) {outcome : Command.Outcome}
    (answered : command.answer ⟨{ w with log := {} }, {}, input⟩ = .ok outcome) :
    w.run now input arguments =
      ({ w with log := {} }, ⟨.status 0, outcome.answer.render ++ ['\n'], []⟩) := by
  obtain ⟨catalogs, ready⟩ := unconfigured.ready
  have answers : w.Answers input command {} outcome := ⟨catalogs, ready, answered⟩
  rw [run_of_answers asked answers]
  rfl

/-- Two empty directories, one of them the working directory. -/
def bare : World where
  tree := { entries := [(["home"], .directory), (["work"], .directory)] }
  cwd := ["work"]
  environment := [("HOME", "/home")]
  userFile := "/home/.shellsplit/config"
  systemCatalogs := "/usr/share/locale"
  kernelLineFile := "/proc/cmdline"
  uuidFile := "/proc/uuid"

theorem bare_unconfigured : bare.Unconfigured := by
  have nearest : Settings.SearchEnds bare.tree ["work"] (.ok none) :=
    Settings.projectFile?_eq_iff.mp (by decide +kernel)
  refine ⟨rfl, .located (by decide +kernel) nearest (.unset rfl) (.skip ?_ .nil), [], ?_⟩
  · decide +kernel
  · rfl

end World

end ShellWords
