import ShellWords.Proofs.EventLog.Lines
import ShellWords.Proofs.Program.Stages

/-!
# What the log discloses

A run that ends with a status adds one line to its log. If the settings do not ask for the input in
it, that line depends on the name of the command and on how many items it has counted or, if it
fails, on what it reports (`Finished.exists_event`), besides the time. So runs that agree in these
cannot be told apart by their lines, whatever their inputs are (`run_lines_alike`).
-/
namespace ShellWords

/-- An event without the text that it is about. -/
def Event.withoutInput (e : Event) : Event := { e with input := none }

/-- The input of an event leaves no trace where it is not recorded. -/
private theorem EventLog.line_withoutInput (writer : LogWriter) (now : Text) (e : Event) :
    line writer false now e.withoutInput = line writer false now e := rfl

namespace Command

/-- The arguments hold all that the command is about. -/
def isSelfContained : Command → Bool
  | split text | tokens text => text.isSome
  | join _ _ | quote _ => true
  | kernelLine text fromKernel => text.isSome && !fromKernel
  | uuid => false

/-- How many words, tokens or arguments a command finds or joins. -/
def itemCount? (k : Classifier) : Command → Option Nat
  | split text => text.bind fun t => (Text.split t k).toOption.map List.length
  | tokens text => text.bind fun t => ((Stream.ofText t).tokens k).all.toOption.map List.length
  | join words _ => some words.length
  | kernelLine text _ => text.bind fun t => (KernelLine.split t).toOption.map List.length
  | quote _ | uuid => none

/-- What the commands count, by their names. -/
def itemNames : List (Text × Text) :=
  [("split", "words"), ("tokens", "tokens"), ("join", "words"), ("cmdline", "args")]

/-- The event of an answer, but for its input. -/
def countEvent (name : Text) (itemCount : Option Nat) : Event where
  name := name
  fields := match itemNames.lookup name, itemCount with
    | some items, some n => [(items, .int n)]
    | _, _ => []

private theorem ok_of_bind {α β ε : Type} {x : Except ε α} {next : α → Except ε β} {result : β}
    (bound : x >>= next = .ok result) : ∃ a, x = .ok a ∧ next a = .ok result := by
  cases x with
  | error e => cases bound
  | ok a => exact ⟨a, rfl, bound⟩

private theorem ok_of_mapError {α ε ε' : Type} {x : Except ε α} {convert : ε → ε'} {a : α}
    (converted : x.mapError convert = .ok a) : x = .ok a := by
  cases x with
  | error e => cases converted
  | ok a' =>
    cases converted
    rfl

/-- The event of an answer tells nothing but the command and how much it has counted. -/
theorem answer_event {command : Command} {c : Context} {outcome : Outcome}
    (selfContained : command.isSelfContained) (answered : command.answer c = .ok outcome) :
    outcome.event.withoutInput =
      countEvent command.name (command.itemCount? c.settings.classifier) := by
  -- The text is given, so reading it settles nothing; what is read from it is all that counts.
  cases command with
  | split text =>
    obtain ⟨t, rfl⟩ := Option.isSome_iff_exists.mp selfContained
    obtain ⟨_, ⟨⟩, answered⟩ := ok_of_bind answered
    obtain ⟨words, reads, ⟨⟩⟩ := ok_of_bind answered
    simp only [itemCount?, Option.bind_some, ok_of_mapError reads]
    rfl
  | tokens text =>
    obtain ⟨t, rfl⟩ := Option.isSome_iff_exists.mp selfContained
    obtain ⟨_, ⟨⟩, answered⟩ := ok_of_bind answered
    obtain ⟨tokens, reads, ⟨⟩⟩ := ok_of_bind answered
    simp only [itemCount?, Option.bind_some, ok_of_mapError reads]
    rfl
  | join words verify =>
    cases verify with
    | false =>
      cases answered
      rfl
    | true =>
      obtain ⟨verified, -, ⟨⟩⟩ := ok_of_bind answered
      rfl
  | quote text =>
    cases answered
    rfl
  | kernelLine text fromKernel =>
    obtain ⟨given, direct⟩ := Bool.and_eq_true_iff.mp selfContained
    obtain ⟨t, rfl⟩ := Option.isSome_iff_exists.mp given
    cases fromKernel with
    | true => cases direct
    | false =>
      obtain ⟨_, ⟨⟩, answered⟩ := ok_of_bind answered
      obtain ⟨arguments, reads, ⟨⟩⟩ := ok_of_bind answered
      simp only [itemCount?, Option.bind_some, ok_of_mapError reads]
      rfl
  | uuid => cases selfContained

end Command

/-- The log in a run, with what it finds around it. -/
def World.logging (w : World) : Logging := ⟨w.libraries.writer, w.log, w.tree, w.cwd⟩

namespace World

variable {w : World} {s : Settings} {path : Path}

/-- A line is added to the file that a path leads to, and nothing to any other file. -/
def AddsLine (before after : World) (path : Path) (line : Text) : Prop :=
  (∃ body, line = body ++ ['\n'] ∧ '\n' ∉ body) ∧
  ∃ place, after.tree.filePlace? after.cwd path.text = some place ∧
    ∀ other, after.tree.content other =
      before.tree.content other ++ if other = place then Utf8.encode line else []

/-- The settings of a run have a log that can be opened and is not to hold the input. -/
structure Discreet (w : World) (s : Settings) (path : Path) : Prop where
  loaded : w.settings = .ok s
  log : s.log = some path
  opened : (w.log.configure w.tree w.cwd s).failure = none
  reticent : s.logFull = false

/-- A run that ends with a status, of a command that its arguments alone settle. -/
structure Finished (w : World) where
  now : Text
  input : Bytes
  arguments : List Text
  command : Command
  status : Nat
  asked : Command.ofArguments arguments = .ok command
  selfContained : command.isSelfContained
  ended : (w.run now input arguments).2.ending = .status status

/-- The event of a failure that is reported. -/
def failureEvent (name kind message : Text) : Event where
  name := "error"
  level := .error
  fields := [("command", .str name), ("kind", .str kind), ("error", .str message)]

namespace Finished

/-- What the run leaves. -/
def final (r : w.Finished) : World := (w.run r.now r.input r.arguments).1

/-- The command of the run fails, and is reported as a failure of this kind with this message. -/
def Reports (r : w.Finished) (kind message : Text) : Prop :=
  ∃ f, w.FailsIn r.input r.command .command f message ∧ f.name = kind

end Finished

/-! ### One run -/

private theorem conclude_logging (w : World) (now : Text) (status : Nat)
    (outcome : Command.Outcome) :
    (w.conclude now status outcome).1.logging = (w.logging.step (.record now outcome.event)).1 := by
  simp only [conclude, record, logging, Logging.step]
  cases w.log.record w.libraries.writer w.tree now outcome.event <;> rfl

theorem conclude_addsLine (documented : w.libraries.writer.Documented)
    (discreet : w.Discreet s path) (now : Text) (status : Nat) {outcome : Command.Outcome}
    (notable : outcome.event.level ≠ .debug) :
    w.AddsLine ((w.configured s).conclude now status outcome).1 path
      (EventLog.line w.libraries.writer false now outcome.event) := by
  have success : (w.logging.step (.configure s)).2 = none :=
    Option.map_eq_none_iff.mpr discreet.opened
  have admitted : s.admits outcome.event.level := by simp [Settings.admits, notable]
  have ends := conclude_logging (w.configured s) now status outcome
  have added :=
    Logging.step_configure_record documented success discreet.log now admitted ends.symm
  rw [discreet.reticent] at added
  obtain ⟨members, -, line, printable⟩ := Noted.isLine_line documented ⟨false, now, outcome.event⟩
  exact ⟨⟨_, line, printable.newline_not_mem⟩, added⟩

theorem Answers.loaded {input : Bytes} {command : Command} {outcome : Command.Outcome}
    (answers : w.Answers input command s outcome) : w.settings = .ok s := by
  obtain ⟨_, ready, -⟩ := answers
  exact ready.loaded

theorem Ready.unique {catalogs catalogs' : List Catalog} {s' : Settings}
    (ready : w.Ready s catalogs) (ready' : w.Ready s' catalogs') :
    s = s' ∧ catalogs = catalogs' := by
  obtain rfl := Except.ok.inj (ready.loaded.symm.trans ready'.loaded)
  exact ⟨rfl, Except.ok.inj (ready.found.symm.trans ready'.found)⟩

/-- A command fails in one way, with one message. -/
theorem FailsIn.unique {input : Bytes} {command : Command} {f f' : Failure}
    {message message' : Text}
    (fails : w.FailsIn input command .command f message)
    (fails' : w.FailsIn input command .command f' message') : f = f' ∧ message = message' := by
  -- Both have the one failure of the command, and this can be worded or cannot.
  cases fails with
  | command ready failed worded =>
    cases fails' with
    | command ready' failed' worded' =>
      obtain ⟨rfl, rfl⟩ := ready.unique ready'
      obtain rfl := Except.error.inj (failed.symm.trans failed')
      exact ⟨rfl, Except.ok.inj (worded.symm.trans worded')⟩
    | translation ready' failed' unworded =>
      obtain ⟨rfl, rfl⟩ := ready.unique ready'
      obtain rfl := Except.error.inj (failed.symm.trans failed')
      cases worded.symm.trans unworded
  | translation ready failed unworded =>
    cases fails' with
    | command ready' failed' worded =>
      obtain ⟨rfl, rfl⟩ := ready.unique ready'
      obtain rfl := Except.error.inj (failed.symm.trans failed')
      cases worded.symm.trans unworded
    | translation ready' failed' unworded' =>
      obtain ⟨rfl, rfl⟩ := ready.unique ready'
      obtain rfl := Except.error.inj (failed.symm.trans failed')
      obtain rfl := Except.error.inj (unworded.symm.trans unworded')
      exact ⟨rfl, rfl⟩

theorem run_of_reported {now : Text} {input : Bytes} {arguments : List Text} {command : Command}
    (asked : Command.ofArguments arguments = .ok command) {catalogs : List Catalog}
    (ready : w.Ready s catalogs) {f : Failure}
    (failed : command.answer (w.context s input) = .error f) {message : Text}
    (worded : f.message (w.translate catalogs) = .ok message)
    (reported : f.family ≠ .other) :
    w.run now input arguments =
      (w.configured s).conclude now 1 (failureOutcome command f message) := by
  rw [run_of_asked asked, runCommand_of_opened ready.loaded ready.opened,
    carryOut_of_failure ready.found failed, configured_translate, worded]
  exact if_neg reported

/-- Where settings and log are in order, a run that ends with a status has an answer or a failure of
its command to report. -/
theorem Finished.answers_or_reports (discreet : w.Discreet s path) (r : w.Finished) :
    (r.status = 0 ∧ ∃ outcome, w.Answers r.input r.command s outcome) ∨
      (r.status = 1 ∧ ∃ f message, w.FailsIn r.input r.command .command f message ∧
        (w.run r.now r.input r.arguments) =
          (w.configured s).conclude r.now 1 (failureOutcome r.command f message)) := by
  have ended := r.ended
  -- Settings and log cannot fail, and a run in which the catalogs do has no status.
  rcases w.failsIn_or_answers r.input r.command with
    ⟨stage, f, message, fails⟩ | ⟨s', outcome, answers⟩
  · rw [report_of_failsIn r.asked fails] at ended
    cases fails with
    | settings failed =>
      rw [discreet.loaded] at failed
      cases failed
    | log loaded failed =>
      obtain rfl := Except.ok.inj (discreet.loaded.symm.trans loaded)
      rw [discreet.opened] at failed
      cases failed
    | catalogs => cases ended
    | translation => cases ended
    | command ready failed worded =>
      obtain rfl := Except.ok.inj (discreet.loaded.symm.trans ready.loaded)
      rw [Stage.report] at ended
      split at ended
      · cases ended
      · next reported =>
        exact .inr ⟨(Ending.status.inj ended).symm, f, message, .command ready failed worded,
          run_of_reported r.asked ready failed worded reported⟩
  · rw [report_of_answers r.asked answers] at ended
    obtain rfl := Except.ok.inj (discreet.loaded.symm.trans answers.loaded)
    exact .inl ⟨(Ending.status.inj ended).symm, outcome, answers⟩

/-- The line of a finished run is settled by the name of its command with the number of its items or
with what it reports, but for the time. -/
theorem Finished.exists_event (documented : w.libraries.writer.Documented)
    (discreet : w.Discreet s path) (r : w.Finished) :
    ∃ e : Event, w.AddsLine r.final path (EventLog.line w.libraries.writer false r.now e) ∧
      (r.status = 0 ∧ e.withoutInput =
          Command.countEvent r.command.name (r.command.itemCount? s.classifier) ∨
        r.status = 1 ∧ ∀ kind message, r.Reports kind message →
          e = failureEvent r.command.name kind message) := by
  -- The event of an answer is known but for its input, that of a failure as a whole.
  rcases r.answers_or_reports discreet with
    ⟨status, outcome, answers⟩ | ⟨status, f, message, fails, run⟩
  · have run : w.run r.now r.input r.arguments = (w.configured s).conclude r.now 0 outcome :=
      run_of_answers r.asked answers
    obtain ⟨catalogs, -, answered⟩ := answers
    have told := Command.answer_event r.selfContained answered
    have level : outcome.event.level = .info := congrArg Event.level told
    refine ⟨outcome.event, ?_, .inl ⟨status, told⟩⟩
    rw [final, run]
    exact conclude_addsLine documented discreet r.now 0 (by simp [level])
  · refine ⟨failureEvent r.command.name f.name message, ?_, .inr ⟨status, ?_⟩⟩
    · rw [final, run]
      exact conclude_addsLine documented discreet r.now 1 nofun
    · rintro kind message' ⟨f', fails', rfl⟩
      obtain ⟨rfl, rfl⟩ := FailsIn.unique fails fails'
      rfl

/-! ### Two runs -/

/-- Under settings that do not ask for the input in the log, every finished run adds one line. Two
runs of one command, in whatever surroundings, that end with the same status and count as many items
or report the same add the same line but for the time, whatever their inputs are. -/
theorem run_lines_alike {w' : World} (documented : w.libraries.writer.Documented)
    (same : w'.libraries.writer = w.libraries.writer) (discreet : w.Discreet s path)
    (discreet' : w'.Discreet s path) :
    (∀ r : w.Finished, ∃ line, w.AddsLine r.final path line) ∧
    ∀ (r : w.Finished) (r' : w'.Finished),
      r.command.name = r'.command.name → r.status = r'.status →
      (r.status = 0 → r.command.itemCount? s.classifier = r'.command.itemCount? s.classifier) →
      (r.status = 1 → ∃ kind message, r.Reports kind message ∧ r'.Reports kind message) →
      ∃ front back : Text,
        w.AddsLine r.final path (front ++ "\"ts\": " ++ Json.quoted r.now ++ back) ∧
        w'.AddsLine r'.final path (front ++ "\"ts\": " ++ Json.quoted r'.now ++ back) := by
  constructor
  · intro r
    obtain ⟨e, added, -⟩ := r.exists_event documented discreet
    exact ⟨_, added⟩
  · intro r r' named ended counted reported
    obtain ⟨e, added, told⟩ := r.exists_event documented discreet
    obtain ⟨e', added', told'⟩ := r'.exists_event (same ▸ documented) discreet'
    -- Runs with different statuses are not compared, so both have an answer or both report.
    have alike : e.withoutInput = e'.withoutInput := by
      rcases told with ⟨status, told⟩ | ⟨status, told⟩ <;>
        rcases told' with ⟨status', told'⟩ | ⟨status', told'⟩
      · rw [told, told', named, counted status]
      · omega
      · omega
      · obtain ⟨kind, message, reports, reports'⟩ := reported status
        rw [told kind message reports, told' kind message reports', named]
    obtain ⟨front, back, around⟩ := EventLog.line_around documented false e.withoutInput
    refine ⟨front, back, ?_, ?_⟩
    · rwa [← around, EventLog.line_withoutInput]
    · rwa [← around, alike, EventLog.line_withoutInput, ← same]

/-- The bare world with a settings file that asks for a log. -/
def noting : World :=
  { bare with tree := bare.tree.put ["work", ".shellsplit"] (.file (Utf8.encode "set log a.log")) }

def notingSettings : Settings :=
  { log := some ⟨.relative, ["a.log"]⟩, source := some "/work/.shellsplit" }

private theorem noting_ready : noting.Ready notingSettings [] := by
  have loaded : noting.settings = .ok notingSettings := by
    decide +kernel
  exact ⟨loaded, rfl, rfl⟩

/-- Two runs that join two words each, and two that meet a quote without an end. -/
theorem run_lines_alike_noting :
    let path : Path := ⟨.relative, ["a.log"]⟩
    noting.libraries.writer.Documented ∧ noting.Discreet notingSettings path ∧
    (∃ r r' : noting.Finished, r.status = 0 ∧ r'.status = 0 ∧
      r.command = .join ["a b", "$c"] false ∧ r'.command = .join ["", "x\n"] false ∧
      ∃ front back : Text,
        noting.AddsLine r.final path (front ++ "\"ts\": " ++ Json.quoted r.now ++ back) ∧
        noting.AddsLine r'.final path (front ++ "\"ts\": " ++ Json.quoted r'.now ++ back)) ∧
    ∃ r r' : noting.Finished, r.status = 1 ∧ r'.status = 1 ∧
      r.command = .kernelLine (some "a=\"b") false ∧
      r'.command = .kernelLine (some "b=\"c d") false ∧
      ∃ front back : Text,
        noting.AddsLine r.final path (front ++ "\"ts\": " ++ Json.quoted r.now ++ back) ∧
        noting.AddsLine r'.final path (front ++ "\"ts\": " ++ Json.quoted r'.now ++ back) := by
  intro path
  have documented : noting.libraries.writer.Documented := LogWriter.standard_documented
  have discreet : noting.Discreet notingSettings path :=
    ⟨noting_ready.loaded, rfl, noting_ready.opened, rfl⟩
  obtain ⟨-, alike⟩ := run_lines_alike documented rfl discreet discreet
  refine ⟨documented, discreet, ?_, ?_⟩
  · let r : noting.Finished :=
      ⟨"1", [], ["join", "a b", "$c"], .join ["a b", "$c"] false, 0, rfl, rfl,
        congrArg Report.ending (report_of_answers rfl ⟨[], noting_ready, rfl⟩)⟩
    let r' : noting.Finished :=
      ⟨"2", [], ["join", "", "x\n"], .join ["", "x\n"] false, 0, rfl, rfl,
        congrArg Report.ending (report_of_answers rfl ⟨[], noting_ready, rfl⟩)⟩
    exact ⟨r, r', rfl, rfl, rfl, rfl, alike r r' rfl rfl (fun _ => rfl) nofun⟩
  · have fails : noting.FailsIn [] (.kernelLine (some "a=\"b") false) .command
        (.quoting .unbalanced) "unbalanced quoting" := .command noting_ready rfl rfl
    have fails' : noting.FailsIn [] (.kernelLine (some "b=\"c d") false) .command
        (.quoting .unbalanced) "unbalanced quoting" := .command noting_ready rfl rfl
    let r : noting.Finished :=
      ⟨"1", [], ["cmdline", "a=\"b"], _, 1, rfl, rfl,
        congrArg Report.ending (report_of_failsIn rfl fails)⟩
    let r' : noting.Finished :=
      ⟨"2", [], ["cmdline", "b=\"c d"], _, 1, rfl, rfl,
        congrArg Report.ending (report_of_failsIn rfl fails')⟩
    exact ⟨r, r', rfl, rfl, rfl, rfl, alike r r' rfl rfl nofun
      fun _ => ⟨_, _, ⟨_, fails, rfl⟩, _, fails', rfl⟩⟩

end World

end ShellWords
