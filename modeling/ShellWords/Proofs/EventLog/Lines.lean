import Mathlib.Data.List.Forall2
import ShellWords.Proofs.EventLog.Consistency
import ShellWords.Proofs.Files.Content
import ShellWords.Proofs.Json
import ShellWords.Proofs.Text.Utf8

/-!
# Lines of the log

As long as every configuration succeeds, the log that is open is where the path of the settings
configured last leads (`Logging.InForce`). Each call keeps that, and an event that these settings
admit adds one line to that file and nothing to any other (`Logging.step_record_of_inForce`). So at
the end of a run every file holds what it held before and the lines of the events noted in it
(`Logging.start_after_content`).
-/
namespace ShellWords

/-- Nothing but the log of the program changes the files. -/
def LogCall.isOwn : LogCall → Bool
  | configure _ | record _ _ => true
  | meanwhile _ _ => false

/-- All events but those for debugging are admitted, and these if they are asked for. -/
def Settings.admits (s : Settings) (level : Level) : Bool := s.verbose || level ≠ .debug

/-- An event for a log, with what its line depends on. -/
structure Noted where
  recordInput : Bool
  now : Text
  event : Event

/-! ### One line -/

theorem LogWriter.standard_documented : standard.Documented where
  passes_iff least level := by simp [standard]
  exists_members level name fields := by
    -- The level is set after the time, and leaves it where it is.
    have differs : ("ts" : Text) ≠ "level" := by decide
    obtain ⟨before, after, members⟩ :=
      (Json.openAt_set (Json.set fields "event" (.str name)) "ts").set differs (.str level.name)
    refine ⟨before, after, fun now => ?_⟩
    rw [timeMember, ← members (.str now)]
    refine ⟨?_, rfl⟩
    constructor
    · simp +decide only [Json.lookup_set, if_false, if_true]
    · simp +decide only [Json.lookup_set, if_false, if_true]
    · simp +decide only [Json.lookup_set, if_true]
    · intro other unnamed
      simp only [List.mem_cons, List.not_mem_nil, or_false, not_or] at unnamed
      obtain ⟨notEvent, notTime, notLevel⟩ := unnamed
      simp only [Json.lookup_set, if_neg notEvent, if_neg notTime, if_neg notLevel]

namespace Noted

/-- What the members of a line say of an event. The time, the level and the name of the event take
the place of fields of these names. -/
structure Describes (n : Noted) (members : List (Text × Json)) : Prop where
  name : members.lookup ("event" : Text) = some (.str n.event.name)
  time : members.lookup ("ts" : Text) = some (.str n.now)
  level : members.lookup ("level" : Text) = some (.str n.event.level.name)
  input : ∀ t, n.event.input = some t → n.recordInput = true →
    members.lookup ("input" : Text) = some (.str t)
  no_input : n.event.input = none ∨ n.recordInput = false →
    members.lookup ("input" : Text) = n.event.fields.lookup ("input" : Text)
  others : ∀ name, name ∉ (["event", "ts", "level", "input"] : List Text) →
    members.lookup name = n.event.fields.lookup name

/-- A line of its own, in printable ASCII, that describes an event. -/
def IsLine (n : Noted) (line : Text) : Prop :=
  ∃ members, n.Describes members ∧ line = (Json.obj members).render ++ ['\n'] ∧
    Text.IsPrintableAscii (Json.obj members).render

def line (writer : LogWriter) (n : Noted) : Text :=
  EventLog.line writer n.recordInput n.now n.event

/-- The fields of an event hold its input where that is recorded, and are else as they were
given. -/
private theorem describes_of_tells {n : Noted} {members : List (Text × Json)}
    (tells : LogWriter.Tells n.now n.event.level n.event.name
      (EventLog.fieldsOf n.recordInput n.event) members) : n.Describes members where
  name := tells.name
  time := tells.time
  level := tells.level
  input t given recorded := by
    have fields : EventLog.fieldsOf n.recordInput n.event =
        Json.set n.event.fields "input" (.str t) := by
      simp only [EventLog.fieldsOf, given, recorded]
    rw [tells.others _ (by decide), fields, Json.lookup_set, if_pos rfl]
  no_input missing := by
    have fields : EventLog.fieldsOf n.recordInput n.event = n.event.fields := by
      rcases missing with missing | unrecorded
      · cases recorded : n.recordInput <;> simp only [EventLog.fieldsOf, missing]
      · simp only [EventLog.fieldsOf, unrecorded]
    rw [tells.others _ (by decide), fields]
  others name other := by
    have unnamed : name ∉ (["event", "ts", "level"] : List Text) :=
      fun named => other (List.mem_append_left (["input"] : List Text) named)
    have notInput : name ≠ "input".toList := by
      rintro rfl
      exact other (by decide)
    rw [tells.others _ unnamed, EventLog.fieldsOf.eq_def]
    split
    · rw [Json.lookup_set, if_neg notInput]
    · rfl

theorem isLine_line {writer : LogWriter} (documented : writer.Documented) (n : Noted) :
    n.IsLine (n.line writer) := by
  obtain ⟨before, after, written⟩ := documented.exists_members n.event.level n.event.name
    (EventLog.fieldsOf n.recordInput n.event)
  obtain ⟨tells, line⟩ := written n.now
  exact ⟨_, describes_of_tells tells, line, Json.isPrintableAscii_render _⟩

end Noted

namespace EventLog

/-- The time stands in one place of a line. -/
theorem line_around {writer : LogWriter} (documented : writer.Documented) (recordInput : Bool)
    (e : Event) :
    ∃ front back : Text, ∀ now,
      line writer recordInput now e = front ++ "\"ts\": " ++ Json.quoted now ++ back := by
  obtain ⟨before, after, written⟩ :=
    documented.exists_members e.level e.name (fieldsOf recordInput e)
  have open_ : Json.OpenAt "ts" fun value => before ++ ("ts".toList, value) :: after :=
    ⟨before, after, fun _ => rfl⟩
  obtain ⟨front, back, around⟩ := Json.renderMembers_around open_
  have label : Json.quoted "ts" ++ ": " = "\"ts\": " := rfl
  refine ⟨'\x7b' :: front, back ++ "\x7d\n", fun now => ?_⟩
  have members := around (.str now)
  rw [Json.renderMember, label] at members
  rw [line, (written now).2, Json.render, LogWriter.timeMember]
  change '\x7b' :: (Json.renderMembers (before ++ ("ts".toList, .str now) :: after) ++ _) ++ _ = _
  rw [members, Json.render]
  simp

/-! ### The open log -/

/-- The log that settings set up in the file at a place. -/
def ofSettings (place : Location) (s : Settings) : EventLog :=
  ⟨some place, some (if s.verbose then .debug else .info), s.logFull⟩

private theorem passes_ofSettings {writer : LogWriter} (documented : writer.Documented)
    (place : Location) (s : Settings) (level : Level) :
    (ofSettings place s).passes writer level = s.admits level := by
  rw [Bool.eq_iff_iff, passes, ofSettings, Option.any_some, documented.passes_iff]
  cases verbose : s.verbose <;> cases level <;>
    simp [Settings.admits, verbose, Level.severity]

/-- If nothing fails, the log is off, or in the file that the path leads to, and no file has lost or
got any content. -/
private theorem configure_of_success {log : EventLog} {tree : FileTree} {cwd : Location}
    {s : Settings}
    (success : (log.configure tree cwd s).failure = none) :
    tree.Extends (log.configure tree cwd s).tree ∧
    ((s.log = none ∧ (log.configure tree cwd s).log = {}) ∨
      ∃ path place, s.log = some path ∧ (log.configure tree cwd s).log = ofSettings place s ∧
        (log.configure tree cwd s).tree.filePlace? cwd path.text = some place) := by
  -- Making the directories and opening the file are the two places where it can fail.
  cases given : s.log with
  | none =>
    rw [configure, given]
    exact ⟨.refl tree, .inl ⟨rfl, rfl⟩⟩
  | some path =>
    have directories := tree.extends_makeDirectories cwd path.parent
    rw [configure, given] at success ⊢
    dsimp only at success ⊢
    split at success
    · cases success
    · next made =>
      rw [made] at directories
      split at success
      · cases success
      · next place tree' opened =>
        obtain ⟨grown, leads⟩ := FileTree.extends_openAppend opened
        exact ⟨directories.trans grown, .inr ⟨path, place, rfl, rfl, leads⟩⟩

end EventLog

namespace Logging

variable {l : Logging} {s : Settings} {place : Location}

/-- The file that the log of these settings is in. -/
def logPlace? (l : Logging) (s : Settings) : Option Location :=
  s.log.bind fun path => l.tree.filePlace? l.cwd path.text

/-- The log is as these settings have it: off, or open where their path leads. -/
def InForce (l : Logging) (s : Settings) : Prop :=
  (s.log = none ∧ l.log = {}) ∨
    ∃ place, l.logPlace? s = some place ∧ l.log = .ofSettings place s

private theorem InForce.log_eq (inForce : l.InForce s) (leads : l.logPlace? s = some place) :
    l.log = .ofSettings place s := by
  rcases inForce with ⟨off, -⟩ | ⟨place', leads', set⟩
  · rw [logPlace?, off] at leads
    cases leads
  · rw [leads] at leads'
    cases leads'
    exact set

private theorem InForce.logPlace?_eq (inForce : l.InForce s) (file : l.log.file = some place) :
    l.logPlace? s = some place := by
  rcases inForce with ⟨-, unset⟩ | ⟨place', leads, set⟩
  · rw [unset] at file
    cases file
  · rw [set] at file
    cases file
    exact leads

theorem InForce.consistent (inForce : l.InForce s) : l.Consistent := by
  rcases inForce with ⟨-, unset⟩ | ⟨place', -, set⟩
  · rw [Consistent, unset]
    rfl
  · rw [Consistent, set]
    rfl

/-- The events of a run for the file at a place: those made while the log of the settings configured
last, at first of those given, was in that file, if these settings admit them. -/
def notedAt (place : Location) (l : Logging) (s : Settings) : List LogCall → List Noted
  | [] => []
  | .configure s' :: calls => notedAt place (l.step (.configure s')).1 s' calls
  | .record now e :: calls =>
    let later := notedAt place (l.step (.record now e)).1 s calls
    if l.logPlace? s = some place ∧ s.admits e.level then ⟨s.logFull, now, e⟩ :: later else later
  | .meanwhile tree cwd :: calls => notedAt place (l.step (.meanwhile tree cwd)).1 s calls

/-- Every configuration of a run succeeds. -/
def Configures (l : Logging) : List LogCall → Prop
  | [] => True
  | call :: calls =>
    (call.isConfigure → (l.step call).2 = none) ∧ (l.step call).1.Configures calls

instance decidableConfigures (l : Logging) : (calls : List LogCall) → Decidable (l.Configures calls)
  | [] => inferInstanceAs (Decidable True)
  | call :: calls =>
    let _ := (l.step call).1.decidableConfigures calls
    inferInstanceAs (Decidable
      ((call.isConfigure → (l.step call).2 = none) ∧ (l.step call).1.Configures calls))

/-! ### One call -/

theorem inForce_step_configure (success : (l.step (.configure s)).2 = none) :
    l.tree.Extends (l.step (.configure s)).1.tree ∧ (l.step (.configure s)).1.InForce s := by
  have configured : (l.log.configure l.tree l.cwd s).failure = none :=
    Option.map_eq_none_iff.mp success
  obtain ⟨grown, off | ⟨path, place, given, open_, leads⟩⟩ :=
    EventLog.configure_of_success configured
  · exact ⟨grown, .inl off⟩
  · refine ⟨grown, .inr ⟨place, ?_, open_⟩⟩
    rw [logPlace?, given]
    exact leads

private theorem step_writer (l : Logging) (call : LogCall) : (l.step call).1.writer = l.writer := by
  cases call with
  | record now e =>
    rw [step]
    split <;> rfl
  | configure | meanwhile => rfl

private theorem step_record_log (l : Logging) (now : Text) (e : Event) :
    (l.step (.record now e)).1.log = l.log := by
  rw [step]
  split <;> rfl

/-- An event adds its line to the file of the log if the settings in force have one and admit it. -/
theorem step_record_of_inForce (documented : l.writer.Documented) (inForce : l.InForce s)
    (now : Text) (e : Event) :
    (l.step (.record now e)).1.InForce s ∧
    ∀ place, (l.step (.record now e)).1.tree.content place = l.tree.content place ++
      if l.logPlace? s = some place ∧ s.admits e.level then
        Utf8.encode (EventLog.line l.writer s.logFull now e)
      else [] := by
  -- The last case cannot be: a log that is in force has not lost its file.
  rcases l.step_record_cases now e with
    ⟨silent, same⟩ | ⟨passes, -, here, file, added⟩ | ⟨-, stranded, -⟩
  · rw [same]
    refine ⟨inForce, fun place => ?_⟩
    rw [if_neg, List.append_nil]
    rintro ⟨leads, admitted⟩
    rw [passes, inForce.log_eq leads, EventLog.passes_ofSettings documented] at silent
    exact silent admitted
  · have leads : l.logPlace? s = some here := inForce.logPlace?_eq file
    have set : l.log = .ofSettings here s := inForce.log_eq leads
    have admitted : s.admits e.level := by
      rwa [Logging.passes, set, EventLog.passes_ofSettings documented] at passes
    obtain ⟨path, given, leads'⟩ := Option.bind_eq_some_iff.mp leads
    obtain ⟨bytes, there⟩ := FileTree.file_of_filePlace? leads'
    rw [added]
    constructor
    · refine .inr ⟨here, ?_, set⟩
      rw [logPlace?, given]
      exact FileTree.filePlace?_of_keeps (l.tree.keeps_append here _) leads'
    · intro place
      have recorded : l.log.recordInput = s.logFull := by rw [set, EventLog.ofSettings]
      rw [appended, FileTree.content_append there, recorded, leads]
      simp [admitted, eq_comm]
  · exact absurd inForce.consistent stranded

/-- An event after a configuration adds one line, where the path of the settings then leads. -/
theorem step_configure_record (documented : l.writer.Documented)
    (success : (l.step (.configure s)).2 = none) {path : Path} (given : s.log = some path)
    (now : Text) {e : Event} (admitted : s.admits e.level)
    {ended : Logging} (ends : ((l.step (.configure s)).1.step (.record now e)).1 = ended) :
    ∃ place, ended.tree.filePlace? ended.cwd path.text = some place ∧
      ∀ other, ended.tree.content other = l.tree.content other ++
        if other = place then Utf8.encode (EventLog.line l.writer s.logFull now e) else [] := by
  obtain ⟨grown, inForce⟩ := inForce_step_configure success
  have same : (l.step (.configure s)).1.writer = l.writer := step_writer l _
  obtain ⟨inForce', content⟩ := step_record_of_inForce (same ▸ documented) inForce now e
  rw [ends] at inForce' content
  rw [same] at content
  obtain ⟨place, leads, set⟩ := inForce.resolve_left fun off => by simp [given] at off
  -- The event does not change where the path leads.
  have leads' : ended.logPlace? s = some place := by
    refine inForce'.logPlace?_eq ?_
    rw [← ends, step_record_log, set]
    rfl
  refine ⟨place, ?_, fun other => ?_⟩
  · rw [logPlace?, given] at leads'
    exact leads'
  · rw [content, grown.content_eq, leads]
    simp [admitted, eq_comm]

/-! ### Many calls -/

private theorem after_cons (l : Logging) (call : LogCall) (calls : List LogCall) :
    l.after (call :: calls) = (l.step call).1.after calls := rfl

theorem after_content (documented : l.writer.Documented) (inForce : l.InForce s)
    {calls : List LogCall} (own : ∀ call ∈ calls, call.isOwn) (configures : l.Configures calls)
    (place : Location) :
    (l.after calls).tree.content place =
      l.tree.content place ++
        Utf8.encode ((l.notedAt place s calls).flatMap (Noted.line l.writer)) := by
  -- Along the calls: from one to the next, the log stays as the settings have it.
  induction calls generalizing l s with
  | nil => simp [after, notedAt, Utf8.encode]
  | cons call calls ih =>
    obtain ⟨own, others⟩ := List.forall_mem_cons.mp own
    obtain ⟨success, configures⟩ := configures
    rw [after_cons]
    cases call with
    | configure s' =>
      obtain ⟨grown, inForce'⟩ := inForce_step_configure (success rfl)
      rw [ih (by rwa [step_writer]) inForce' others configures, grown.content_eq, notedAt,
        step_writer]
    | record now e =>
      obtain ⟨inForce', content⟩ := step_record_of_inForce documented inForce now e
      rw [ih (by rwa [step_writer]) inForce' others configures, content, notedAt, step_writer]
      split
      · simp [Noted.line, Utf8.encode_append]
      · simp
    | meanwhile tree cwd => cases own

/-- At the end of a run in which all configurations succeed, every file holds what it held before,
followed by one line for each event noted in it, in the order of the calls. -/
theorem start_after_content {writer : LogWriter} (documented : writer.Documented) (tree : FileTree)
    (cwd : Location) {calls : List LogCall} (own : ∀ call ∈ calls, call.isOwn)
    (configures : (start writer tree cwd).Configures calls) (place : Location) :
    ∃ lines : List Text,
      ((start writer tree cwd).after calls).tree.content place =
        tree.content place ++ Utf8.encode lines.flatten ∧
      List.Forall₂ Noted.IsLine ((start writer tree cwd).notedAt place {} calls) lines := by
  have unset : (start writer tree cwd).InForce {} := .inl ⟨rfl, rfl⟩
  refine ⟨((start writer tree cwd).notedAt place {} calls).map (Noted.line writer), ?_, ?_⟩
  · rw [after_content documented unset own configures place, List.flatMap_def]
    rfl
  · refine List.forall₂_map_right_iff.mpr (List.forall₂_same.mpr fun n _ => ?_)
    exact n.isLine_line documented

/-- The second log is in a new directory, the last one the first again by a link. Of the events
between, those for the second, without a log and for debugging are kept out of the first. -/
theorem start_after_linked_log :
    let tree : FileTree := { entries := [(["work"], .directory),
      (["work", "a.log"], .file [0x78, 0x0A]), (["work", "link"], .link "a.log")] }
    let e : Event := { name := "e", input := some "a\n\x7b\x7d", fields := [("ts", .str "\n")] }
    let calls : List LogCall :=
      [.configure { log := some ⟨.relative, ["a.log"]⟩ }, .record "1" e,
        .configure { log := some ⟨.relative, ["new", "b.log"]⟩, verbose := true }, .record "2" e,
        .configure {}, .record "3" e,
        .configure { log := some ⟨.relative, ["link"]⟩, logFull := true },
        .record "4" { e with level := .debug }, .record "5" { e with level := .error }]
    let begun := start .standard tree ["work"]
    let noted := begun.notedAt ["work", "a.log"] {} calls
    LogWriter.standard.Documented ∧ (∀ call ∈ calls, call.isOwn) ∧ begun.Configures calls ∧
    noted.map Noted.now = ["1", "5"] ∧ noted.map Noted.recordInput = [false, true] ∧
    ∃ lines : List Text,
      (begun.after calls).tree.content ["work", "a.log"] =
        [0x78, 0x0A] ++ Utf8.encode lines.flatten ∧
      List.Forall₂ Noted.IsLine noted lines := by
  intro tree e calls begun noted
  have own : ∀ call ∈ calls, call.isOwn := by decide
  have configures : begun.Configures calls := by decide +kernel
  exact ⟨LogWriter.standard_documented, own, configures, by decide +kernel, by decide +kernel,
    start_after_content LogWriter.standard_documented tree ["work"] own configures
      ["work", "a.log"]⟩

end Logging

end ShellWords
