import Mathlib.Data.List.Induction
import ShellWords.Program.Logging

/-!
# Logging over a run

A program may configure its log time and again, and log events in between, while the files and its
working directory change. To configure is to close the old file first. If the new one cannot be
opened, a logger that was set before stays set, without a file: it is stranded. Every configuration
settles this anew (`step_configure_consistent_iff`) and nothing else changes it
(`step_other_consistent_iff`), so a run leaves a stranded logger exactly if its last configuration
failed while a logger was set (`start_after_consistent_iff`).
-/
namespace ShellWords

namespace Logging

/-- The line of an event is added at a place. -/
def appended (l : Logging) (place : Location) (now : Text) (e : Event) : Logging :=
  { l with
    tree := l.tree.append place (Utf8.encode (EventLog.line l.writer l.log.recordInput now e)) }

/-- An event of this level is written. -/
def passes (l : Logging) (level : Level) : Bool := l.log.passes l.writer level

/-- A logger is set exactly if a file is open. -/
def Consistent (l : Logging) : Prop := l.log.isEnabled = l.log.isOpen

instance (l : Logging) : Decidable l.Consistent :=
  inferInstanceAs (Decidable (l.log.isEnabled = l.log.isOpen))

/-- These settings fail while a logger is set, which is then left without a file. -/
def Strands (l : Logging) (s : Settings) : Prop :=
  l.log.isEnabled ∧ (l.log.configure l.tree l.cwd s).failure.isSome

/-- The last configuration of all fails while a logger is set. -/
def EndsStranded (l : Logging) (calls : List LogCall) : Prop :=
  ∃ before s rest, calls = before ++ .configure s :: rest ∧
    (∀ call ∈ rest, ¬ call.isConfigure) ∧ (l.after before).Strands s

end Logging

/-! ### One call -/

/-- Configuring takes the logger away, sets it with a file, or fails and takes only the file. -/
private theorem EventLog.configure_cases (log : EventLog) (tree : FileTree) (cwd : Location)
    (s : Settings) :
    (s.log = none ∧ log.configure tree cwd s = ⟨{}, tree, none⟩) ∨
    (∃ place tree', log.configure tree cwd s =
      ⟨⟨some place, some (if s.verbose then .debug else .info), s.logFull⟩, tree', none⟩) ∨
    ∃ tree' e, log.configure tree cwd s = ⟨{ log with file := none }, tree', some e⟩ := by
  cases path : s.log with
  | none => exact .inl ⟨rfl, by rw [configure, path]⟩
  | some path' =>
    right
    rcases made : tree.makeDirectories cwd path'.parent with ⟨tree', _ | e⟩
    · cases opened : tree'.openAppend cwd path'.text with
      | error e => exact .inr ⟨tree', e, by simp [configure, path, made, opened]⟩
      | ok opening => exact .inl ⟨opening.1, opening.2, by simp [configure, path, made, opened]⟩
    · exact .inr ⟨tree', e, by simp [configure, path, made]⟩

theorem EventLog.isEnabled_of_passes {log : EventLog} {writer : LogWriter} {level : Level}
    (passes : log.passes writer level) : log.isEnabled := by
  rw [EventLog.passes, Option.any_eq_true] at passes
  obtain ⟨least, set, -⟩ := passes
  simp [isEnabled, set]

namespace Logging

variable {l : Logging}

/-- Whatever the log was before, configuring it leaves it consistent or strands it. -/
theorem step_configure_consistent_iff (s : Settings) :
    (l.step (.configure s)).1.Consistent ↔ ¬ l.Strands s := by
  -- Only an attempt that fails can leave a logger and a file apart.
  rcases l.log.configure_cases l.tree l.cwd s with
    ⟨-, off⟩ | ⟨place, tree', opened⟩ | ⟨tree', e, failed⟩
  · simp [step, Strands, off, Consistent, EventLog.isEnabled, EventLog.isOpen]
  · simp [step, Strands, opened, Consistent, EventLog.isEnabled, EventLog.isOpen]
  · simp [step, Strands, failed, Consistent, EventLog.isEnabled, EventLog.isOpen]

/-- No other call touches the log. -/
theorem step_other_consistent_iff {call : LogCall} (other : ¬ call.isConfigure) :
    (l.step call).1.Consistent ↔ l.Consistent := by
  cases call with
  | configure s => exact absurd rfl other
  | record now e =>
    rw [step]
    split <;> rfl
  | meanwhile tree cwd => rfl

/-- An event that does not pass does nothing. One that passes is added to the open file, or finds a
logger without one. -/
theorem step_record_cases (l : Logging) (now : Text) (e : Event) :
    (¬ l.passes e.level ∧ l.step (.record now e) = (l, none)) ∨
    (l.passes e.level ∧ l.Consistent ∧ ∃ place, l.log.file = some place ∧
      l.step (.record now e) = (l.appended place now e, none)) ∨
    (l.passes e.level ∧ ¬ l.Consistent ∧
      l.step (.record now e) = (l, some (.logClosed {}))) := by
  by_cases passes : l.passes e.level
  · right
    have enabled := EventLog.isEnabled_of_passes passes
    cases file : l.log.file with
    | some place =>
      refine .inl ⟨passes, ?_, place, rfl, ?_⟩
      · simp [Consistent, enabled, EventLog.isOpen, file]
      · rw [Logging.passes] at passes
        simp [step, EventLog.record, passes, file, appended]
    | none =>
      refine .inr ⟨passes, ?_, ?_⟩
      · simp [Consistent, enabled, EventLog.isOpen, file]
      · rw [Logging.passes] at passes
        simp [step, EventLog.record, passes, file]
  · refine .inl ⟨passes, ?_⟩
    rw [Logging.passes] at passes
    simp [step, EventLog.record, passes]

/-! ### Many calls -/

theorem after_append (l : Logging) (calls : List LogCall) (call : LogCall) :
    l.after (calls ++ [call]) = ((l.after calls).step call).1 := by
  simp [after]

/-- A configuration settles how a run ends; any other call leaves that as it is. -/
private theorem endsStranded_append (calls : List LogCall) (call : LogCall) :
    l.EndsStranded (calls ++ [call]) ↔
      (∃ s, call = .configure s ∧ (l.after calls).Strands s) ∨
      ¬ call.isConfigure ∧ l.EndsStranded calls := by
  constructor
  · rintro ⟨before, s, rest, split, others, strands⟩
    rcases List.eq_nil_or_concat rest with rfl | ⟨rest, last, rfl⟩
    · -- The configuration is the last call of all.
      obtain ⟨rfl, same⟩ := List.append_inj' split rfl
      exact .inl ⟨s, List.head_eq_of_cons_eq same, strands⟩
    · rw [List.concat_eq_append, List.forall_mem_append] at others
      rw [List.concat_eq_append, ← List.cons_append, ← List.append_assoc] at split
      obtain ⟨rfl, same⟩ := List.append_inj' split rfl
      cases same
      exact .inr ⟨others.2 _ List.mem_cons_self, before, s, rest, rfl, others.1, strands⟩
  · rintro (⟨s, rfl, strands⟩ | ⟨other, before, s, rest, rfl, others, strands⟩)
    · exact ⟨calls, s, [], rfl, List.forall_mem_nil _, strands⟩
    · refine ⟨before, s, rest ++ [call], List.append_assoc .., ?_, strands⟩
      exact List.forall_mem_append.mpr ⟨others, List.forall_mem_singleton.mpr other⟩

/-- A run from a consistent log ends with a consistent one unless it ends stranded. -/
theorem after_consistent_iff (consistent : l.Consistent) (calls : List LogCall) :
    (l.after calls).Consistent ↔ ¬ l.EndsStranded calls := by
  -- From the end of the run: the last call decides, unless it configures nothing.
  induction calls using List.reverseRecOn with
  | nil => exact iff_of_true consistent (by simp [EndsStranded])
  | append_singleton calls call ih =>
    rw [after_append, endsStranded_append]
    cases call with
    | configure s => simp [step_configure_consistent_iff, LogCall.isConfigure]
    | record | meanwhile => simp [step_other_consistent_iff, ih, LogCall.isConfigure]

/-- From the start on, a logger is set exactly if a file is open, unless the last configuration
failed while a logger was set. An event that passes is added to the open file, and fails where there
is a logger without one; any other event does nothing. -/
theorem start_after_consistent_iff (writer : LogWriter) (tree : FileTree) (cwd : Location)
    (calls : List LogCall) {ended : Logging} (ends : (start writer tree cwd).after calls = ended) :
    (ended.Consistent ↔ ¬ (start writer tree cwd).EndsStranded calls) ∧
    ∀ now e,
      (¬ ended.passes e.level ∧ ended.step (.record now e) = (ended, none)) ∨
      (ended.passes e.level ∧ ¬ (start writer tree cwd).EndsStranded calls ∧
        ∃ place, ended.log.file = some place ∧
          ended.step (.record now e) = (ended.appended place now e, none)) ∨
      (ended.passes e.level ∧ (start writer tree cwd).EndsStranded calls ∧
        ended.step (.record now e) = (ended, some (.logClosed {}))) := by
  have unset : (start writer tree cwd).Consistent := rfl
  have consistent := after_consistent_iff unset calls
  rw [ends] at consistent
  refine ⟨consistent, fun now e => ?_⟩
  rw [← consistent, ← not_iff_comm.mp consistent.symm]
  exact ended.step_record_cases now e

/-- The first log is open when the second one asks for a directory where there is a file. Its logger
stays set, without a file for the next event. -/
theorem start_after_blocked_directory :
    let tree : FileTree :=
      { entries := [(["work"], .directory), (["work", "f"], .file [0x78])] }
    let calls : List LogCall :=
      [.configure { log := some ⟨.relative, ["a.log"]⟩ },
        .configure { log := some ⟨.relative, ["f", "b.log"]⟩ }]
    let ended := (start .standard tree ["work"]).after calls
    ¬ ended.Consistent ∧
      (ended.step (.record "now" { name := "e" })).2 = some (.logClosed {}) := by
  decide +kernel

/-- A third log, which can be opened, puts that right. -/
theorem start_after_third_log :
    let tree : FileTree :=
      { entries := [(["work"], .directory), (["work", "f"], .file [0x78])] }
    let calls : List LogCall :=
      [.configure { log := some ⟨.relative, ["a.log"]⟩ },
        .configure { log := some ⟨.relative, ["f", "b.log"]⟩ },
        .configure { log := some ⟨.relative, ["c.log"]⟩ }]
    ¬ (start .standard tree ["work"]).EndsStranded calls := by
  intro tree calls
  have reached := start_after_consistent_iff .standard tree ["work"] calls rfl
  exact reached.1.mp (by decide +kernel)

end Logging

end ShellWords
