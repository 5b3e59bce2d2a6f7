import ShellWords.EventLog.Writer
import ShellWords.Files.Tree
import ShellWords.Settings.Basic
import ShellWords.Text.Decoding

/-!
The event log: one JSON line for each event, appended to the configured file. Configuring closes the
old file before the new one is opened, so a configuration that fails leaves the old logger without a
file to write to; the next event that it does not filter out is then an error.
-/
namespace ShellWords

/-- The state of logging in a running program. -/
structure EventLog where
  /-- The file that is open. -/
  file : Option Location := none
  /-- The least level that is written, if a logger is set. -/
  threshold : Option Level := none
  recordInput : Bool := false
  deriving DecidableEq, Repr

/-- An event for a log whose file has been closed. -/
structure LogClosed where
  deriving DecidableEq, Repr

def LogClosed.message (_ : LogClosed) : Text := "I/O operation on closed file."

structure Event where
  name : Text
  level : Level := .info
  /-- The text that the event is about. -/
  input : Option Text := none
  fields : List (Text × Json) := []

namespace EventLog

def isOpen (log : EventLog) : Bool := log.file.isSome

def isEnabled (log : EventLog) : Bool := log.threshold.isSome

/-- What an attempt to configure leaves. -/
structure Configured where
  log : EventLog
  tree : FileTree
  failure : Option FileError

/-- Closes the open file and opens the one of the settings, making the directories above it. -/
def configure (log : EventLog) (tree : FileTree) (cwd : Location) (s : Settings) : Configured :=
  match s.log with
  | none => ⟨{}, tree, none⟩
  | some path =>
    match tree.makeDirectories cwd path.parent with
    | (tree, some e) => ⟨{ log with file := none }, tree, some e⟩
    | (tree, none) =>
      match tree.openAppend cwd path.text with
      | .error e => ⟨{ log with file := none }, tree, some e⟩
      | .ok (place, tree) =>
        ⟨⟨some place, some (if s.verbose then .debug else .info), s.logFull⟩, tree, none⟩

/-- Whether an event of this level is written. -/
def passes (log : EventLog) (writer : LogWriter) (level : Level) : Bool :=
  log.threshold.any fun least => writer.passes least level

/-- The fields of an event, with its input if that is recorded. -/
def fieldsOf (recordInput : Bool) (e : Event) : List (Text × Json) :=
  match recordInput, e.input with
  | true, some t => Json.set e.fields "input" (.str t)
  | _, _ => e.fields

def line (writer : LogWriter) (recordInput : Bool) (now : Text) (e : Event) : Text :=
  writer.line now e.level e.name (fieldsOf recordInput e)

/-- Writes an event that passes; the files afterwards. -/
def record (log : EventLog) (writer : LogWriter) (tree : FileTree) (now : Text) (e : Event) :
    Except LogClosed FileTree :=
  if !log.passes writer e.level then .ok tree
  else match log.file with
    | none => .error {}
    | some place =>
      .ok (tree.append place (Utf8.encode (line writer log.recordInput now e)))

end EventLog

end ShellWords
