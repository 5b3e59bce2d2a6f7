import ShellWords.Program.Failure

/-!
The log of a running program, from call to call. It may be configured time and again, and events be
logged in between, while the files and the working directory change.
-/
namespace ShellWords

/-- The log of a running program, and what the program finds around it. -/
structure Logging where
  writer : LogWriter
  log : EventLog := {}
  tree : FileTree
  cwd : Location

/-- What may happen to a log. Between its calls other programs may change the files, and the program
itself its working directory. -/
inductive LogCall
  | configure (s : Settings)
  | record (now : Text) (e : Event)
  | meanwhile (tree : FileTree) (cwd : Location)

def LogCall.isConfigure : LogCall → Bool
  | configure _ => true
  | record _ _ | meanwhile _ _ => false

namespace Logging

/-- A program that has not configured its log. -/
def start (writer : LogWriter) (tree : FileTree) (cwd : Location) : Logging := { writer, tree, cwd }

/-- What a call leaves, and how it fails if it does. -/
def step (l : Logging) : LogCall → Logging × Option Failure
  | .configure s =>
    let configured := l.log.configure l.tree l.cwd s
    ({ l with log := configured.log, tree := configured.tree }, configured.failure.map .file)
  | .record now e =>
    match l.log.record l.writer l.tree now e with
    | .ok tree => ({ l with tree }, none)
    | .error e => (l, some (.logClosed e))
  | .meanwhile tree cwd => ({ l with tree, cwd }, none)

def after (l : Logging) (calls : List LogCall) : Logging :=
  calls.foldl (fun l call => (l.step call).1) l

end Logging

end ShellWords
