import ShellWords.Files.TextFile
import ShellWords.Settings.Parse
import ShellWords.Settings.Search

/-!
Where settings come from: the user's file, the nearest project file at or above a directory, and the
file that the environment names. Those that are regular files are read in this order, and what a
later one sets counts.
-/
namespace ShellWords

/-- Variables by name. -/
abbrev Environment := List (Text × Text)

inductive LoadError
  | unresolvable (e : FileTree.ResolveError)
  | home (fault : HomeFault)
  | unreadable (e : TextFileError)
  | settings (e : SettingsError)
  deriving DecidableEq, Repr

namespace Settings

def variableName : Text := "SHELLSPLIT_CONFIG"

/-- What a search for settings depends on besides the files. -/
structure Surroundings where
  /-- Relative paths are meant from here. -/
  cwd : Location
  /-- What a tilde stands for. -/
  homes : Homes
  userFile : Text
  environment : Environment

/-- The file that the environment names, unless the variable is empty. -/
def variableFile? (around : Surroundings) : Except HomeFault (Option Text) :=
  match around.environment.lookup variableName with
  | none | some [] => .ok none
  | some value => ((Path.ofText value).expandHome around.homes).map fun path => some path.text

/-- The files that may hold settings, the ones that count most last. -/
def candidates (tree : FileTree) (around : Surroundings) (directory : Text) :
    Except LoadError (List Text) := do
  let place ← (tree.resolve around.cwd directory).mapError .unresolvable
  let project ← (projectFile? tree place).mapError fun e => .unreadable (.file e)
  let named ← (variableFile? around).mapError .home
  return around.userFile :: (project.toList ++ named.toList)

def loadFile (tree : FileTree) (around : Surroundings) (path : Text) :
    Except LoadError Settings :=
  match tree.readText around.cwd path with
  | .error e => .error (.unreadable e)
  | .ok t => match parse around.homes t with
    | .ok s => .ok { s with source := some path }
    | .error e => .error (.settings e)

/-- Adds the settings of those of the files that are regular ones, up to the first error. -/
def loadFiles (tree : FileTree) (around : Surroundings) (base : Settings) :
    List Text → Except LoadError Settings
  | [] => .ok base
  | path :: paths =>
    match tree.isFile around.cwd path with
    | .error e => .error (.unreadable (.file e))
    | .ok false => loadFiles tree around base paths
    | .ok true =>
      match loadFile tree around path with
      | .ok overlay => loadFiles tree around (base.merge overlay) paths
      | .error e => .error e

/-- The settings in force for a directory. -/
def load (tree : FileTree) (around : Surroundings) (directory : Text) :
    Except LoadError Settings :=
  match candidates tree around directory with
  | .error e => .error e
  | .ok paths => loadFiles tree around {} paths

end Settings

end ShellWords
