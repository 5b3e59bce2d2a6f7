import ShellWords.Program.Run

/-!
The paths that a run may look at. Only the files at these paths have to be known to carry it out.
Where the log and the catalogs are is said in the settings, so what is in reach grows once the
settings files are known.
-/
namespace ShellWords

namespace Location

/-- A location and all those above it. The names are given last one first. -/
def upwards : List Text → List Location
  | [] => [[]]
  | name :: above => (name :: above).reverse :: upwards above

end Location

namespace World

/-- The places of settings files, whether or not there is one. -/
def settingsPaths (w : World) : List Text :=
  let around := w.surroundings
  let projectFiles := (Location.upwards w.cwd.reverse).map Settings.projectFileIn
  let named := match Settings.variableFile? around with
    | .ok path => path
    | .error _ => none
  around.userFile :: (projectFiles ++ named.toList)

/-- The places of catalogs, whether or not there is one. -/
def catalogPaths (w : World) (s : Settings) : List Text :=
  let directory := w.catalogDirectory s
  (Locale.wanted (Locale.languages (w.environment.lookup ·))).map
    (Catalog.filePath directory · domain)

def kernelPaths (w : World) : Command → List Text
  | .kernelLine _ true => [w.kernelLineFile]
  | .uuid => [w.uuidFile]
  | _ => []

/-- The places that a run with these arguments may look at, as far as the known files tell. -/
def reach (w : World) (arguments : List Text) : List Text :=
  match Command.ofArguments arguments with
  | .error _ => []
  | .ok command =>
    w.settingsPaths ++ match w.settings with
      | .error _ => []
      | .ok s => (s.log.map Path.text).toList ++ w.catalogPaths s ++ w.kernelPaths command

/-- Whether a run with these arguments may need the standard input. -/
def readsInput (arguments : List Text) : Bool :=
  match Command.ofArguments arguments with
  | .ok (.split none) | .ok (.tokens none) | .ok (.kernelLine none false) => true
  | _ => false

end World

end ShellWords
