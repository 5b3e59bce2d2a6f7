import ShellWords.Files.Tree

/-!
The search for the settings file of a project: the nearest one on the way up from a directory to the
root. A file that the system does not let be looked at ends the search with an error.
-/
namespace ShellWords.Settings

def projectFileName : Text := ".shellsplit"

/-- The file of a project in a directory, whether or not there is one. -/
def projectFileIn (directory : Location) : Text := Location.path (directory ++ [projectFileName])

/-- The nearest project file on the way up. The names of the directory are given last one first. -/
def projectFileAbove (tree : FileTree) : List Text → Except FileError (Option Text)
  | [] =>
    (tree.isFile [] (projectFileIn [])).map fun found =>
      if found then some (projectFileIn []) else none
  | name :: above =>
    let candidate := projectFileIn (name :: above).reverse
    match tree.isFile [] candidate with
    | .ok true => .ok (some candidate)
    | .ok false => projectFileAbove tree above
    | .error e => .error e

def projectFile? (tree : FileTree) (directory : Location) : Except FileError (Option Text) :=
  projectFileAbove tree directory.reverse

/-! The same search round by round. -/

/-- How far a search for a project file has come. -/
inductive Search
  | looking (directory : Path)
  | ended (found : Except FileError (Option Text))

/-- One round: a search ends at a project file, at an error, or at a directory that is its own
parent. -/
def Search.step (tree : FileTree) : Search → Search
  | looking directory =>
    let candidate := (directory.child projectFileName).text
    match tree.isFile [] candidate with
    | .ok true => ended (.ok (some candidate))
    | .ok false =>
      if directory.parent = directory then ended (.ok none) else looking directory.parent
    | .error e => ended (.error e)
  | ended found => ended found

end ShellWords.Settings
