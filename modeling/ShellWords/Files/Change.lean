import ShellWords.Files.Tree

/-!
What a program has done to a tree of files. Programs here only make directories and files and append
to files, so a list of such steps says it all.
-/
namespace ShellWords

inductive Change
  | makeDirectory (path : Text)
  | append (path : Text) (more : Bytes)
  deriving DecidableEq, Repr

namespace FileTree

/-- The directories down to a location, and the location itself, added to a tree. -/
def withDirectories (tree : FileTree) (place : Location) : FileTree :=
  let step (state : Location × FileTree) (name : Text) : Location × FileTree :=
    let here := state.1 ++ [name]
    (here, state.2.put here .directory)
  (place.foldl step ([], tree)).2

/-- How one entry came to be what it is, if it has changed. -/
def changeAt (before : FileTree) (place : Location) (entry : Entry) : Option Change :=
  match entry, before.entry? place with
  | .directory, none => some (.makeDirectory place.path)
  | .file content, none => some (.append place.path content)
  | .file content, some (.file old) =>
    if content = old then none else some (.append place.path (content.drop old.length))
  | _, _ => none

/-- The steps from one tree to a later one, oldest first. -/
def changes (before after : FileTree) : List Change :=
  after.entries.reverse.filterMap fun item => before.changeAt item.1 item.2

end FileTree

end ShellWords
