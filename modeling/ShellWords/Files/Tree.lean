import ShellWords.Files.Fault

/-!
A tree of files as a program sees it: regular files, directories and symbolic links, each at a
location that is the list of names from the root. A path is walked name by name from the root or
from the working directory, following links; a walk that meets too many of them gives up. What is
there does not settle everything: the system may refuse to look up, open or create something.
-/
namespace ShellWords

abbrev Location := List Text

/-- The absolute path of a location. -/
def Location.path (place : Location) : Text := (Path.mk .root place).text

inductive Entry
  | file (content : Bytes)
  | directory
  | link (target : Text)
  deriving DecidableEq, Repr

/-- What the system may refuse. -/
inductive Access
  | lookUp
  /-- To open a file for reading, or a directory. -/
  | openRead
  /-- To read from an open file. -/
  | read
  | openAppend
  | create
  deriving DecidableEq, Repr

/-- The entries below the root, which is a directory, and what the system refuses. A later entry
replaces an earlier one. Dot and dot-dot names are looked up as well. -/
structure FileTree where
  entries : List (Location × Entry) := []
  refusal? : Access → Location → Option FileFault := fun _ _ => none

namespace FileTree

def entry? (tree : FileTree) (place : Location) : Option Entry :=
  if place = [] then some .directory else tree.entries.lookup place

def put (tree : FileTree) (place : Location) (entry : Entry) : FileTree :=
  { tree with entries := (place, entry) :: tree.entries.filter fun item => item.1 ≠ place }

/-- Where a walk ends: at an entry that is no link, or at a free place in a directory. -/
inductive Goal
  | present (place : Location) (entry : Entry)
  | absent (place : Location)
  deriving DecidableEq, Repr

/-- What a walk is for. -/
inductive Purpose
  | find
  /-- To make a file where there is none. -/
  | create
  deriving DecidableEq, Repr

/-- How many links a walk follows. -/
def linkLimit : Nat := 40

/-- How many bytes a name may have. -/
def nameLimit : Nat := 255

/-- How many bytes a path has at least that is too long. -/
def pathLimit : Nat := 4096

/-- Where a link in a directory points to begin with. -/
def linkStart (directory : Location) (target : Text) : Location :=
  if (Path.ofText target).isAbsolute then [] else directory

/-- What keeps a name from being looked up in a directory, with what comes after it in the path. A
slash behind the last name is for directories, and these are not made on the way. -/
def obstacle? (tree : FileTree) (purpose : Purpose) (directory : Location) (name : Text)
    (after : List Text) : Option FileFault :=
  match tree.refusal? .lookUp (directory ++ [name]) with
  | some fault => some fault
  | none =>
    if purpose = .create ∧ after ≠ [] ∧ after.all List.isEmpty then some .isDirectory
    else if nameLimit < name.size then some .nameTooLong
    else none

/-- What a name does for a walk: it ends it, leads into a directory, or is a link. -/
inductive Move
  | done (goal : Goal)
  | into (directory : Location)
  | along (target : Text)
  deriving DecidableEq, Repr

/-- One name of a walk. An empty one stands before or behind a slash and is not looked up. -/
def move (tree : FileTree) (purpose : Purpose) (directory : Location) (name : Text)
    (after : List Text) : Except FileFault Move :=
  if name = [] then .ok (.into directory)
  else match tree.obstacle? purpose directory name after with
    | some fault => .error fault
    | none =>
      if name = ['.'] then .ok (.into directory)
      else if name = ['.', '.'] then .ok (.into directory.dropLast)
      else
        let place := directory ++ [name]
        match tree.entry? place with
        | none => if after = [] then .ok (.done (.absent place)) else .error .missing
        | some (.file content) =>
          if after = [] then .ok (.done (.present place (.file content)))
          else .error .notDirectory
        | some .directory => .ok (.into place)
        | some (.link target) => .ok (.along target)

/-- One walk between two links; `enter` walks on from where a link points. -/
def walkWith (tree : FileTree) (purpose : Purpose)
    (enter : Location → List Text → Except FileFault Goal) (directory : Location) :
    List Text → Except FileFault Goal
  | [] => .ok (.present directory .directory)
  | name :: after =>
    match tree.move purpose directory name after with
    | .error fault => .error fault
    | .ok (.done goal) => .ok goal
    | .ok (.into directory) => tree.walkWith purpose enter directory after
    | .ok (.along target) => enter (linkStart directory target) (Path.components target ++ after)

def walkFrom (tree : FileTree) (purpose : Purpose) :
    Nat → Location → List Text → Except FileFault Goal
  | 0 => tree.walkWith purpose fun _ _ => .error .tooManyLinks
  | links + 1 => tree.walkWith purpose (tree.walkFrom purpose links)

/-- Where walks of a path begin. -/
def start (cwd : Location) (path : Text) : Location :=
  if (Path.ofText path).isAbsolute then [] else cwd

/-- Why a path is not even walked. -/
def pathFault? (path : Text) : Option FileFault :=
  if path.contains '\x00' then some .nulCharacter
  else if path.isEmpty then some .missing
  else if pathLimit ≤ path.size then some .nameTooLong
  else none

def walk (tree : FileTree) (purpose : Purpose) (cwd : Location) (path : Text) :
    Except FileFault Goal :=
  match pathFault? path with
  | some fault => .error fault
  | none => tree.walkFrom purpose linkLimit (start cwd path) (Path.components path)

/-- Whether a path leads to something. -/
def holds (tree : FileTree) (cwd : Location) (path : Text) : Bool :=
  match tree.walk .find cwd path with
  | .ok (.present _ _) => true
  | _ => false

/-- What a path leads to, unless there is nothing. Only some faults mean that. -/
def target? (tree : FileTree) (cwd : Location) (path : Text) : Except FileError (Option Entry) :=
  match tree.walk .find cwd path with
  | .ok (.present _ entry) => .ok (some entry)
  | .ok (.absent _) => .ok none
  | .error fault => if fault.meansAbsent then .ok none else .error ⟨fault, path⟩

def isFile (tree : FileTree) (cwd : Location) (path : Text) : Except FileError Bool :=
  (tree.target? cwd path).map fun
    | some (.file _) => true
    | _ => false

def isDirectory (tree : FileTree) (cwd : Location) (path : Text) : Except FileError Bool :=
  (tree.target? cwd path).map fun entry => entry = some .directory

def read (tree : FileTree) (cwd : Location) (path : Text) : Except FileError Bytes :=
  match tree.walk .find cwd path with
  | .error fault => .error ⟨fault, path⟩
  | .ok (.absent _) => .error ⟨.missing, path⟩
  | .ok (.present place entry) =>
    match tree.refusal? .openRead place, entry, tree.refusal? .read place with
    | some fault, _, _ => .error ⟨fault, path⟩
    | none, .file content, none => .ok content
    -- By then it is an open file that is at fault, and no path.
    | none, .file _, some fault => .error ⟨fault, none⟩
    | none, .directory, _ | none, .link _, _ => .error ⟨.isDirectory, path⟩

/-- Opens a file for appending, creating it at a free place. -/
def openAppend (tree : FileTree) (cwd : Location) (path : Text) :
    Except FileError (Location × FileTree) :=
  match tree.walk .create cwd path with
  | .error fault => .error ⟨fault, path⟩
  | .ok (.present place (.file _)) =>
    match tree.refusal? .openAppend place with
    | some fault => .error ⟨fault, path⟩
    | none => .ok (place, tree)
  | .ok (.present _ _) => .error ⟨.isDirectory, path⟩
  | .ok (.absent place) =>
    match tree.refusal? .create place with
    | some fault => .error ⟨fault, path⟩
    | none => .ok (place, tree.put place (.file []))

/-- Appends to a file that is open, which never fails. -/
def append (tree : FileTree) (place : Location) (more : Bytes) : FileTree :=
  match tree.entry? place with
  | some (.file content) => tree.put place (.file (content ++ more))
  | _ => tree

/-- Makes one directory. A link in its place counts as something there, wherever it points. -/
def makeDirectory (tree : FileTree) (cwd : Location) (p : Path) : Except FileError FileTree :=
  let failed (fault : FileFault) : Except FileError FileTree := .error ⟨fault, p.text⟩
  match pathFault? p.text, p.names.getLast? with
  | some fault, _ => failed fault
  | none, none => failed .alreadyExists
  | none, some name =>
    match tree.walk .find cwd p.parent.text with
    | .error fault => failed fault
    | .ok (.absent _) => failed .missing
    | .ok (.present _ (.file _)) | .ok (.present _ (.link _)) => failed .notDirectory
    | .ok (.present directory .directory) =>
      match tree.obstacle? .find directory name [] with
      | some fault => failed fault
      | none =>
        let place := directory ++ [name]
        -- Above a directory there is always another one, or the root itself.
        if name = ['.', '.'] then failed .alreadyExists
        else match tree.entry? place, tree.refusal? .create place with
          | some _, _ => failed .alreadyExists
          | none, some fault => failed fault
          | none, none => .ok (tree.put place .directory)

/-- The tree after an attempt, and what went wrong. -/
abbrev Attempt := FileTree × Option FileError

/-- A directory that is there already is as good as a new one. -/
def settleDirectory (tree : FileTree) (cwd : Location) (p : Path) : Attempt :=
  match tree.makeDirectory cwd p with
  | .ok tree => (tree, none)
  | .error e =>
    if e.fault = .missing ∨ e.fault = .nulCharacter then (tree, some e)
    else match tree.isDirectory cwd p.text with
      | .ok true => (tree, none)
      | .ok false => (tree, some e)
      | .error e => (tree, some e)

/-- Makes a directory and what is missing above it. The names are given last one first. -/
def makeDirectoriesFrom (tree : FileTree) (cwd : Location) (anchor : Anchor) : List Text → Attempt
  | [] => tree.settleDirectory cwd ⟨anchor, []⟩
  | name :: above =>
    let p : Path := ⟨anchor, (name :: above).reverse⟩
    match tree.settleDirectory cwd p with
    -- What is missing above is made first, and then the directory is tried once more.
    | (_, some ⟨.missing, _⟩) =>
      match tree.makeDirectoriesFrom cwd anchor above with
      | (tree, none) => tree.settleDirectory cwd p
      | failed => failed
    | attempt => attempt

def makeDirectories (tree : FileTree) (cwd : Location) (p : Path) : Attempt :=
  tree.makeDirectoriesFrom cwd p.anchor p.names.reverse

/-- Whether nothing keeps the names down to a location from being looked up. -/
def isVisible (tree : FileTree) (place : Location) : Bool :=
  (List.range place.length).all fun n =>
    (tree.obstacle? .find (place.take n) (place.getD n []) []).isNone

/-- The entry at a location, as far as the system shows it. -/
def shown? (tree : FileTree) (place : Location) : Option Entry :=
  if pathLimit ≤ place.path.size ∨ ¬ tree.isVisible place then none else tree.entry? place

/-- How far the resolving of names has come: to a location, or to a link that leads back to itself,
behind which the names are taken as they are. -/
inductive Resolved
  | place (place : Location)
  | stuck (place : Location)

/-- One stretch of resolving. A name that is no link is taken as it is, even if nothing is there. A
link is resolved on its own before the names after it. -/
def resolveWith (tree : FileTree)
    (follow : Location → Location → List Text → Except FileFault Resolved)
    (directory : Location) : List Text → Except FileFault Resolved
  | [] => .ok (.place directory)
  | name :: names =>
    if name = ['.', '.'] then tree.resolveWith follow directory.dropLast names
    else if name.contains '\x00' then .error .nulCharacter
    else
      let place := directory ++ [name]
      match tree.shown? place with
      | some (.link target) =>
        match follow place (linkStart directory target) (Path.namesOf target) with
        | .ok (.place directory) => tree.resolveWith follow directory names
        | .ok (.stuck place) => .ok (.stuck (place ++ names))
        | .error fault => .error fault
      | _ => tree.resolveWith follow place names

/-- Resolves the target of a link, given the links that are being resolved already. The fuel is the
number of links that are not. -/
def followLink (tree : FileTree) : Nat → List Location → Location → Location → List Text →
    Except FileFault Resolved
  | 0, _, place, _, _ => .ok (.stuck place)
  | fuel + 1, active, place, start, names =>
    if active.contains place then .ok (.stuck place)
    else tree.resolveWith (tree.followLink fuel (place :: active)) start names

/-- Why a path cannot be resolved. -/
inductive ResolveError
  /-- A link leads back to itself. -/
  | linkLoop (path : Text)
  | nulCharacter
  deriving DecidableEq, Repr

def ResolveError.message : ResolveError → Text
  | linkLoop path => "Symlink loop from " ++ Text.literal path
  | nulCharacter => FileFault.nulCharacter.text

/-- A location without its dot-dot names, each taken away with the name before it, whether that is a
link or not. -/
def collapse (place : Location) : Location :=
  place.foldl (fun done name => if name = ['.', '.'] then done.dropLast else done ++ [name]) []

/-- A location that has been found is looked at once more, for links that lead back to themselves.
Other faults do not matter. -/
def settle (tree : FileTree) (place : Location) : Except ResolveError Location :=
  match tree.walk .find [] place.path with
  | .error .tooManyLinks => .error (.linkLoop place.path)
  | .error .nulCharacter => .error .nulCharacter
  | _ => .ok place

/-- The location that a path means once its links are followed, whether or not it leads anywhere. -/
def resolve (tree : FileTree) (cwd : Location) (path : Text) : Except ResolveError Location :=
  let follow := tree.followLink (tree.entries.length + 1) []
  match tree.resolveWith follow (start cwd path) (Path.namesOf path) with
  | .ok (.place place) => tree.settle place
  | .ok (.stuck place) => tree.settle (collapse place)
  | .error _ => .error .nulCharacter

end FileTree

end ShellWords
