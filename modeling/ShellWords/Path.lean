import ShellWords.Text.Basic

/-!
Paths as they are written. Empty and dot names are dropped on reading; a dot-dot name is kept, for
what it means depends on links. Two leading slashes differ from one, three or more do not.
-/
namespace ShellWords

inductive Anchor
  | relative
  | root
  | doubleRoot
  deriving DecidableEq, Repr

structure Path where
  anchor : Anchor := .relative
  names : List Text := []
  deriving DecidableEq, Repr

def Anchor.text : Anchor → Text
  | relative => []
  | root => ['/']
  | doubleRoot => ['/', '/']

namespace Path

def anchorOf (t : Text) : Anchor :=
  match (t.takeWhile (· = '/')).length with
  | 0 => .relative
  | 2 => .doubleRoot
  | _ => .root

/-- What stands between the slashes of a text, before the first and behind the last. -/
def components (t : Text) : List Text := t.splitOn '/'

/-- The names of a text of slashes and names. -/
def namesOf (t : Text) : List Text := (components t).filter fun name => name ≠ [] ∧ name ≠ ['.']

def ofText (t : Text) : Path := ⟨anchorOf t, namesOf t⟩

def text (p : Path) : Text :=
  if p = {} then ['.'] else p.anchor.text ++ List.intercalate ['/'] p.names

def isAbsolute (p : Path) : Bool := p.anchor ≠ .relative

/-- The path without its last name; one without names is its own parent. -/
def parent (p : Path) : Path := { p with names := p.names.dropLast }

def child (p : Path) (name : Text) : Path := { p with names := p.names ++ [name] }

end Path

/-- What is known about home directories: a variable names that of the user, and a database of users
those of everyone. -/
structure Homes where
  named? : Option Text := none
  /-- The home of the user in the database. -/
  own? : Option Text := none
  ofUser? : Text → Option Text := fun _ => none

inductive HomeFault
  | unknown
  /-- The database takes no name with a zero character in it. -/
  | nulCharacter
  deriving DecidableEq, Repr

def HomeFault.message : HomeFault → Text
  | unknown => "Could not determine home directory."
  | nulCharacter => "embedded null byte"

namespace Homes

/-- The home that a tilde stands for, with the name of a user after it or without one. -/
def find (homes : Homes) (user : Text) : Except HomeFault Text :=
  if user.contains '\x00' then .error .nulCharacter
  else
    match if user.isEmpty then homes.named? <|> homes.own? else homes.ofUser? user with
    | some home => .ok home
    | none => .error .unknown

end Homes

namespace Path

/-- The directory that a home text names; slashes at its end do not count. -/
def ofHome (home : Text) : Except HomeFault Path :=
  match (home.reverse.dropWhile (· = '/')).reverse with
  | [] => .ok ⟨.root, []⟩
  | '~' :: _ => .error .unknown
  | t => .ok (ofText t)

/-- A relative path may begin with a tilde, and perhaps the name of a user, for a home directory. -/
def expandHome (homes : Homes) (p : Path) : Except HomeFault Path :=
  match p with
  | ⟨.relative, ('~' :: user) :: names⟩ =>
    match homes.find user with
    | .error fault => .error fault
    | .ok home =>
      (ofHome home).map fun directory => { directory with names := directory.names ++ names }
  | _ => .ok p

end Path

end ShellWords
