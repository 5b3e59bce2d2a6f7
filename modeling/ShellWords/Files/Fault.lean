import ShellWords.Path
import ShellWords.Text.Literal

/-!
What can go wrong with a path. Some faults follow from what is there; others are up to the system,
such as a lack of permission, and are known by a number and a text.
-/
namespace ShellWords

/-- The numbers of the faults that have a name of their own. -/
def namedFaultNumbers : List Nat := [2, 17, 20, 21, 36, 40]

/-- Why an operation on a path fails. -/
inductive FileFault
  | missing
  | alreadyExists
  | notDirectory
  | isDirectory
  | nameTooLong
  | tooManyLinks
  /-- A path with a zero character in it never gets to the system. -/
  | nulCharacter
  | other (number : Nat) (text : Text) (unnamed : number ∉ namedFaultNumbers)
  deriving DecidableEq, Repr

namespace FileFault

/-- The number that the system has for a fault. -/
def number? : FileFault → Option Nat
  | missing => some 2
  | alreadyExists => some 17
  | notDirectory => some 20
  | isDirectory => some 21
  | nameTooLong => some 36
  | tooManyLinks => some 40
  | nulCharacter => none
  | other number _ _ => some number

def text : FileFault → Text
  | missing => "No such file or directory"
  | alreadyExists => "File exists"
  | notDirectory => "Not a directory"
  | isDirectory => "Is a directory"
  | nameTooLong => "File name too long"
  | tooManyLinks => "Too many levels of symbolic links"
  | nulCharacter => "embedded null byte"
  | other _ text _ => text

/-- The fault that the system means by a number. -/
def ofNumber (number : Nat) (text : Text) : FileFault :=
  if unnamed : number ∉ namedFaultNumbers then other number text unnamed
  else match number with
    | 2 => missing
    | 17 => alreadyExists
    | 20 => notDirectory
    | 21 => isDirectory
    | 36 => nameTooLong
    | _ => tooManyLinks

/-- Whether a path with such a fault is taken to lead nowhere. The number is that of a descriptor
which is not open. -/
def meansAbsent : FileFault → Bool
  | missing | notDirectory | tooManyLinks | nulCharacter => true
  | other number _ _ => number = 9
  | alreadyExists | isDirectory | nameTooLong => false

end FileFault

/-- A fault, and the path as it was given if the operation was given one. -/
structure FileError where
  fault : FileFault
  path : Option Text
  deriving DecidableEq, Repr

namespace FileError

def message (e : FileError) : Text :=
  match e.fault.number?, e.path with
  | none, _ => e.fault.text
  | some number, none => "[Errno " ++ Text.ofNat number ++ "] " ++ e.fault.text
  | some number, some path =>
    "[Errno " ++ Text.ofNat number ++ "] " ++ e.fault.text ++ ": " ++ Text.literal path

end FileError

end ShellWords
