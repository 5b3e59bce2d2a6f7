import ShellWords.Files.Change
import ShellWords.Program.Reach
import Std.Time.DateTime

/-!
The command line. What a run needs to know is collected first, the run itself is a function, and
what it did is carried out afterwards.
-/
namespace ShellWords.CommandLine

def pathOf (place : Location) : String := String.ofList place.path

/-- The fault that an error stands for. Some numbers are given as negative ones. -/
def faultOf (number : UInt32) (about : String) : FileFault :=
  let number := number.toNat
  .ofNumber (if number < 0x80000000 then number else 0x100000000 - number) about.capitalize.toList

/-- The fault that keeps a file from being read. -/
def readFault : IO.Error → FileFault
  | .alreadyExists _ number about | .otherError number about | .resourceBusy number about
  | .resourceVanished number about | .unsupportedOperation number about
  | .hardwareFault number about | .unsatisfiedConstraints number about
  | .illegalOperation number about | .protocolError number about | .timeExpired number about
  | .interrupted _ number about | .noFileOrDirectory _ number about
  | .invalidArgument _ number about | .permissionDenied _ number about
  | .resourceExhausted _ number about | .inappropriateType _ number about
  | .noSuchThing _ number about => faultOf number about
  | .unexpectedEof | .userError _ => .missing

/-- Where a path leads once all links are followed, if it leads anywhere. -/
def realLocation? (path : String) : IO (Option Location) := do
  try return some (Path.namesOf (← IO.FS.realPath path).toString.toList)
  catch _ => return none

def read (place : Location) : IO (Except FileFault Bytes) := do
  try return .ok (← IO.FS.readBinFile (pathOf place)).toList
  catch e => return .error (readFault e)

/-- The tree with an access refused. -/
def refuse (tree : FileTree) (access : Access) (place : Location) (fault : FileFault) : FileTree :=
  { tree with refusal? := fun asked there =>
      if asked = access ∧ there = place then some fault else tree.refusal? asked there }

/-- Adds what is met on the way along a path to a tree. Only a directory has a dot below it. -/
def observe (tree : FileTree) (cwd : Location) (path : Text) : IO FileTree := do
  let mut tree := tree
  let mut here := FileTree.start cwd path
  for name in Path.namesOf path do
    if name = ['.', '.'] then here := here.dropLast
    else
      let place := here ++ [name]
      match ← realLocation? (pathOf place) with
      | none =>
        match ← read place with
        | .error .missing | .ok _ => return tree
        | .error fault => return refuse tree .lookUp place fault
      | some real =>
        if real ≠ place then
          tree := (tree.withDirectories real.dropLast).put place (.link (Location.path real))
        if (← realLocation? (pathOf real ++ "/.")).isSome then tree := tree.put real .directory
        else match ← read real with
          | .ok content => tree := tree.put real (.file content)
          | .error fault => tree := refuse (tree.put real (.file [])) .openRead real fault
        here := real
  return tree

/-- A number with zeros before it, up to the width. -/
def padded (width n : Nat) : String :=
  let digits := toString n
  String.ofList (List.replicate (width - digits.length) '0') ++ digits

/-- The time in Greenwich, to the microsecond. -/
def now : IO Text := do
  let t := Std.Time.PlainDateTime.ofWallTime
    (Std.Time.WallTime.ofTimestamp (← Std.Time.Timestamp.now) Std.Time.TimeZone.Offset.zero)
  let field (width : Nat) (n : Int) : String := padded width n.toNat
  let date := field 4 t.year.toInt ++ "-" ++ field 2 t.month.val ++ "-" ++ field 2 t.day.val
  let time := field 2 t.hour.val ++ ":" ++ field 2 t.minute.val ++ ":" ++ field 2 t.second.val
  let micros := t.nanosecond.val / 1000
  let fraction := if micros = 0 then "" else "." ++ field 6 micros
  return (date ++ "T" ++ time ++ fraction ++ "Z").toList

def environment : IO Environment := do
  let names := ["HOME", "SHELLSPLIT_CONFIG", "LANGUAGE", "LC_ALL", "LC_MESSAGES", "LANG"]
  names.filterMapM fun name => do
    return (← IO.getEnv name).map fun value => (name.toList, value.toList)

/-- The lines of a file that holds fields with a mark between them. -/
def rows (path : String) (mark : Char) : IO (List (List Text)) := do
  try return (Text.splitLines (← IO.FS.readFile path).toList).map (·.splitOn mark)
  catch _ => return []

/-- The homes of users, by name and by number. -/
def homes : IO (List (Text × Text) × List (Text × Text)) := do
  let users := (← rows "/etc/passwd" ':').filterMap fun
    | [name, _, number, _, _, home, _] => some (name, number, home)
    | _ => none
  return (users.map fun user => (user.1, user.2.2), users.map fun user => user.2)

/-- The number of the user that the program runs for. -/
def userNumber? : IO (Option Text) := do
  return (← rows "/proc/self/status" '\t').findSome? fun
    | label :: number :: _ => if label = "Uid:".toList then some number else none
    | _ => none

/-- The surroundings of a run, before any file but the working directory is known. -/
def world : IO World := do
  let environment ← environment
  let (byName, byNumber) ← homes
  let ownHome? := (← userNumber?).bind (byNumber.lookup ·)
  let directory ← try pure (Except.ok (← IO.currentDir)) catch e => pure (.error (readFault e))
  let cwd := match directory with
    | .ok path => Path.namesOf path.toString.toList
    | .error _ => []
  let own : Homes := { named? := environment.lookup "HOME".toList, own? := ownHome? }
  let home := match (Path.ofText ['~']).expandHome own with
    | .ok home => home
    | .error _ => {}
  return {
    tree := FileTree.withDirectories { entries := [] } cwd
    cwd
    cwdFault? := match directory with
      | .ok _ => none
      | .error fault => some fault
    environment
    ownHome?
    homeOf? := (byName.lookup ·)
    userFile := ((home.child ".shellsplit").child "config").text
    systemCatalogs := "/usr/share/locale"
    kernelLineFile := "/proc/cmdline"
    uuidFile := "/proc/sys/kernel/random/uuid" }

def apply : Change → IO Unit
  | .makeDirectory path => IO.FS.createDir (String.ofList path)
  | .append path more => do
    let handle ← IO.FS.Handle.mk (String.ofList path) .append
    handle.write ⟨more.toArray⟩

/-- The world with all that is in reach of a run. -/
def explore (w : World) (arguments : List Text) : IO World := do
  let tree ← (w.reach arguments).foldlM (fun tree path => observe tree w.cwd path) w.tree
  return { w with tree }

end ShellWords.CommandLine

open ShellWords ShellWords.CommandLine in
def main (args : List String) : IO UInt32 := do
  let arguments := args.map String.toList
  let settled ← explore (← world) arguments
  let before ← explore settled arguments
  let input ← if World.readsInput arguments then (← IO.getStdin).readBinToEnd else pure .empty
  let (after, report) := before.run (← now) input.toList arguments
  (before.tree.changes after.tree).forM apply
  IO.print (String.ofList report.output)
  IO.eprint (String.ofList report.errors)
  match report.ending with
  | .status code => return code.toUInt32
  | .failed f =>
    IO.eprintln (String.ofList (f.name ++ ": " ++ f.text))
    return 1
