import ShellWords.Files.TextFile
import ShellWords.KernelLine

/-!
Values that the kernel provides as text files.
-/
namespace ShellWords.Kernel

inductive LineError
  | unreadable (e : TextFileError)
  | quoting (e : QuotingError)
  deriving DecidableEq, Repr

/-- The identifier in a file, without the blanks around it. -/
def uuid (tree : FileTree) (cwd : Location) (path : Text) : Except TextFileError Text :=
  (tree.readText cwd path).map Text.trim

/-- The arguments of the command line in a file. -/
def commandLine (tree : FileTree) (cwd : Location) (path : Text) : Except LineError (List Text) :=
  match tree.readText cwd path with
  | .error e => .error (.unreadable e)
  | .ok line => (KernelLine.split line).mapError .quoting

end ShellWords.Kernel
