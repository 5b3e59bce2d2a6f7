import ShellWords.Files.Tree
import ShellWords.Text.Decoding
import ShellWords.Text.Lines

/-!
Text files: UTF-8 without tolerance, every kind of line end read as a line feed.
-/
namespace ShellWords

inductive TextFileError
  | file (e : FileError)
  | undecodable (e : DecodeError)
  deriving DecidableEq, Repr

/-- The text of some bytes that were written with any line ends. -/
def textOfBytes (bytes : Bytes) : Except DecodeError Text :=
  (Utf8.decode bytes).map Text.unifyNewlines

def FileTree.readText (tree : FileTree) (cwd : Location) (path : Text) :
    Except TextFileError Text :=
  match tree.read cwd path with
  | .error e => .error (.file e)
  | .ok bytes => (textOfBytes bytes).mapError .undecodable

end ShellWords
