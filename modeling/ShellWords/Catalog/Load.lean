import ShellWords.Catalog.Binary
import ShellWords.Catalog.Locale
import ShellWords.Files.Tree

/-!
Finding the catalogs of a domain: one file for each wanted language that has one, in the order of
the wishes. All of them must be in order, whether or not a message is ever looked up.
-/
namespace ShellWords

inductive CatalogError
  | file (e : FileError)
  | faulty (fault : CatalogFault) (path : Text)
  deriving DecidableEq, Repr

namespace Catalog

/-- Puts paths behind each other; an absolute one replaces those before it. -/
def joinPath (path part : Text) : Text :=
  if part.head? = some '/' then part
  else if path.isEmpty || path.getLast? = some '/' then path ++ part
  else path ++ '/' :: part

def filePath (directory language domain : Text) : Text :=
  [language, "LC_MESSAGES", domain ++ ".mo"].foldl joinPath directory

/-- The catalog files there are, for a list of languages. -/
def files (tree : FileTree) (cwd : Location) (directory domain : Text) (languages : List Text) :
    List Text :=
  ((Locale.wanted languages).map (filePath directory · domain)).filter (tree.holds cwd ·)

def loadFile (codecs : Codecs) (tree : FileTree) (cwd : Location) (path : Text) :
    Except CatalogError Catalog :=
  match tree.read cwd path with
  | .error e => .error (.file e)
  | .ok bytes => (ofBytes codecs bytes).mapError (.faulty · path)

def load (codecs : Codecs) (tree : FileTree) (cwd : Location) (directory domain : Text)
    (languages : List Text) : Except CatalogError (List Catalog) :=
  (files tree cwd directory domain languages).mapM (loadFile codecs tree cwd)

end Catalog

end ShellWords
