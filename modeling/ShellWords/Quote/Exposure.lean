import ShellWords.Text.Basic

/-!
What a shell sees of a text. A quote opens where nothing is quoted, and the same quote closes it
again; a character is exposed to the shell as far as the quotes around it let it be.
-/
namespace ShellWords

inductive Quoting
  | bare
  | single
  | double
  deriving DecidableEq, Repr

namespace Quoting

/-- The quoting after a character. -/
def next : Quoting → Char → Quoting
  | bare, c => if c = '\'' then single else if c = '"' then double else bare
  | single, c => if c = '\'' then bare else single
  | double, c => if c = '"' then bare else double

def after (start : Quoting) (t : Text) : Quoting := t.foldl next start

/-- Each character with the quoting that it is met in. -/
def exposures : Quoting → Text → List (Quoting × Char)
  | _, [] => []
  | q, c :: rest => (q, c) :: exposures (q.next c) rest

end Quoting

end ShellWords
