import ShellWords.Text.Blank

/-!
The grammar of kernel command lines: what an argument is, and how arguments are laid out in a line.
-/
namespace ShellWords.KernelLine

def isPlain (c : Char) : Bool := !Text.isBlank c && c != '"'

/-- What may follow the equals sign of an argument. -/
inductive IsValue : Text → Prop
  | plain {t : Text} : (∀ c ∈ t, isPlain c = true) → IsValue t
  | quoted {t : Text} : '"' ∉ t → IsValue ('"' :: (t ++ ['"']))

/-- An argument is a name, which may begin with an equals sign, and perhaps a value. -/
inductive IsArgument : Text → Prop
  | name {c : Char} {t : Text} :
      isPlain c = true → (∀ d ∈ t, isPlain d = true ∧ d ≠ '=') → IsArgument (c :: t)
  | assignment {c : Char} {t value : Text} :
      isPlain c = true → (∀ d ∈ t, isPlain d = true ∧ d ≠ '=') → IsValue value →
      IsArgument (c :: (t ++ '=' :: value))

def AllBlank (t : Text) : Prop := ∀ c ∈ t, Text.isBlank c = true

/-- Arguments, and a line that has them in this order. Blanks are free at the ends; between two
arguments there is at least one. -/
inductive Line : List Text → Text → Prop
  | blank {t : Text} : AllBlank t → Line [] t
  | last {before argument after : Text} :
      AllBlank before → IsArgument argument → AllBlank after →
      Line [argument] (before ++ argument ++ after)
  | cons {before argument gap line : Text} {arguments : List Text} :
      AllBlank before → IsArgument argument → AllBlank gap → gap ≠ [] → arguments ≠ [] →
      Line arguments line → Line (argument :: arguments) (before ++ argument ++ gap ++ line)

end ShellWords.KernelLine
