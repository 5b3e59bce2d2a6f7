import ShellWords.Text.Basic

/-!
Failures of other libraries, as far as they can be told from outside: the name of the kind, what it
counts as, and the message.
-/
namespace ShellWords

/-- What a failure counts as: malformed input, trouble with the system, or something else. -/
inductive Family
  | value
  | system
  | other
  deriving DecidableEq, Repr

structure ForeignError where
  kind : Text
  family : Family
  message : Text
  deriving DecidableEq, Repr

end ShellWords
