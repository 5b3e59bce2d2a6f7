import ShellWords.Text.Literal

/-!
Tokens: the words and comments of a shell line, with quotes and escapes already removed.
-/
namespace ShellWords

inductive TokenKind
  | word
  | comment
  deriving DecidableEq, Repr

structure Token where
  kind : TokenKind
  value : Text
  deriving DecidableEq, Repr

namespace TokenKind

def name : TokenKind → Text
  | word => "word"
  | comment => "comment"

def ofName? (name : Text) : Option TokenKind :=
  [word, comment].find? (·.name = name)

/-- The complaint about a name that no kind has. -/
def unknownMessage (name : Text) : Text :=
  Text.literal name ++ " is not a valid TokenKind"

end TokenKind

/-- The text of a word. A comment has none. -/
def Token.word? (t : Token) : Option Text :=
  match t.kind with
  | .word => some t.value
  | .comment => none

/-- The display names the kind and shows the value as a quoted literal. -/
def Token.display (t : Token) : Text :=
  "Token(" ++ t.kind.name ++ ", " ++ Text.literal t.value ++ ")"

/-- What is wrong with a text that cannot be cut into tokens: it stops too early. -/
inductive LexError
  | escapeAtEnd
  | quoteOpen
  deriving DecidableEq, Repr

def LexError.message : LexError → Text
  | escapeAtEnd => "EOF found after escape character"
  | quoteOpen => "EOF found when expecting closing quote"

end ShellWords
