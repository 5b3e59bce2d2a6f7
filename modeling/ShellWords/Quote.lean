import ShellWords.Text.Basic

/-!
Quoting words for the shell. A word of harmless characters stays as it is; any other is put in
single quotes, where nothing is special, and a single quote inside it closes them, stands in double
quotes, and opens them again.
-/
namespace ShellWords

/-- Characters without a meaning to the shell. -/
def isSafe (c : Char) : Bool :=
  c.isAlphanum || ['@', '%', '_', '+', '=', ':', ',', '.', '/', '-'].contains c

namespace Text

/-- What a character becomes inside single quotes. -/
def quoteChar (c : Char) : Text :=
  if c = '\'' then ['\'', '"', '\'', '"', '\''] else [c]

def quote (word : Text) : Text :=
  if word.isEmpty then ['\'', '\'']
  else if word.all isSafe then word
  else '\'' :: (word.flatMap quoteChar ++ ['\''])

/-- The quoted words with single blanks between them. -/
def joinQuoted (words : List Text) : Text :=
  List.intercalate [' '] (words.map quote)

end Text

end ShellWords
