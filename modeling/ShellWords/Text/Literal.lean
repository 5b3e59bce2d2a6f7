import ShellWords.Text.Printable

/-!
Quoted literals: a text between quotes on one line, with nothing in it that a terminal would not
show. Single quotes are used unless the text has single quotes and no double ones.
-/
namespace ShellWords.Text

/-- The quote that saves escapes, the single one where both do as well. -/
def literalQuote (t : Text) : Char :=
  if t.contains '\'' && !t.contains '"' then '"' else '\''

/-- An unprintable character is written by its number in two, four or eight digits. -/
def literalNumber (n : Nat) : Text :=
  if n < 0x100 then "\\x" ++ hex 2 n
  else if n < 0x10000 then "\\u" ++ hex 4 n
  else "\\U" ++ hex 8 n

def literalChar (quote c : Char) : Text :=
  if c = quote then ['\\', c]
  else if c = '\\' then "\\\\"
  else if c = '\n' then "\\n"
  else if c = '\r' then "\\r"
  else if c = '\t' then "\\t"
  else if isPrintable c then [c]
  else literalNumber c.toNat

def literal (t : Text) : Text :=
  let quote := literalQuote t
  quote :: (t.flatMap (literalChar quote) ++ [quote])

end ShellWords.Text
