import ShellWords.Shell.BuiltIn.Lexeme
import ShellWords.Shell.Node
import ShellWords.Text.Letter

/-!
Words of the shell language. What is quoted or expanded in a word is looked at only after it has
been cut: the quotes go, and the expansions become nodes below the word.
-/
namespace ShellWords.Shell

namespace Node

def leaf (kind : NodeKind) (l : Lexeme) : Node := mk kind none l.start l.stop []

def reserved (l : Lexeme) : Node := mk .reservedWord (some l.text) l.start l.stop []

end Node

/-- A word while its quotes are taken away: the text so far, last character first, and the kinds of
its expansions, last one first. -/
structure Unquoted where
  read : Text := []
  expansions : List NodeKind := []

namespace Unquoted

def keep (u : Unquoted) (t : Text) : Unquoted := { u with read := t.reverse ++ u.read }

def expand (u : Unquoted) (kind : NodeKind) (t : Text) : Unquoted :=
  { u.keep t with expansions := kind :: u.expansions }

end Unquoted

def isNameChar (c : Char) : Bool := Text.isLetter c || Text.isNumeral c || c = '_'

def isSpecialParameter (c : Char) : Bool := "0123456789$#?-!*@".toList.contains c

/-- The length of a nested part up to its closing delimiter, which is included. -/
def nestedLength (opening closing : Char) (depth : Nat) : Text → Nat
  | [] => 0
  | c :: rest =>
    if c = closing then if depth ≤ 1 then 1 else 1 + nestedLength opening closing (depth - 1) rest
    else 1 + nestedLength opening closing (if c = opening then depth + 1 else depth) rest

/-- How long the expansion after a dollar sign is, and what it is. A dollar sign that begins none
takes the next character with it. -/
def expansionAt (rest : Text) : Nat × Option NodeKind :=
  match rest with
  | [] => (0, none)
  | '{' :: more => (1 + nestedLength '{' '}' 1 more, some .parameter)
  | '(' :: more => (1 + nestedLength '(' ')' 1 more, some .commandSubstitution)
  | c :: _ =>
    if isSpecialParameter c then (1, some .parameter)
    else match (rest.takeWhile isNameChar).length with
      | 0 => (1, none)
      | length => (length, some .parameter)

/-- The user name of a tilde: up to a slash, and only if nothing in it is quoted. -/
def tildeLength (rest : Text) : Option Nat :=
  let name := rest.takeWhile (· ≠ '/')
  if name.any fun c => c = '\\' || c = '\'' || c = '"' then none else some name.length

/-- Takes away the quotes of the rest of a word. The first `skip` characters are done with; `first`
tells that nothing comes before; `double` that the whole word began with a double quote, in which
case single quotes are kept. -/
def unquoteFrom (u : Unquoted) (skip : Nat) (first double : Bool) : Text → Unquoted
  | [] => u
  | c :: rest =>
    if skip ≠ 0 then unquoteFrom u (skip - 1) false double rest
    else if c = '\\' then unquoteFrom (u.keep (rest.take 1)) 1 false double rest
    else if c = '"' then unquoteFrom u 0 false double rest
    else if c = '\'' then unquoteFrom (if double then u.keep [c] else u) 0 false double rest
    else if c = '$' && !(first && rest.isEmpty) then
      let (length, kind) := expansionAt rest
      let t := c :: rest.take length
      unquoteFrom ((kind.map fun k => u.expand k t).getD (u.keep t)) length false double rest
    else if c = '~' && first then
      match tildeLength rest with
      | some length =>
        unquoteFrom (u.expand .tilde (c :: rest.take length)) length false double rest
      | none => unquoteFrom (u.keep [c]) 0 false double rest
    else if (c = '<' || c = '>') && rest.head? = some '(' && !double then
      let length := 1 + nestedLength '(' ')' 1 (rest.drop 1)
      unquoteFrom (u.expand .processSubstitution (c :: rest.take length)) length false double rest
    else if c = '`' then
      let length := nestedLength '`' '`' 1 rest
      unquoteFrom (u.expand .commandSubstitution (c :: rest.take length)) length false double rest
    else unquoteFrom (u.keep [c]) 0 false double rest

/-- The text of a word and its expansions. A word in single quotes as a whole is what is between
its first and its last character. -/
def unquote (word : Text) : Text × List NodeKind :=
  if word.head? = some '\'' && word.getLast? = some '\'' then ((word.drop 1).dropLast, [])
  else
    let u := unquoteFrom {} 0 true (word.head? = some '"') word
    (u.read.reverse, u.expansions.reverse)

/-- The node of a word. -/
def Node.ofWord (kind : NodeKind) (l : Lexeme) : Node :=
  let (text, expansions) := unquote l.text
  .mk kind (some text) l.start l.stop (expansions.map fun k => .mk k none l.start l.stop [])

/-- Whether a word gives a value to a name: the name, perhaps a plus sign, and an equals sign. -/
def isAssignment (word : Text) : Bool :=
  let name := word.takeWhile isNameChar
  let others := word.drop name.length
  (name.head?.any fun c => Text.isLetter c || c = '_') &&
    (others.head? = some '=' || others.take 2 = ['+', '='])

end ShellWords.Shell
