import ShellWords.Quote
import ShellWords.Shell.Node

/-!
Checking joined words against the grammar of commands: the shell must see one simple command whose
words are, character by character, the quoted words. A source with a syntax error or with anything
but one simple command has no such words; where the parser itself fails, there is no answer.
-/
namespace ShellWords.Shell

/-- A stretch of a source. -/
def slice (source : Text) (start stop : Nat) : Text := (source.drop start).take (stop - start)

/-- The words of a source that is one simple command, as they stand there, values of assignments
included and targets of redirections not. -/
def simpleWords (parser : Parser) (source : Text) : Except ForeignError (Option (List Text)) :=
  match parser source with
  | .error (.foreign e) => .error e
  | .error (.syntaxError _ _) => .ok none
  | .ok [node] =>
    if node.kind ≠ .command then .ok none
    else
      let words := node.children.filter fun part => part.kind = .word ∨ part.kind = .assignment
      .ok (some (words.map fun part => slice source part.start part.stop))
  | .ok _ => .ok none

/-- Whether the shell splits the joined words where they were joined. -/
def verifyJoin (parser : Parser) (words : List Text) : Except ForeignError Bool :=
  let command := Text.joinQuoted words
  if command.isEmpty then .ok words.isEmpty
  else (simpleWords parser command).map fun seen => seen = some (words.map Text.quote)

end ShellWords.Shell
