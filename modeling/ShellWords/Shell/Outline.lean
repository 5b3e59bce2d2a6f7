import ShellWords.Shell.Node
import ShellWords.Token.Reader

/-!
The outline of a command line: the tokens that the word reader sees, and below them the tree that
the grammar of commands sees, one node a line, children further right.
-/
namespace ShellWords.Shell

def indentation (depth : Nat) : Text := (List.replicate depth [' ', ' ']).flatten

mutual

def Node.outline (depth : Nat) : Node → List Text
  | .mk kind word _ _ children =>
    (indentation depth ++ "kind: " ++ kind.name)
      :: ((word.map fun w => indentation depth ++ "word: " ++ Text.literal w).toList
        ++ outlines (depth + 1) children)

def outlines (depth : Nat) : List Node → List Text
  | [] => []
  | node :: nodes => node.outline depth ++ outlines depth nodes

end

def tokenLine (t : Token) : Text :=
  "  " ++ Text.padRight 8 t.kind.name ++ " " ++ Text.literal t.value

def tokenLines (command : Text) : List Text :=
  let drained := (Stream.ofText command).tokens
  let complaint (e : ReadError) : Text := "  error: " ++ e.message id
  drained.items.map tokenLine ++ (drained.failure.map complaint).toList

/-- The lines about the tree. -/
def treeLines (parser : Parser) (command : Text) : Except ForeignError (List Text) :=
  match parser command with
  | .ok nodes => .ok (outlines 1 nodes)
  | .error (.syntaxError message position) =>
    .ok ["  parse error: " ++ message ++ " (position " ++ Text.ofNat position ++ ")"]
  | .error (.foreign e) => .error e

/-- The lines of an outline, and what kept the tree from being shown. -/
structure Outline where
  lines : List Text
  failure : Option ForeignError

def outline (parser : Parser) (command : Text) : Outline :=
  let head : List Text := ["Input: " ++ Text.literal command, List.replicate 40 '-', "shellsplit:"]
    ++ tokenLines command ++ [[], "bashlex:"]
  match treeLines parser command with
  | .ok lines => ⟨head ++ lines, none⟩
  | .error e => ⟨head, some e⟩

def outlineUsage : List Text :=
  ["Usage: shellsplit-dump.py 'command'",
   "Example: shellsplit-dump.py 'echo \"a b\" # note'"]

end ShellWords.Shell
