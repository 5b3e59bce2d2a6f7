import ShellWords.Foreign

/-!
Command trees, and parsers that give them. A node has a kind, the text of a word without its quotes,
its place in the source, and the nodes below it.
-/
namespace ShellWords.Shell

inductive NodeKind
  | command
  | word
  | assignment
  | parameter
  | tilde
  | commandSubstitution
  | processSubstitution
  | redirect
  | pipeline
  | pipe
  | list
  | operator
  | reservedWord
  | compound
  | conditional
  | whileLoop
  | untilLoop
  | forLoop
  | function
  | other (name : Text)
  deriving DecidableEq, Repr

def NodeKind.name : NodeKind → Text
  | command => "command"
  | word => "word"
  | assignment => "assignment"
  | parameter => "parameter"
  | tilde => "tilde"
  | commandSubstitution => "commandsubstitution"
  | processSubstitution => "processsubstitution"
  | redirect => "redirect"
  | pipeline => "pipeline"
  | pipe => "pipe"
  | list => "list"
  | operator => "operator"
  | reservedWord => "reservedword"
  | compound => "compound"
  | conditional => "if"
  | whileLoop => "while"
  | untilLoop => "until"
  | forLoop => "for"
  | function => "function"
  | other name => name

inductive Node
  | mk (kind : NodeKind) (word : Option Text) (start stop : Nat) (children : List Node)
  deriving Repr

namespace Node

def kind : Node → NodeKind
  | mk kind _ _ _ _ => kind

def start : Node → Nat
  | mk _ _ start _ _ => start

def stop : Node → Nat
  | mk _ _ _ stop _ => stop

def children : Node → List Node
  | mk _ _ _ _ children => children

/-- A node that reaches from the first to the last of the nodes below it. -/
def spanning (kind : NodeKind) (children : List Node) : Node :=
  mk kind none ((children.head?.map start).getD 0) ((children.getLast?.map stop).getD 0) children

end Node

/-- Why a source has no command trees. -/
inductive ParseError
  /-- The source is not in the language. -/
  | syntaxError (message : Text) (position : Nat)
  /-- The parser itself fails. -/
  | foreign (e : ForeignError)
  deriving DecidableEq, Repr

/-- A parser of the shell language: the command trees of a source. -/
abbrev Parser := Text → Except ParseError (List Node)

end ShellWords.Shell
