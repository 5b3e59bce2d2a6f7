import ShellWords.Quote
import ShellWords.Quote.Exposure
import ShellWords.Shell.SimpleCommand

/-!
What the shell language makes of sources that use little of it: quotes, which are closed, and
blanks. Unquoted blanks separate words, and the words are one simple command, unless the first one
is reserved. A reserved word counts as such only in first place and without quotes; then the source
is a compound command, no command at all, or more than a parser can do.
-/
namespace ShellWords.Shell

/-- The reserved words that need no quotes. -/
def keywords : List Text :=
  ["if", "then", "else", "elif", "fi", "case", "esac", "for", "select", "while", "until", "do",
   "done", "in", "function", "time", "coproc"]

/-- Nothing in a source has a meaning but quotes and blanks: what is bare is safe, and nothing in
double quotes is expanded. -/
structure IsPlain (source : Text) : Prop where
  closed : Quoting.bare.after source = .bare
  safe : ∀ c, (Quoting.bare, c) ∈ Quoting.bare.exposures source →
    isSafe c ∨ c ∈ ['\'', '"', ' ']
  unexpanded : ∀ c, (Quoting.double, c) ∈ Quoting.bare.exposures source → c ∉ ['$', '`', '\\']

/-- Where the words of the rest of a source begin and end. `begun` is the beginning of the word at
hand, if there is one. -/
def spansFrom (q : Quoting) (pos : Nat) (begun : Option Nat) : Text → List (Nat × Nat)
  | [] => (begun.map (·, pos)).toList
  | c :: rest =>
    if q = .bare ∧ c = ' ' then
      (begun.map (·, pos)).toList ++ spansFrom .bare (pos + 1) none rest
    else spansFrom (q.next c) (pos + 1) (some (begun.getD pos)) rest

/-- Where the words of a source begin and end: bare blanks separate them. -/
def wordSpans (source : Text) : List (Nat × Nat) := spansFrom .bare 0 none source

/-- The first word of a source, as it stands there. -/
def firstWord? (source : Text) : Option Text :=
  (wordSpans source).head?.map fun span => slice source span.1 span.2

/-- A parser reads a source as the grammar of simple commands has it. -/
structure Parser.Follows (parser : Parser) (source : Text) : Prop where
  /-- Words of which the first is not reserved are one simple command. Those in front that give
  values to names are assignments. -/
  simple : IsPlain source → ∀ first, firstWord? source = some first → first ∉ keywords →
    ∃ node, parser source = .ok [node] ∧ node.kind = .command ∧
      (∀ part ∈ node.children, part.kind = .word ∨ part.kind = .assignment) ∧
      node.children.map (fun part => (part.start, part.stop)) = wordSpans source
  /-- Words of which the first is reserved are never one simple command. -/
  reserved : IsPlain source → ∀ first, firstWord? source = some first → first ∈ keywords →
    ∀ node, parser source = .ok [node] → node.kind ≠ .command

end ShellWords.Shell
