import ShellWords.Text.Basic

/-!
Lexemes of the shell language. A command line is cut into words, operators and line ends, each with
its place in the source. A word runs on through quotes and expansions, which nest; a stack of the
delimiters that are still to come tells how deep. The cut is made in one pass over the characters,
and a line that does not end gets its line feed.
-/
namespace ShellWords.Shell

inductive Operator
  | semicolon
  | doubleSemicolon
  | semicolonAmpersand
  | doubleSemicolonAmpersand
  | ampersand
  | doubleAmpersand
  | bar
  | barAmpersand
  | doubleBar
  | openParen
  | closeParen
  | less
  | greater
  | doubleLess
  | doubleLessHyphen
  | tripleLess
  | doubleGreater
  | lessAmpersand
  | greaterAmpersand
  | lessGreater
  | greaterBar
  | ampersandGreater
  | ampersandDoubleGreater
  | hyphen
  deriving DecidableEq, Repr

namespace Operator

/-- Longer operators come before those that they begin with. -/
def spellings : List (Text × Operator) :=
  [("<<-", doubleLessHyphen), ("<<<", tripleLess), (";;&", doubleSemicolonAmpersand),
   ("&>>", ampersandDoubleGreater), ("<<", doubleLess), (">>", doubleGreater),
   (";;", doubleSemicolon), ("&&", doubleAmpersand), ("||", doubleBar), ("<&", lessAmpersand),
   (">&", greaterAmpersand), ("<>", lessGreater), (">|", greaterBar), ("&>", ampersandGreater),
   ("|&", barAmpersand), (";&", semicolonAmpersand), (";", semicolon), ("&", ampersand),
   ("|", bar), ("(", openParen), (")", closeParen), ("<", less), (">", greater), ("-", hyphen)]

/-- Whether the operator redirects, with the word after it as the target. -/
def isRedirection : Operator → Bool
  | less | greater | doubleLess | doubleLessHyphen | tripleLess | doubleGreater | lessAmpersand
  | greaterAmpersand | lessGreater | greaterBar | ampersandGreater | ampersandDoubleGreater => true
  | _ => false

/-- Whether the operator may redirect to the number of a descriptor. -/
def takesDescriptor : Operator → Bool
  | lessAmpersand | greaterAmpersand => true
  | _ => false

end Operator

inductive LexemeKind
  /-- A word; a quoted one is not reserved. -/
  | word (quoted : Bool)
  /-- The number of a descriptor, directly in front of a redirection or after one that takes it. -/
  | number
  | operator (op : Operator)
  | lineEnd
  /-- The end of a source in which nothing is left open. -/
  | sourceEnd
  /-- The end of a source in which this delimiter is missing. -/
  | unmatched (closing : Char)
  deriving DecidableEq, Repr

structure Lexeme where
  kind : LexemeKind
  text : Text
  start : Nat
  stop : Nat
  deriving DecidableEq, Repr

/-- What a word is inside of. -/
inductive Nest
  | single
  | ansi
  | double
  | backtick
  | brace
  | paren
  | bracket
  deriving DecidableEq, Repr

namespace Nest

def closing : Nest → Char
  | single | ansi => '\''
  | double => '"'
  | backtick => '`'
  | brace => '}'
  | paren => ')'
  | bracket => ']'

/-- Whether a backslash takes the special meaning of the next character away. -/
def escapes : Nest → Bool
  | single => false
  | _ => true

/-- What a character opens at this place; the dollar flag tells that it follows a dollar sign. -/
def opened? (inside : Option Nest) (dollar : Bool) (c : Char) : Option Nest :=
  let expansion : Option Nest :=
    if !dollar then none
    else match c with
      | '(' => some paren
      | '{' => some brace
      | '[' => some bracket
      | _ => none
  match inside with
  | some single | some ansi | some backtick => none
  | some double => expansion.orElse fun _ => if c = '`' then some backtick else none
  | some brace | some paren | some bracket | none =>
    expansion.orElse fun _ => match c with
      | '\'' => some (if dollar then ansi else single)
      | '"' => some double
      | '`' => some backtick
      | '(' => if inside = some paren then some paren else none
      | '[' => if inside = some bracket then some bracket else none
      | _ => none

end Nest

/-- A word as far as it has been read. -/
structure OpenWord where
  start : Nat
  /-- The characters, last one first. -/
  read : Text := []
  nests : List Nest := []
  quoted : Bool := false
  /-- The next character is taken as it is. -/
  escaped : Bool := false
  /-- A dollar sign, or the beginning of a process substitution, comes directly before. -/
  dollar : Bool := false
  deriving DecidableEq, Repr

namespace OpenWord

def push (w : OpenWord) (c : Char) : OpenWord :=
  { w with read := c :: w.read, escaped := false, dollar := false }

/-- Takes a character that does not end the word. -/
def take (w : OpenWord) (c : Char) : OpenWord :=
  let next := w.push c
  if w.escaped then next
  else match w.nests with
    | nest :: others =>
      if c = '\\' && nest.escapes then { next with escaped := true }
      else if c = nest.closing then { next with nests := others }
      else match Nest.opened? nest w.dollar c with
        | some inner => { next with nests := inner :: nest :: others }
        | none => { next with dollar := c = '$' && !w.dollar }
    | [] =>
      -- Any quoting, by a backslash as well, keeps the word from being reserved.
      if c = '\\' then { next with escaped := true, quoted := true }
      else match Nest.opened? none w.dollar c with
        | some inner =>
          { next with nests := [inner], quoted := w.quoted || c = '\'' || c = '"' || c = '`' }
        | none => { next with dollar := c = '$' && !w.dollar }

/-- Whether the word goes on inside quotes or an expansion, or after a backslash. -/
def holds (w : OpenWord) : Bool := w.escaped || !w.nests.isEmpty

/-- The lexeme that the word is if it ends here. A number needs a redirection beside it. -/
def lexeme (w : OpenWord) (stop : Nat) (beside : Bool) : Lexeme :=
  let text := w.read.reverse
  if beside && text.all Char.isDigit then ⟨.number, text, w.start, stop⟩
  else ⟨.word w.quoted, text, w.start, stop⟩

end OpenWord

inductive Mode
  | gap
  | comment
  | word (w : OpenWord)
  deriving DecidableEq, Repr

def isBreak (c : Char) : Bool := [' ', '\t', '\n', '(', ')', '<', '>', ';', '&', '|'].contains c

def spellingAt? (t : Text) : Option (Text × Operator) :=
  Operator.spellings.find? fun spelling => spelling.1.isPrefixOf t

/-- Whether a backslash before a line feed is no more than a place to break the line. -/
def Mode.joinsLines : Mode → Bool
  | gap => true
  | comment => false
  | word w => !w.escaped && w.nests.head? ≠ some .single

/-- Whether a process substitution begins here. -/
def substitutes (c : Char) (rest : Text) : Bool := (c = '<' || c = '>') && rest.head? = some '('

/-- Cuts from a position on. The first `skip` characters belong to what has been cut off already;
`after` tells that a redirection that takes a descriptor comes directly before. -/
def cutFrom (pos skip : Nat) (after : Bool) (mode : Mode) : Text → List Lexeme
  | [] =>
    match mode with
    | .word w =>
      match w.nests with
      | nest :: _ => [⟨.unmatched nest.closing, [], pos, pos⟩]
      | [] => [w.lexeme pos after, ⟨.sourceEnd, [], pos, pos⟩]
    | _ => [⟨.sourceEnd, [], pos, pos⟩]
  | c :: rest =>
    if skip ≠ 0 then cutFrom (pos + 1) (skip - 1) after mode rest
    else if c = '\\' && rest.head? = some '\n' && mode.joinsLines then
      cutFrom (pos + 1) 1 after mode rest
    else match mode with
      -- The line feed after a comment is a lexeme of its own.
      | .comment =>
        if c = '\n' then
          ⟨.lineEnd, [c], pos, pos + 1⟩ :: cutFrom (pos + 1) 0 false .gap rest
        else cutFrom (pos + 1) 0 after .comment rest
      | .word w =>
        if w.holds || !isBreak c || (w.dollar && c = '(') then
          cutFrom (pos + 1) 0 after (.word (w.take c)) rest
        else if substitutes c rest then
          cutFrom (pos + 1) 0 after (.word { w.push c with dollar := true }) rest
        else
          -- Digits directly before a redirection are the number of its descriptor.
          let word := w.lexeme pos (after || c = '<' || c = '>')
          if c = '\n' then
            word :: ⟨.lineEnd, [c], pos, pos + 1⟩ :: cutFrom (pos + 1) 0 false .gap rest
          else match spellingAt? (c :: rest) with
            | some (text, op) =>
              word :: ⟨.operator op, text, pos, pos + text.length⟩ ::
                cutFrom (pos + 1) (text.length - 1) op.takesDescriptor .gap rest
            | none => word :: cutFrom (pos + 1) 0 false .gap rest
      | .gap =>
        if c = ' ' ∨ c = '\t' then cutFrom (pos + 1) 0 after .gap rest
        else if c = '#' then cutFrom (pos + 1) 0 after .comment rest
        else if c = '\n' then
          ⟨.lineEnd, [c], pos, pos + 1⟩ :: cutFrom (pos + 1) 0 false .gap rest
        else if substitutes c rest then
          cutFrom (pos + 1) 0 after
            (.word { ({ start := pos } : OpenWord).push c with dollar := true }) rest
        -- A hyphen is an operator only where a descriptor is expected.
        else if isBreak c || (after && c = '-') then
          match spellingAt? (c :: rest) with
          | some (text, op) =>
            ⟨.operator op, text, pos, pos + text.length⟩ ::
              cutFrom (pos + 1) (text.length - 1) op.takesDescriptor .gap rest
          | none => cutFrom (pos + 1) 0 after .gap rest
        else cutFrom (pos + 1) 0 after (.word (({ start := pos } : OpenWord).take c)) rest

/-- The source with a line feed at its end. -/
def closedLine (source : Text) : Text :=
  if source.getLast? = some '\n' then source else source ++ ['\n']

def lexemes (source : Text) : List Lexeme := cutFrom 0 0 false .gap (closedLine source)

end ShellWords.Shell
