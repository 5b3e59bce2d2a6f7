import ShellWords.Shell.BuiltIn.Word
import ShellWords.Text.Literal

/-!
The grammar of commands. A source is a row of lines, each a list of pipelines; a pipeline is a row
of commands, and a command is simple, with words, assignments and redirections, or compound. A word
is reserved only where a command may begin and if nothing in it is quoted. Reading stops at the
first lexeme that cannot follow. Some constructs are known but not supported: they are refused as
soon as they have been recognised.

Compound commands nest, and the fuel bounds how often the mutual definitions call each other; a
simple command is read by recursion on its lexemes and needs none.

This is one parser that there may be (`builtIn`). It knows no here-documents, whose bodies it takes
for commands.
-/
namespace ShellWords.Shell

inductive Reserved
  | if_
  | then_
  | else_
  | elif
  | fi
  | case
  | esac
  | for_
  | select
  | while_
  | until_
  | do_
  | done
  | in_
  | function
  | time
  | coproc
  | openBrace
  | closeBrace
  | bang
  | openTest
  | closeTest
  deriving DecidableEq, Repr

namespace Reserved

def spellings : List (Text × Reserved) :=
  [("if", if_), ("then", then_), ("else", else_), ("elif", elif), ("fi", fi), ("case", case),
   ("esac", esac), ("for", for_), ("select", select), ("while", while_), ("until", until_),
   ("do", do_), ("done", done), ("in", in_), ("function", function), ("time", time),
   ("coproc", coproc), ("\x7b", openBrace), ("\x7d", closeBrace), ("!", bang), ("[[", openTest),
   ("]]", closeTest)]

def ofText? (t : Text) : Option Reserved := spellings.lookup t

/-- Words that only close or continue a construct. -/
def closes : Reserved → Bool
  | then_ | else_ | elif | fi | esac | do_ | done | in_ | closeBrace | closeTest => true
  | _ => false

end Reserved

/-- Why a source is no row of commands. -/
inductive CommandError
  | unexpected (lexeme : Lexeme)
  | unmatched (closing : Char)
  | incomplete
  /-- A construct that is recognised and not supported. -/
  | unsupported
  deriving DecidableEq, Repr

/-- What has been read and the lexemes that are left. -/
abbrev ParsedNode := Except CommandError (Node × List Lexeme)

abbrev ParsedNodes := Except CommandError (List Node × List Lexeme)

/-- The complaint about the next lexeme. -/
def refuse : List Lexeme → CommandError
  | [] => .incomplete
  | l :: _ => match l.kind with
    | .sourceEnd => .incomplete
    | .unmatched closing => .unmatched closing
    | _ => .unexpected l

/-- The reserved word that a lexeme is, in a place where it can be one. -/
def reserved? (l : Lexeme) : Option Reserved :=
  match l.kind with
  | .word false => Reserved.ofText? l.text
  | _ => none

def isReserved (word : Reserved) (l : Lexeme) : Bool := reserved? l = some word

def isOperator (op : Operator) (l : Lexeme) : Bool := l.kind = .operator op

def skipLineEnds (ls : List Lexeme) : List Lexeme := ls.dropWhile (·.kind = .lineEnd)

/-- Reads the given reserved word. -/
def expect (word : Reserved) : List Lexeme → ParsedNode
  | l :: ls => if isReserved word l then .ok (.reserved l, ls) else .error (refuse (l :: ls))
  | [] => .error .incomplete

/-- Reads the given operator. -/
def expectOperator (op : Operator) : List Lexeme → ParsedNode
  | l :: ls => if isOperator op l then .ok (.reserved l, ls) else .error (refuse (l :: ls))
  | [] => .error .incomplete

/-- Reads any word as the word it is. -/
def expectWord : List Lexeme → ParsedNode
  | l :: ls => match l.kind with
    | .word _ => .ok (.ofWord .word l, ls)
    | _ => .error (refuse (l :: ls))
  | [] => .error .incomplete

/-- Whether a lexeme can be the target of a redirection. -/
def isTarget (op : Operator) (l : Lexeme) : Bool :=
  match l.kind with
  | .word _ => true
  | .number => op.takesDescriptor
  | .operator .hyphen => op.takesDescriptor
  | _ => false

/-- What the simple command has so far and whether a plain word is among it. -/
structure Simple where
  parts : List Node := []
  started : Bool := false

namespace Simple

def addWord (s : Simple) (l : Lexeme) : Simple :=
  if !s.started && isAssignment l.text then { s with parts := s.parts ++ [.ofWord .assignment l] }
  else { parts := s.parts ++ [.ofWord .word l], started := true }

def addRedirect (s : Simple) (start stop : Nat) : Simple :=
  { s with parts := s.parts ++ [.mk .redirect none start stop []] }

end Simple

/-- Reads on in a simple command, up to the first lexeme that is no part of one. Without words, only
redirections are read. -/
def parseSimple (words : Bool) (s : Simple) : List Lexeme → ParsedNodes
  | [] => .ok (s.parts, [])
  | l :: ls =>
    match l.kind with
    | .word _ => if words then parseSimple words (s.addWord l) ls else .error (refuse (l :: ls))
    | .number =>
      match ls with
      | op :: target :: rest =>
        match op.kind with
        | .operator o =>
          if !o.isRedirection then .error (refuse ls)
          else if !isTarget o target then .error (refuse (target :: rest))
          else parseSimple words (s.addRedirect l.start target.stop) rest
        | _ => .error (refuse ls)
      | _ => .error .incomplete
    | .operator o =>
      if !o.isRedirection then .ok (s.parts, l :: ls)
      else match ls with
        | target :: rest =>
          if !isTarget o target then .error (refuse (target :: rest))
          else parseSimple words (s.addRedirect l.start target.stop) rest
        | [] => .error .incomplete
    | _ => .ok (s.parts, l :: ls)

/-- Whether a command or pipeline can begin with this lexeme. -/
def canBegin (l : Lexeme) : Bool :=
  match l.kind with
  | .word _ => match reserved? l with
    | some word => !word.closes
    | none => true
  | .number => true
  | .operator op => op.isRedirection || op = .openParen
  | _ => false

/-- Whether a compound command may end before this lexeme. -/
def canFollow (l : Lexeme) : Bool :=
  match l.kind with
  | .word _ => match reserved? l with
    | some .in_ | some .closeTest => false
    | some word => word.closes
    | none => false
  | .operator op => op ≠ .openParen && op ≠ .hyphen
  | .unmatched _ => false
  | .number | .lineEnd | .sourceEnd => true

/-- What follows the options of the word that times a pipeline. -/
def skipTimeOptions : List Lexeme → List Lexeme
  | [] => []
  | l :: ls =>
    if l.text = "-p".toList then
      if ls.head?.any (·.text = "--".toList) then ls.drop 1 else ls
    else l :: ls

/-- What may follow the word that times a pipeline, perhaps after its options. -/
def checkTimed (ls : List Lexeme) : CommandError :=
  let ls := skipTimeOptions ls
  match ls with
  | [] => .unsupported
  | l :: _ =>
    if canBegin l || l.kind = .lineEnd || l.kind = .sourceEnd || l.kind = .operator .semicolon then
      .unsupported
    else refuse ls

/-- The parentheses that may follow the name of a function. -/
def parseParens : List Lexeme → ParsedNodes
  | l :: ls =>
    if isOperator .openParen l then
      (expectOperator .closeParen ls).map fun (close, ls) => ([.reserved l, close], ls)
    else .ok ([], l :: ls)
  | [] => .ok ([], [])

/-- The nodes of a list as one node. -/
def listNode (nodes : List Node) : Node :=
  match nodes with
  | [node] => node
  | _ => .spanning .list nodes

/-- A construct as a compound command. -/
def compoundOf (kind : NodeKind) (parts : List Node) : Node :=
  .spanning .compound [.spanning kind parts]

/-- The words after the name of a loop, up to the end of their line or a semicolon. -/
def parseLoopWords (read : List Node) : List Lexeme → ParsedNodes
  | [] => .error .incomplete
  | l :: ls => match l.kind with
    | .word _ => parseLoopWords (read ++ [.ofWord .word l]) ls
    | .lineEnd => .ok (read, skipLineEnds ls)
    | .operator .semicolon => .ok (read ++ [.reserved l], skipLineEnds ls)
    | _ => .error (refuse (l :: ls))

/-- The head of a loop over words: the name, and perhaps the words. -/
def parseLoopHead (ls : List Lexeme) : ParsedNodes := do
  let (name, ls) ← expectWord ls
  match ls with
  | l :: rest =>
    if isOperator .semicolon l then return ([name, .reserved l], skipLineEnds rest)
    else
      match skipLineEnds (l :: rest) with
      | i :: rest =>
        if isReserved .in_ i then parseLoopWords [name, .reserved i] rest
        else return ([name], i :: rest)
      | [] => return ([name], [])
  | [] => .error .incomplete

mutual

/-- A list inside a construct, as one node: pipelines with separators, line ends among them, up to a
lexeme with which no command can begin. A last separator belongs to the list unless it is a line end
after a single pipeline. -/
def parseList : Nat → List Lexeme → ParsedNode
  | 0, _ => .error .incomplete
  | fuel + 1, ls => do
    let (nodes, rest) ← parseItems fuel [] (skipLineEnds ls)
    return (listNode nodes, rest)

/-- The rest of such a list, a pipeline next. -/
def parseItems : Nat → List Node → List Lexeme → ParsedNodes
  | 0, _, _ => .error .incomplete
  | fuel + 1, read, ls => do
    let (node, ls) ← parsePipeline fuel ls
    let read := read ++ [node]
    match ls with
    | [] => return (read, [])
    | l :: rest =>
      let after := skipLineEnds rest
      let more := after.head?.any canBegin
      match l.kind with
      | .operator .doubleAmpersand | .operator .doubleBar =>
        parseItems fuel (read ++ [.leaf .operator l]) after
      | .operator .ampersand | .operator .semicolon =>
        if more then parseItems fuel (read ++ [.leaf .operator l]) after
        else return (read ++ [.leaf .operator l], after)
      | .lineEnd =>
        if more then parseItems fuel (read ++ [.leaf .operator l]) after
        else return (if read.length = 1 then read else read ++ [.leaf .operator l], after)
      | _ => return (read, l :: rest)

/-- A pipeline, perhaps negated or timed. -/
def parsePipeline : Nat → List Lexeme → ParsedNode
  | 0, _ => .error .incomplete
  | _, [] => .error .incomplete
  | fuel + 1, l :: ls =>
    match reserved? l with
    | some .time => .error (checkTimed ls)
    | some .bang =>
      match ls with
      | [] => .error .incomplete
      | next :: _ =>
        if next.kind = .lineEnd || next.kind = .operator .semicolon then .ok (.reserved l, ls)
        else do
          let (node, rest) ← parsePipeline fuel ls
          let parts := if node.kind = .pipeline then node.children else [node]
          return (.spanning .pipeline (.reserved l :: parts), rest)
    | _ => do
      let (commands, rest) ← parseCommands fuel (l :: ls)
      return (match commands with
        | [command] => command
        | _ => .spanning .pipeline commands, rest)

/-- The commands of a pipeline with the pipes between them. -/
def parseCommands : Nat → List Lexeme → ParsedNodes
  | 0, _ => .error .incomplete
  | fuel + 1, ls => do
    let (command, ls) ← parseCommand fuel ls
    match ls with
    | l :: rest =>
      if isOperator .bar l || isOperator .barAmpersand l then do
        let (commands, rest) ← parseCommands fuel (skipLineEnds rest)
        return (command :: .leaf .pipe l :: commands, rest)
      else return ([command], ls)
    | [] => return ([command], [])

def parseCommand : Nat → List Lexeme → ParsedNode
  | 0, _ => .error .incomplete
  | _, [] => .error .incomplete
  | fuel + 1, l :: ls =>
    match reserved? l with
    | some .function => do
      let (name, ls) ← expectWord ls
      let (parens, ls) ← parseParens ls
      let (body, ls) ← parseCompound fuel (skipLineEnds ls)
      return (.spanning .function (.reserved l :: name :: (parens ++ [body])), ls)
    | some .coproc =>
      match ls with
      | next :: _ =>
        if (reserved? next).isSome || isOperator .openParen next then
          match parseCompound fuel ls with
          | .ok _ => .error .unsupported
          | .error e => .error e
        else if canBegin next then
          match parseSimple true {} ls with
          | .ok _ => .error .unsupported
          | .error e => .error e
        else .error (refuse ls)
      | [] => .error .incomplete
    | some .time => do
      let (parts, rest) ← parseSimple true {} (l :: ls)
      return (.spanning .command parts, rest)
    | some _ => parseCompound fuel (l :: ls)
    | none =>
      if isOperator .openParen l then parseCompound fuel (l :: ls)
      else if !canBegin l then .error (refuse (l :: ls))
      else match l.kind, ls with
        | .word _, p :: rest =>
          if isOperator .openParen p then do
            let (close, rest) ← expectOperator .closeParen rest
            let (body, rest) ← parseCompound fuel (skipLineEnds rest)
            return (.spanning .function [.ofWord .word l, .reserved p, close, body], rest)
          else do
            let (parts, rest) ← parseSimple true {} (l :: ls)
            return (.spanning .command parts, rest)
        | _, _ => do
          let (parts, rest) ← parseSimple true {} (l :: ls)
          return (.spanning .command parts, rest)

/-- A compound command and the redirections after it. -/
def parseCompound : Nat → List Lexeme → ParsedNode
  | 0, _ => .error .incomplete
  | _, [] => .error .incomplete
  | fuel + 1, l :: ls => do
    let (node, ls) ← parseConstruct fuel l ls
    let (redirects, ls) ← parseSimple false {} ls
    return (match redirects.getLast? with
      | some last => .mk .compound none node.start last.stop node.children
      | none => node, ls)

/-- The construct that a lexeme begins. -/
def parseConstruct : Nat → Lexeme → List Lexeme → ParsedNode
  | 0, _, _ => .error .incomplete
  | fuel + 1, l, ls =>
    if isOperator .openParen l then do
      let (list, ls) ← parseList fuel ls
      let (close, ls) ← expectOperator .closeParen ls
      return (.spanning .compound [.reserved l, list, close], ls)
    else match reserved? l with
      | some .openBrace => do
        let (list, ls) ← parseList fuel ls
        let (close, ls) ← expect .closeBrace ls
        return (.spanning .compound [.reserved l, list, close], ls)
      | some .if_ => do
        let (parts, ls) ← parseConditional fuel l ls
        return (compoundOf .conditional parts, ls)
      | some .while_ => do
        let (condition, ls) ← parseList fuel ls
        let (body, ls) ← parseBody fuel ls
        return (compoundOf .whileLoop (.reserved l :: condition :: body), ls)
      | some .until_ => do
        let (condition, ls) ← parseList fuel ls
        let (body, ls) ← parseBody fuel ls
        return (compoundOf .untilLoop (.reserved l :: condition :: body), ls)
      | some .for_ => do
        let (head, ls) ← parseLoopHead ls
        let (body, ls) ← parseBody fuel ls
        return (compoundOf .forLoop (.reserved l :: (head ++ body)), ls)
      | some .select => do
        let (_, ls) ← parseLoopHead ls
        let _ ← parseBody fuel ls
        .error .unsupported
      | some .case => do
        let (_, ls) ← expectWord ls
        let (_, ls) ← expect .in_ (skipLineEnds ls)
        match skipLineEnds ls with
        | next :: rest =>
          if isReserved .esac next then
            -- A construct is recognised only at a lexeme that can come after it.
            if rest.head?.any canFollow then .error .unsupported else .error (refuse rest)
          else if isOperator .openParen next then .error .unsupported
          else do
            let (_, rest) ← expectWord (next :: rest)
            match rest with
            | p :: _ =>
              if isOperator .closeParen p || isOperator .bar p then .error .unsupported
              else .error (refuse rest)
            | [] => .error .incomplete
        | [] => .error .incomplete
      | _ => .error (refuse (l :: ls))

/-- The parts of a conditional after its first word. -/
def parseConditional : Nat → Lexeme → List Lexeme → ParsedNodes
  | 0, _, _ => .error .incomplete
  | fuel + 1, l, ls => do
    let (condition, ls) ← parseList fuel ls
    let (then_, ls) ← expect .then_ ls
    let (yes, ls) ← parseList fuel ls
    let parts := [.reserved l, condition, then_, yes]
    match ls with
    | next :: rest =>
      match reserved? next with
      | some .fi => return (parts ++ [.reserved next], rest)
      | some .else_ => do
        let (no, rest) ← parseList fuel rest
        let (fi, rest) ← expect .fi rest
        return (parts ++ [.reserved next, no, fi], rest)
      | some .elif => do
        let (others, rest) ← parseConditional fuel next rest
        return (parts ++ others, rest)
      | _ => .error (refuse ls)
    | [] => .error .incomplete

/-- The body of a loop. -/
def parseBody : Nat → List Lexeme → ParsedNodes
  | 0, _ => .error .incomplete
  | fuel + 1, ls =>
    match ls with
    | l :: rest =>
      if isReserved .openBrace l then do
        let (list, rest) ← parseList fuel rest
        let (close, rest) ← expect .closeBrace rest
        return ([.reserved l, list, close], rest)
      else do
        let (do_, rest) ← expect .do_ ls
        let (list, rest) ← parseList fuel rest
        let (done, rest) ← expect .done rest
        return ([do_, list, done], rest)
    | [] => .error .incomplete

end

/-- How often the mutual definitions may call each other between two lexemes. -/
def fuelFor (ls : List Lexeme) : Nat := 8 * (ls.length + 2)

/-- The pipelines of one line. A separator may end it; a line end has to. -/
def parseLine : Nat → List Node → List Lexeme → ParsedNodes
  | 0, _, _ => .error .incomplete
  | fuel + 1, read, ls => do
    let (node, ls) ← parsePipeline (fuelFor ls) ls
    let read := read ++ [node]
    match ls with
    | [] => .error .incomplete
    | l :: rest =>
      match l.kind with
      | .lineEnd => return (read, rest)
      | .operator .doubleAmpersand | .operator .doubleBar =>
        parseLine fuel (read ++ [.leaf .operator l]) (skipLineEnds rest)
      | .operator .ampersand | .operator .semicolon =>
        match rest with
        | next :: others =>
          if next.kind = .lineEnd then return (read ++ [.leaf .operator l], others)
          else parseLine fuel (read ++ [.leaf .operator l]) rest
        | [] => .error .incomplete
      | _ => .error (refuse ls)

/-- An error with the place where reading of the lines last began anew. -/
structure Located where
  error : CommandError
  origin : Nat
  deriving DecidableEq, Repr

/-- Reads lines up to the end of the source. -/
def parseLines : Nat → Nat → List Node → List Lexeme → Except Located (List Node)
  | 0, origin, _, _ => .error ⟨.incomplete, origin⟩
  | fuel + 1, origin, read, ls =>
    match skipLineEnds ls with
    | [] => .ok read
    | l :: rest =>
      if l.kind = .sourceEnd then .ok read
      else match parseLine (rest.length + 2) [] (l :: rest) with
        | .error e => .error ⟨e, origin⟩
        | .ok (nodes, rest) =>
          let node := listNode nodes
          parseLines fuel (node.stop + 1) (read ++ [node]) rest

/-- Positions count from where reading last began anew. -/
def ParseError.ofLocated (source : Text) (e : Located) : ParseError :=
  match e.error with
  | .unsupported => .foreign ⟨"NotImplementedError", .other, []⟩
  | .unexpected l =>
    .syntaxError ("unexpected token " ++ Text.literal l.text) (l.start - e.origin)
  | .incomplete => .syntaxError "unexpected EOF" (source.length - e.origin - 1)
  | .unmatched closing =>
    .syntaxError ("unexpected EOF while looking for matching " ++ Text.literal [closing])
      ((closedLine source).length - e.origin - 1)

/-- A parser for the common part of the language. A source without any command makes it fail. -/
def builtIn : Parser := fun source =>
  let ls := lexemes source
  match parseLines (ls.length + 1) 0 [] ls with
  | .error e => .error (.ofLocated source e)
  | .ok [] => .error (.foreign ⟨"AttributeError", .other, []⟩)
  | .ok nodes => .ok nodes

end ShellWords.Shell
