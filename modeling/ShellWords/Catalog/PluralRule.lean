import ShellWords.Text.Letter

/-!
Plural rules: which form of a message goes with a number. A rule is an expression over the number,
with the operators of C and their ranks, but for the negation sign: one in front of an operand of
`&&`, `||` or of a whole expression negates the comparison that follows up to where a second
comparison begins, and in front of any other operand it has no meaning. Division rounds down.
-/
namespace ShellWords

inductive PluralOp
  | or
  | and
  | equal
  | unequal
  | less
  | greater
  | lessEqual
  | greaterEqual
  | plus
  | minus
  | times
  | divide
  | remainder
  deriving DecidableEq, Repr

namespace PluralOp

/-- The ranks, the loosest lowest. -/
def rank : PluralOp → Nat
  | or => 1
  | and => 2
  | equal | unequal => 3
  | less | greater | lessEqual | greaterEqual => 4
  | plus | minus => 5
  | times | divide | remainder => 6

def symbols : List (String × PluralOp) :=
  [("||", or), ("&&", and), ("==", equal), ("!=", unequal), ("<", less), (">", greater),
   ("<=", lessEqual), (">=", greaterEqual), ("+", plus), ("-", minus), ("*", times),
   ("/", divide), ("%", remainder)]

def ofText? (t : Text) : Option PluralOp := symbols.lookup (String.ofList t)

def isComparison (op : PluralOp) : Bool := op.rank == 3 || op.rank == 4

end PluralOp

inductive PluralRule
  | number (value : Nat)
  | count
  | not (e : PluralRule)
  | binary (op : PluralOp) (left right : PluralRule)
  | choice (condition yes no : PluralRule)
  deriving DecidableEq, Repr

/-- A division by zero. -/
inductive PluralFault
  | division
  | remainder
  deriving DecidableEq, Repr

def PluralFault.message : PluralFault → Text
  | division => "integer division or modulo by zero"
  | remainder => "integer modulo by zero"

namespace PluralRule

/-- Two forms, the first for one thing only. -/
def standard : PluralRule := .binary .unequal .count (.number 1)

def truth (b : Bool) : Int := if b then 1 else 0

def combine (op : PluralOp) (a b : Int) : Except PluralFault Int :=
  match op with
  | .or => .ok (if a = 0 then b else a)
  | .and => .ok (if a = 0 then a else b)
  | .equal => .ok (truth (a = b))
  | .unequal => .ok (truth (a ≠ b))
  | .less => .ok (truth (a < b))
  | .greater => .ok (truth (b < a))
  | .lessEqual => .ok (truth (a ≤ b))
  | .greaterEqual => .ok (truth (b ≤ a))
  | .plus => .ok (a + b)
  | .minus => .ok (a - b)
  | .times => .ok (a * b)
  | .divide => if b = 0 then .error .division else .ok (a.fdiv b)
  | .remainder => if b = 0 then .error .remainder else .ok (a.fmod b)

/-- Whether the left operand alone decides the value. -/
def decided (op : PluralOp) (a : Int) : Bool :=
  (op = .or && a ≠ 0) || (op = .and && a = 0)

/-- The form for a number. What is not needed for the value is not evaluated. -/
def form (n : Int) : PluralRule → Except PluralFault Int
  | number value => .ok value
  | count => .ok n
  | not e => (e.form n).map fun a => truth (a = 0)
  | binary op left right =>
    match left.form n with
    | .error fault => .error fault
    | .ok a =>
      if decided op a then .ok a
      else match right.form n with
        | .error fault => .error fault
        | .ok b => combine op a b
  | choice condition yes no =>
    match condition.form n with
    | .error fault => .error fault
    | .ok a => if a = 0 then no.form n else yes.form n

end PluralRule

/-- Why a text is no plural rule. -/
inductive PluralError
  | tooLong
  | tooComplex
  | invalidToken (token : Text)
  | unexpectedToken (token : Text)
  | unexpectedEnd
  | unbalanced
  | misplacedNegation
  deriving DecidableEq, Repr

def PluralError.message : PluralError → Text
  | tooLong => "plural form expression is too long"
  | tooComplex => "plural form expression is too complex"
  | invalidToken token => "invalid token in plural form: " ++ token
  | unexpectedToken token => "unexpected token in plural form: " ++ token
  | unexpectedEnd => "unexpected end of plural form"
  | unbalanced => "unbalanced parenthesis in plural form"
  | misplacedNegation => "invalid syntax (<string>, line 5)"

namespace PluralRule

inductive Token
  | known (t : Text)
  | invalid (t : Text)
  deriving DecidableEq, Repr

def isWordChar (c : Char) : Bool := Text.isLetter c || Text.isNumeral c || c = '_'

/-- A run of letters and numerals is a token only if it is a number or the letter `n`. -/
def wordToken (word : Text) : Token :=
  if word.all Char.isDigit || word = ['n'] then .known word else .invalid word

/-- The word characters at hand are given last one first. -/
def flush (word : Text) (tokens : List Token) : List Token :=
  if word.isEmpty then tokens else wordToken word.reverse :: tokens

/-- What a character that is in no word contributes on its own. -/
def symbolToken (c : Char) : List Token :=
  if c = ' ' ∨ c = '\t' then []
  else if "()-*/%+?:><!".toList.contains c then [.known [c]]
  else [.invalid [c]]

def isSymbolPair (c d : Char) : Bool :=
  [('>', '='), ('<', '='), ('!', '='), ('=', '='), ('&', '&'), ('|', '|')].contains (c, d)

def tokensFrom (word : Text) : Text → List Token
  | [] => flush word []
  | [c] => if isWordChar c then flush (c :: word) [] else flush word (symbolToken c)
  | c :: d :: rest =>
    if isWordChar c then tokensFrom (c :: word) (d :: rest)
    else if isSymbolPair c d then flush word (.known [c, d] :: tokensFrom [] rest)
    else flush word (symbolToken c ++ tokensFrom [] (d :: rest))

/-- A part of a rule that has been read: its negations not yet applied, how deep its parentheses
nest, whether it is a choice, and whether a negation stands where it has no meaning. -/
structure Part where
  negations : Nat
  rule : PluralRule
  depth : Nat := 0
  isChoice : Bool := false
  misplaced : Bool := false

namespace Part

/-- The rule with its negations. -/
def whole (p : Part) : PluralRule := p.negations.repeat .not p.rule

def sealed (p : Part) : Part := { p with negations := 0, rule := p.whole }

def enclosed (p : Part) : Part := { p.sealed with depth := p.depth + 1 }

def join (op : PluralOp) (left right : Part) : Part :=
  let depth := max left.depth right.depth
  let misplaced := left.misplaced || right.misplaced
  if op.rank ≤ 2 then
    ⟨0, .binary op left.whole right.whole, depth, false, misplaced⟩
  else
    ⟨left.negations, .binary op left.rule right.rule, depth, false,
      misplaced || right.negations ≠ 0⟩

end Part

/-- The next token, which is empty at the end, and what follows it. -/
def advance : List Token → Except PluralError (Text × List Token)
  | [] => .ok ([], [])
  | .known t :: rest => .ok (t, rest)
  | .invalid t :: _ => .error (.invalidToken t)

def unexpected (token : Text) : PluralError :=
  if token.isEmpty then .unexpectedEnd else .unexpectedToken token

/-- The number of negation signs, the token after them, and what follows it. -/
def negations (signs : Nat) (token : Text) (rest : List Token) :
    Except PluralError (Nat × Text × List Token) :=
  if token ≠ ['!'] then .ok (signs, token, rest)
  else match rest with
    | [] => .ok (signs + 1, [], [])
    | .known t :: rest => negations (signs + 1) t rest
    | .invalid t :: _ => .error (.invalidToken t)

/-- A part with the token that follows it, and the rest. -/
abbrev Parsed := Except PluralError (Part × Text × List Token)

/-- The value of a run of digits. -/
def numberOf (digits : Text) : Nat := digits.foldl (fun n c => n * 10 + (c.toNat - '0'.toNat)) 0

mutual

/-- Reads a part whose operators are of the given rank at least; rank zero admits a choice. The fuel
bounds the calls, each of which reads a token. -/
def parsePart : Nat → Nat → List Token → Parsed
  | 0, _, _ => .error .tooComplex
  | fuel + 1, rank, tokens => do
    let (token, rest) ← advance tokens
    let (signs, token, rest) ← negations 0 token rest
    let part : Part × List Token ←
      if token = ['('] then do
        let (inner, token, rest) ← parsePart fuel 0 rest
        if token = [')'] then
          .ok (⟨signs, inner.whole, inner.depth + 1, false, inner.misplaced⟩, rest)
        else .error .unbalanced
      else if token = ['n'] then .ok (⟨signs, .count, 0, false, false⟩, rest)
      else if !token.isEmpty && token.all Char.isDigit then
        .ok (⟨signs, .number (numberOf token), 0, false, false⟩, rest)
      else .error (unexpected token)
    let (token, rest) ← advance part.2
    let (whole, token, rest) ← parseOperators fuel rank 100 part.1 token rest
    if token = ['?'] ∧ rank = 0 then do
      let (yes, token, rest) ← parsePart fuel 0 rest
      if token ≠ [':'] then .error (unexpected token)
      else
        let (no, token, rest) ← parsePart fuel 0 rest
        let yesDepth := if yes.isChoice then yes.depth + 1 else yes.depth
        let depth := max (max yesDepth whole.depth) no.depth
        .ok (⟨0, .choice whole.whole yes.whole no.whole, depth, true,
          whole.misplaced || yes.misplaced || no.misplaced⟩, token, rest)
    else .ok (whole, token, rest)

/-- Reads on after a part: operators of the given rank at least, each with its right operand. A
second comparison takes the first one as a whole. -/
def parseOperators : Nat → Nat → Nat → Part → Text → List Token → Parsed
  | 0, _, _, _, _, _ => .error .tooComplex
  | fuel + 1, rank, last, left, token, rest =>
    let done : Parsed := .ok (if last = 4 ∧ rank = 4 then left.enclosed else left, token, rest)
    match PluralOp.ofText? token with
    | none => done
    | some op =>
      if op.rank < rank then done
      else do
        let left := if op.isComparison && (last == 3 || last == 4) then left.enclosed else left
        let (right, token, rest) ← parsePart fuel (op.rank + 1) rest
        parseOperators fuel rank op.rank (left.join op right) token rest

end

/-- How deep parentheses may nest, those of repeated comparisons and inner choices included. -/
def depthLimit : Nat := 20

def parse (t : Text) : Except PluralError PluralRule :=
  if 1000 < t.length then .error .tooLong
  else do
    let tokens := tokensFrom [] t
    let (part, token, _) ← parsePart (2 * tokens.length + 2) 0 tokens
    if !token.isEmpty then .error (unexpected token)
    else if depthLimit < part.depth then .error .tooComplex
    else if part.misplaced then .error .misplacedNegation
    else .ok part.whole

end PluralRule

end ShellWords
