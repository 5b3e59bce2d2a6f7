import ShellWords.Text.Letter
import ShellWords.Text.Literal

/-!
Program arguments. A parser knows some options, none of which takes a value, and at most one
positional argument; that of the main parser is a command with a parser of its own. Options and
positionals may mix: a positional takes what it can from the first run of plain arguments that it
meets. What nobody takes is refused, but only when nothing else is wrong.
-/
namespace ShellWords.Arguments

inductive OptionAction
  | help
  | version
  | flag
  deriving DecidableEq, Repr

structure OptionSpec where
  /-- The ways to write it, a short one first. -/
  spellings : List Text
  action : OptionAction
  about : Text
  deriving Repr

def OptionSpec.label (o : OptionSpec) : Text := List.intercalate ['/'] o.spellings

/-- How many arguments a positional takes. -/
inductive Arity
  | one
  | optional
  | many
  /-- A command and everything after it. -/
  | command
  deriving DecidableEq, Repr

structure Positional where
  name : Text
  arity : Arity
  about : Text
  deriving Repr

structure Parser where
  program : Text
  usage : Text
  help : Text
  options : List OptionSpec
  positional : Option Positional
  deriving Repr

/-- How parsing can end early: a text is asked for, or the arguments are refused. -/
inductive Stop
  | shown (text : Text)
  | refused (complaint : Text)
  deriving DecidableEq, Repr

/-- A refusal shows the usage of the parser that found fault. -/
def Parser.refuse (p : Parser) (fault : Text) : Stop :=
  .refused ("usage: " ++ p.usage ++ "\n" ++ p.program ++ ": error: " ++ fault ++ "\n")

def Parser.refuseOption (p : Parser) (o : OptionSpec) (value : Text) : Stop :=
  p.refuse ("argument " ++ o.label ++ ": ignored explicit argument " ++ Text.literal value)

/-- What an argument is to a parser. -/
inductive Role
  | plain
  /-- The two hyphens after which everything is plain. -/
  | separator
  | unknownOption
  /-- An option as it is spelled in full, with a value if one is attached. -/
  | known (o : OptionSpec) (spelling : Text) (value : Option Text)

def Role.isOption : Role → Bool
  | unknownOption | known _ _ _ => true
  | _ => false

structure Argument where
  text : Text
  role : Role

/-- All spellings with their options. -/
def Parser.spellings (p : Parser) : List (Text × OptionSpec) :=
  p.options.flatMap fun o => o.spellings.map fun s => (s, o)

/-- A negative number is no option, in whatever script its digits are. A line feed may follow it. -/
def isNegativeNumber (t : Text) : Bool :=
  match t with
  | '-' :: rest =>
    let digits := if rest.getLast? = some '\n' then rest.dropLast else rest
    let others := digits.dropWhile Text.isDigit
    let fraction := others.drop 1
    (!digits.isEmpty && others.isEmpty) ||
      (others.head? = some '.' && !fraction.isEmpty && fraction.all Text.isDigit)
  | _ => false

/-- The options that an argument may abbreviate or, in the short form, begin with. -/
def Parser.candidates (p : Parser) (t : Text) : List (Text × OptionSpec × Option Text) :=
  if ['-', '-'].isPrefixOf t then
    let (start, value) := Text.cut '=' t
    p.spellings.filterMap fun (s, o) => if start.isPrefixOf s then some (s, o, value) else none
  else
    p.spellings.filterMap fun (s, o) =>
      if s = t.take 2 then some (s, o, some (t.drop 2))
      else if t.isPrefixOf s then some (s, o, none)
      else none

/-- The role of an argument that no separator comes before. -/
def Parser.role (p : Parser) (t : Text) : Except Stop Role :=
  if t.head? ≠ some '-' then .ok .plain
  else match p.spellings.lookup t with
    | some o => .ok (.known o t none)
    | none =>
      if t.length = 1 then .ok .plain
      else
        let (start, value) := Text.cut '=' t
        match value, p.spellings.lookup start with
        | some value, some o => .ok (.known o start (some value))
        | _, _ =>
          match p.candidates t with
          | [(s, o, value)] => .ok (.known o s value)
          | [] => .ok (if isNegativeNumber t || t.contains ' ' then .plain else .unknownOption)
          | several => .error (p.refuse ("ambiguous option: " ++ t ++ " could match "
              ++ List.intercalate [',', ' '] (several.map (·.1))))

/-- Gives each argument its role. -/
def Parser.roles (p : Parser) : List Text → Except Stop (List Argument)
  | [] => .ok []
  | t :: rest =>
    if t = ['-', '-'] then .ok (⟨t, .separator⟩ :: rest.map fun u => ⟨u, .plain⟩)
    else match p.role t with
      | .error stop => .error stop
      | .ok role => (p.roles rest).map fun others => ⟨t, role⟩ :: others

/-- What parsing has found: values of the positional once it has been met, flags, and what is left
over. -/
structure Found where
  values : Option (List Text) := none
  flags : List Text := []
  extras : List Text := []
  deriving DecidableEq, Repr

/-- How many of the arguments a positional takes, if it can take them. -/
def Arity.takes (arity : Arity) (arguments : List Argument) : Option Nat :=
  let isSeparator (a : Argument) : Bool := a.role matches .separator
  let isPlain (a : Argument) : Bool := a.role matches .plain
  let leading := (arguments.takeWhile isSeparator).length
  let others := arguments.drop leading
  let trailing := ((others.drop 1).takeWhile isSeparator).length
  let begins : Bool := others.head?.any isPlain
  match arity with
  | .one => if begins then some (leading + 1 + trailing) else none
  | .optional => some (if begins then leading + 1 + trailing else leading)
  | .many => some (arguments.takeWhile fun a => !a.role.isOption).length
  | .command => if begins then some arguments.length else none

/-- The texts that count as values: the first separator does not, unless it is for a command. -/
def Arity.values (arity : Arity) (taken : List Argument) : List Text :=
  let texts := taken.map (·.text)
  if arity = .command then texts else texts.erase ['-', '-']

/-- Lets the positional take what it can, once. -/
def Parser.takePositional (p : Parser) (found : Found) (arguments : List Argument) :
    Found × List Argument :=
  match p.positional, found.values with
  | some positional, none =>
    match positional.arity.takes arguments with
    | some n =>
      ({ found with values := some (positional.arity.values (arguments.take n)) },
        arguments.drop n)
    | none => (found, arguments)
  | _, _ => (found, arguments)

/-- The option that is left with letters which are no short options, if any are. -/
def Parser.refusing? (p : Parser) (o : OptionSpec) : Text → Option (OptionSpec × Text)
  | [] => none
  | c :: rest => match p.spellings.lookup ['-', c] with
    | some next => p.refusing? next rest
    | none => some (o, c :: rest)

/-- Acts on an option. No option takes a value, but the letters after a short one may be short
options themselves. -/
def Parser.takeOption (p : Parser) (version : Text) (o : OptionSpec) (spelling : Text)
    (value : Option Text) (found : Found) : Except Stop Found :=
  let refused? : Option (OptionSpec × Text) := match value with
    | none => none
    | some value =>
      if ['-', '-'].isPrefixOf spelling || value.isEmpty then some (o, value)
      else p.refusing? o value
  match refused? with
  | some (o, value) => .error (p.refuseOption o value)
  | none => match o.action with
    | .help => .error (.shown p.help)
    | .version => .error (.shown version)
    | .flag => .ok { found with flags := found.flags ++ [o.label] }

/-- Takes the arguments in turn. Before an option, the positional gets its chance at the plain
arguments in front of it; what it leaves there is left over. -/
def Parser.consume (p : Parser) (version : Text) : Nat → Found → List Argument → Except Stop Found
  | 0, found, _ => .ok found
  | fuel + 1, found, arguments =>
    if !arguments.any (·.role.isOption) then
      let (found, rest) := p.takePositional found arguments
      .ok { found with extras := found.extras ++ rest.map (·.text) }
    else match arguments with
      | [] => .ok found
      | a :: rest =>
        match a.role with
        | .unknownOption =>
          p.consume version fuel { found with extras := found.extras ++ [a.text] } rest
        | .known o spelling value =>
          match p.takeOption version o spelling value found with
          | .ok found => p.consume version fuel found rest
          | .error stop => .error stop
        | _ =>
          let (found, left) := p.takePositional found arguments
          if left.length < arguments.length then p.consume version fuel found left
          else
            let skipped := arguments.takeWhile fun a => !a.role.isOption
            p.consume version fuel
              { found with extras := found.extras ++ skipped.map (·.text) }
              (arguments.drop skipped.length)

/-- What a parser finds in its arguments. A positional that must be there and is not is refused. -/
def Parser.find (p : Parser) (version : Text) (texts : List Text) : Except Stop Found := do
  let arguments ← p.roles texts
  let found ← p.consume version (arguments.length + 1) {} arguments
  match p.positional, found.values with
  | some positional, none =>
    .error (p.refuse ("the following arguments are required: " ++ positional.name))
  | _, _ => .ok found

end ShellWords.Arguments
