import ShellWords.Program.Arguments

/-!
The commands of the program, and how they are asked for on the command line.
-/
namespace ShellWords

/-- A command with its arguments. A text that is not given is read from standard input. -/
inductive Command
  | split (text : Option Text)
  | tokens (text : Option Text)
  | join (words : List Text) (verify : Bool)
  | quote (text : Text)
  | kernelLine (text : Option Text) (fromKernel : Bool)
  | uuid
  deriving DecidableEq, Repr

namespace Command

def name : Command → Text
  | split _ => "split"
  | tokens _ => "tokens"
  | join _ _ => "join"
  | quote _ => "quote"
  | kernelLine _ _ => "cmdline"
  | uuid => "uuid"

open Arguments

def programName : Text := "shellsplit"

def version : Text := "0.1.0\n"

def blanks (n : Nat) : Text := List.replicate n ' '

/-- A row of a help text; the explanation begins in the given column. -/
def row (indent column : Nat) (name about : Text) : Text :=
  blanks indent ++ Text.padRight (column - indent) name ++ about ++ ['\n']

def titled (title : Text) (rows : List Text) : Text :=
  '\n' :: (title ++ ":\n" ++ rows.flatten)

def helpOption : OptionSpec := ⟨["-h", "--help"], .help, "show this help message and exit"⟩

def OptionSpec.row (column : Nat) (o : OptionSpec) : Text :=
  Command.row 2 column (List.intercalate [',', ' '] o.spellings) o.about

/-- The parser of one command: its own options besides the one for help, and its positional. -/
def subparser (command usage : Text) (options : List OptionSpec) (positional : Option Positional) :
    Parser :=
  let program := programName ++ ' ' :: command
  let options := helpOption :: options
  let usage := program ++ ' ' :: usage
  let positionals := match positional with
    | some p => titled "positional arguments" [row 2 14 p.name p.about]
    | none => []
  { program, usage, options, positional
    help := "usage: " ++ usage ++ "\n" ++ positionals
      ++ titled "options" (options.map (OptionSpec.row 14)) }

/-- The commands by name, with what they are for and their parsers. -/
def subparsers : List (Text × Text × Parser) :=
  let text (arity : Arity) (about : Text) : Option Positional := some ⟨"text", arity, about⟩
  [("split", "Split text into words",
      subparser "split" "[-h] [text]" [] (text .optional "Text to split (default: stdin)")),
   ("tokens", "Show words and comments",
      subparser "tokens" "[-h] [text]" [] (text .optional "Text to tokenize (default: stdin)")),
   ("join", "Quote and join words",
      subparser "join" "[-h] [--verify] [words ...]"
        [⟨["--verify"], .flag, "Check the result with bashlex"⟩]
        (some ⟨"words", .many, "Words to join"⟩)),
   ("quote", "Quote a single string",
      subparser "quote" "[-h] text" [] (text .one "String to quote")),
   ("cmdline", "Split a kernel command line",
      subparser "cmdline" "[-h] [--proc] [text]"
        [⟨["--proc"], .flag, "Read the running kernel's /proc/cmdline"⟩]
        (text .optional "Command line (default: stdin)")),
   ("uuid", "Print a kernel-generated UUID", subparser "uuid" "[-h]" [] none)]

def mainParser : Parser :=
  let names := List.intercalate [','] (subparsers.map (·.1))
  let usage : Text := programName ++ " [-h] [--version] \x7b" ++ names ++ "\x7d ..."
  let options : List OptionSpec :=
    [helpOption, ⟨["--version"], .version, "show program's version number and exit"⟩]
  { program := programName, usage, options
    positional := some ⟨"command", .command, []⟩
    help := "usage: " ++ usage ++ "\n\nShell-style word splitting and quoting\n"
      ++ titled "positional arguments"
        (("  \x7b" ++ names ++ "\x7d\n") ::
          subparsers.map fun (name, about, _) => row 4 24 name about)
      ++ titled "options" (options.map (OptionSpec.row 24)) }

/-- The command of a name, from what its parser has found. -/
def ofFound? (name : Text) (found : Found) : Option Command :=
  let values := found.values.getD []
  let flagged := !found.flags.isEmpty
  match String.ofList name with
  | "split" => some (split values.head?)
  | "tokens" => some (tokens values.head?)
  | "join" => some (join values flagged)
  | "quote" => some (quote (values.head?.getD []))
  | "cmdline" => some (kernelLine values.head? flagged)
  | "uuid" => some uuid
  | _ => none

/-- The complaint about a name that no command has. -/
def unknownCommand (name : Text) : Stop :=
  mainParser.refuse ("argument command: invalid choice: " ++ Text.literal name ++ " (choose from "
    ++ List.intercalate [',', ' '] (subparsers.map fun s => Text.literal s.1) ++ ")")

/-- The command that the arguments ask for. What is left over is refused last. -/
def ofArguments (arguments : List Text) : Except Stop Command := do
  let chosen ← mainParser.find version arguments
  match chosen.values.getD [] with
  | [] => .error (unknownCommand [])
  | name :: others =>
    match subparsers.lookup name with
    | none => .error (unknownCommand name)
    | some (_, parser) =>
      let found ← parser.find version others
      match chosen.extras ++ found.extras, ofFound? name found with
      | [], some command => .ok command
      | extras, _ =>
        .error (mainParser.refuse ("unrecognized arguments: " ++ List.intercalate [' '] extras))

end Command

end ShellWords
