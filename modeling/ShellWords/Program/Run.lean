import ShellWords.Program.Command
import ShellWords.Program.Failure
import ShellWords.Shell.BuiltIn.Command
import ShellWords.Shell.SimpleCommand

/-!
A run of the program, as a function of the files, the environment, the standard input and the
arguments. Settings are loaded, the log is opened, the message catalogs are found, and the command
is carried out. Every command prints one JSON object; malformed input and trouble with its files are
printed as one, too, and make the status 1. Faulty settings make it 2, unless trouble with files
keeps them from being read. That and any other failure, and any while the log is opened or the
catalogs are loaded, ends the run without a status.
-/
namespace ShellWords

/-- The libraries that a run uses. Where a statement needs more of one than that it is used, it says
so. -/
structure Libraries where
  writer : LogWriter := .standard
  codecs : Codecs := .builtIn
  /-- Whether a catalog words the singular of a counted message. -/
  singularCounts : Bool := true
  parser : Shell.Parser := Shell.builtIn

/-- What a run depends on and may change. -/
structure World where
  tree : FileTree
  cwd : Location
  /-- Why the system cannot tell the working directory, if it cannot. -/
  cwdFault? : Option FileFault := none
  environment : Environment
  /-- The home of the user, and those of others, in the database of users. -/
  ownHome? : Option Text := none
  homeOf? : Text → Option Text := fun _ => none
  /-- The settings file of the user. -/
  userFile : Text
  /-- Where catalogs are looked for unless the settings tell. -/
  systemCatalogs : Text
  kernelLineFile : Text
  uuidFile : Text
  libraries : Libraries := {}
  log : EventLog := {}

namespace World

/-- What a tilde stands for. -/
def homes (w : World) : Homes := ⟨w.environment.lookup "HOME".toList, w.ownHome?, w.homeOf?⟩

def surroundings (w : World) : Settings.Surroundings :=
  ⟨w.cwd, w.homes, w.userFile, w.environment⟩

/-- The settings in force in the working directory. -/
def settings (w : World) : Except Failure Settings :=
  match w.cwdFault? with
  | some fault => .error (.file ⟨fault, none⟩)
  | none => (Settings.load w.tree w.surroundings w.cwd.path).mapError .ofLoad

/-- The domain of the message catalogs. -/
def domain : Text := "shellsplit"

def catalogDirectory (w : World) (s : Settings) : Text :=
  (s.localeDir.map Path.text).getD w.systemCatalogs

/-- The catalogs for the messages under some settings. -/
def catalogs (w : World) (s : Settings) : Except CatalogError (List Catalog) :=
  Catalog.load w.libraries.codecs w.tree w.cwd (w.catalogDirectory s) domain
    (Locale.languages (w.environment.lookup ·))

/-- The wording of a message. -/
def translate (w : World) (catalogs : List Catalog) (message : Text) : Except PluralFault Text :=
  Catalog.translate w.libraries.singularCounts catalogs message

end World

/-- How a run ends. -/
inductive Ending
  | status (code : Nat)
  | failed (f : Failure)
  deriving DecidableEq, Repr

structure Report where
  ending : Ending
  output : Text := []
  errors : Text := []
  deriving DecidableEq, Repr

namespace Command

/-- What carrying out a command needs of a run. -/
structure Context where
  world : World
  settings : Settings
  input : Bytes

/-- An answer, and the event to be logged. -/
structure Outcome where
  answer : Json
  event : Event

def textOr (c : Context) : Option Text → Except Failure Text
  | some t => .ok t
  | none => (textOfBytes c.input).mapError .undecodable

def tokenJson (t : Token) : Json :=
  .obj [("kind", .str t.kind.name), ("value", .str t.value)]

def textsJson (ts : List Text) : Json := .arr (ts.map .str)

def count (items : List α) : Json := .int items.length

/-- The answer of a command, or why there is none. -/
def answer (c : Context) : Command → Except Failure Outcome
  | split text => do
    let t ← textOr c text
    let words ← (Text.split t c.settings.classifier).mapError .read
    return ⟨.obj [("words", textsJson words)],
      { name := "split", input := some t, fields := [("words", count words)] }⟩
  | tokens text => do
    let t ← textOr c text
    let tokens ← ((Stream.ofText t).tokens c.settings.classifier).all.mapError .read
    return ⟨.obj [("tokens", .arr (tokens.map tokenJson))],
      { name := "tokens", input := some t, fields := [("tokens", count tokens)] }⟩
  | join words verify => do
    let command := Text.joinQuoted words
    let verified ←
      if verify then
        ((Shell.verifyJoin c.world.libraries.parser words).mapError .foreign).map fun b =>
          [("verified".toList, Json.bool b)]
      else .ok []
    return ⟨.obj (("command", .str command) :: verified),
      { name := "join", input := some command, fields := [("words", count words)] }⟩
  | quote text =>
    .ok ⟨.obj [("quoted", .str (Text.quote text))], { name := "quote", input := some text }⟩
  | kernelLine _ true => do
    let arguments ← (Kernel.commandLine c.world.tree c.world.cwd c.world.kernelLineFile).mapError
      Failure.ofKernel
    return ⟨.obj [("args", textsJson arguments)],
      { name := "cmdline", fields := [("source", .str "proc"), ("args", count arguments)] }⟩
  | kernelLine text false => do
    let t ← textOr c text
    let arguments ← (KernelLine.split t).mapError .quoting
    return ⟨.obj [("args", textsJson arguments)],
      { name := "cmdline", input := some t, fields := [("args", count arguments)] }⟩
  | uuid => do
    let id ← (Kernel.uuid c.world.tree c.world.cwd c.world.uuidFile).mapError Failure.ofTextFile
    return ⟨.obj [("uuid", .str id)],
      { name := "uuid", level := .debug, fields := [("uuid", .str id)] }⟩

end Command

namespace World

/-- Logs an event; the world afterwards. -/
def record (w : World) (now : Text) (e : Event) : Except Failure World :=
  match w.log.record w.libraries.writer w.tree now e with
  | .ok tree => .ok { w with tree }
  | .error e => .error (.logClosed e)

/-- The event and the answer for a failure that is one. -/
def failureOutcome (command : Command) (f : Failure) (message : Text) : Command.Outcome :=
  ⟨.obj [("error", .str message), ("kind", .str f.name)],
    { name := "error", level := .error,
      fields := [("command", .str command.name), ("kind", .str f.name), ("error", .str message)] }⟩

/-- Prints an answer after logging its event. -/
def conclude (w : World) (now : Text) (status : Nat) (outcome : Command.Outcome) :
    World × Report :=
  match w.record now outcome.event with
  | .ok w => (w, ⟨.status status, outcome.answer.render ++ ['\n'], []⟩)
  | .error f => (w, ⟨.failed f, [], []⟩)

/-- Carries out a command once the log is open. -/
def carryOut (w : World) (now : Text) (s : Settings) (input : Bytes) (command : Command) :
    World × Report :=
  match w.catalogs s with
  | .error e => (w, ⟨.failed (.catalog e), [], []⟩)
  | .ok catalogs =>
    match command.answer ⟨w, s, input⟩ with
    | .ok outcome => w.conclude now 0 outcome
    | .error f =>
      match f.message (w.translate catalogs) with
      | .error fault => (w, ⟨.failed (.plural fault), [], []⟩)
      | .ok message =>
        -- Only these failures are answers; any other one is not caught.
        if f.family = .other then (w, ⟨.failed f, [], []⟩)
        else w.conclude now 1 (failureOutcome command f message)

/-- Runs a command that the arguments ask for. -/
def runCommand (w : World) (now : Text) (input : Bytes) (command : Command) : World × Report :=
  match w.settings with
  | .error f =>
    if f.family = .value then
      (w, ⟨.status 2, [], "shellsplit: config error: " ++ f.text ++ "\n"⟩)
    else (w, ⟨.failed f, [], []⟩)
  | .ok settings =>
    let configured := w.log.configure w.tree w.cwd settings
    -- Directories made for the log stay, even if it cannot be opened.
    let w := { w with tree := configured.tree, log := configured.log }
    match configured.failure with
    | some e => (w, ⟨.failed (.file e), [], []⟩)
    | none => w.carryOut now settings input command

def run (w : World) (now : Text) (input : Bytes) (arguments : List Text) : World × Report :=
  match Command.ofArguments arguments with
  | .error (.shown text) => (w, ⟨.status 0, text, []⟩)
  | .error (.refused complaint) => (w, ⟨.status 2, [], complaint⟩)
  | .ok command => w.runCommand now input command

end World

end ShellWords
