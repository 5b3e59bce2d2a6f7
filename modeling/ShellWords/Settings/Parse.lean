import ShellWords.Settings.Basic
import ShellWords.Text.Lines
import ShellWords.Text.LowerCase
import ShellWords.Token.Reader

/-!
Settings files. Each line is cut into words by the standard shell rules, whatever the file sets; a
line without words says nothing, any other sets one thing. Nothing reaches over a line, and the last
line that sets a thing counts. An error names its line, unless it is that a home directory is
unknown.
-/
namespace ShellWords

/-- What is wrong with one line. -/
inductive LineFault
  | unreadable (e : ReadError)
  | unknownDirective (directive : Text)
  | settingMissing
  | tooManyValues (key : Text)
  | valueNotTaken (key : Text)
  | valueMissing (key : Text)
  | pathMissing (key : Text)
  | unknownSetting (key : Text)
  /-- A path asks for the home of a user whose name cannot be looked up. -/
  | nulCharacter
  deriving DecidableEq, Repr

def LineFault.message : LineFault → Text
  | unreadable e => e.message id
  | unknownDirective directive => "unknown directive '" ++ directive ++ "'"
  | settingMissing => "'set' requires a setting name"
  | tooManyValues key => "'" ++ key ++ "' takes at most one value"
  | valueNotTaken key => "'" ++ key ++ "' takes no value"
  | valueMissing key => "'" ++ key ++ "' requires a value"
  | pathMissing key => "'" ++ key ++ "' requires a path"
  | unknownSetting key => "unknown setting '" ++ key ++ "'"
  | nulCharacter => HomeFault.nulCharacter.message

inductive SettingsError
  | line (number : Nat) (fault : LineFault)
  | homeUnknown
  deriving DecidableEq, Repr

def SettingsError.message : SettingsError → Text
  | line number fault => "line " ++ Text.ofNat number ++ ": " ++ fault.message
  | homeUnknown => HomeFault.unknown.message

namespace Settings

/-- What one line can end in; the number of the line is added later. -/
inductive LineError
  | fault (fault : LineFault)
  | homeUnknown

def LineError.ofHome : HomeFault → LineError
  | .unknown => homeUnknown
  | .nulCharacter => fault .nulCharacter

def LineError.at (number : Nat) : LineError → SettingsError
  | fault cause => .line number cause
  | homeUnknown => .homeUnknown

def pathOf (homes : Homes) (value : Text) : Except LineError Path :=
  ((Path.ofText value).expandHome homes).mapError .ofHome

/-- Sets one thing. The key is the name as it appears in complaints. -/
def assign (homes : Homes) (s : Settings) (key : Text) (value : Option Text) :
    Except LineError Settings :=
  match Setting.ofName? key, value with
  -- An unknown name is the complaint whatever value it is given.
  | none, _ => .error (.fault (.unknownSetting key))
  | some .logFull, none => .ok { s with logFull := true }
  | some .verbose, none => .ok { s with verbose := true }
  | some .logFull, some _ | some .verbose, some _ => .error (.fault (.valueNotTaken key))
  | some .commentChars, some value => .ok { s with commentChars := some value }
  | some .escapeChars, some value => .ok { s with escapeChars := some value }
  | some .commentChars, none | some .escapeChars, none => .error (.fault (.valueMissing key))
  | some .log, some value => (pathOf homes value).map fun path => { s with log := some path }
  | some .localeDir, some value =>
    (pathOf homes value).map fun path => { s with localeDir := some path }
  | some .log, none | some .localeDir, none => .error (.fault (.pathMissing key))

/-- Directive and key are read without regard to case. -/
def applyWords (homes : Homes) (s : Settings) : List Text → Except LineError Settings
  | [] => .ok s
  | directive :: arguments =>
    if Text.lowercase directive ≠ "set".toList then
      .error (.fault (.unknownDirective (Text.lowercase directive)))
    else match arguments with
      | [] => .error (.fault .settingMissing)
      | [key] => assign homes s (Text.lowercase key) none
      | [key, value] => assign homes s (Text.lowercase key) (some value)
      | key :: _ => .error (.fault (.tooManyValues (Text.lowercase key)))

def applyLine (homes : Homes) (s : Settings) (line : Text) : Except LineError Settings :=
  match Text.split line with
  | .ok words => applyWords homes s words
  | .error e => .error (.fault (.unreadable e))

/-- The first line given has the first number given. -/
def applyLines (homes : Homes) (s : Settings) (number : Nat) :
    List Text → Except SettingsError Settings
  | [] => .ok s
  | line :: lines =>
    match applyLine homes s line with
    | .ok s => applyLines homes s (number + 1) lines
    | .error e => .error (e.at number)

def parse (homes : Homes) (t : Text) : Except SettingsError Settings :=
  applyLines homes {} 1 (Text.splitLines t)

end Settings

end ShellWords
