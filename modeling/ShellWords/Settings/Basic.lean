import ShellWords.CharClass
import ShellWords.Path

/-!
Settings: where to log and how much, which characters comment and escape, and where the message
catalogs are. What is unset has a default of its own.
-/
namespace ShellWords

structure Settings where
  log : Option Path := none
  logFull : Bool := false
  verbose : Bool := false
  commentChars : Option Text := none
  escapeChars : Option Text := none
  localeDir : Option Path := none
  /-- The last file that settings were read from. -/
  source : Option Text := none
  deriving DecidableEq, Repr

namespace Settings

/-- The standard classes with the configured characters in place of the standard ones. -/
def classifier (s : Settings) : Classifier :=
  ({} : Classifier).replace { comments := s.commentChars, escapes := s.escapeChars }

/-- What the second settings leave unset is as in the first. -/
def merge (base overlay : Settings) : Settings where
  log := overlay.log <|> base.log
  logFull := overlay.logFull || base.logFull
  verbose := overlay.verbose || base.verbose
  commentChars := overlay.commentChars <|> base.commentChars
  escapeChars := overlay.escapeChars <|> base.escapeChars
  localeDir := overlay.localeDir <|> base.localeDir
  source := overlay.source <|> base.source

end Settings

/-- The names that can be set. -/
inductive Setting
  | log
  | logFull
  | verbose
  | commentChars
  | escapeChars
  | localeDir
  deriving DecidableEq, Repr

namespace Setting

def all : List Setting := [log, logFull, verbose, commentChars, escapeChars, localeDir]

def name : Setting → Text
  | log => "log"
  | logFull => "log-full"
  | verbose => "verbose"
  | commentChars => "comment-chars"
  | escapeChars => "escape-chars"
  | localeDir => "locale-dir"

/-- In a name, a hyphen and an underscore are the same. -/
def ofName? (name : Text) : Option Setting :=
  all.find? fun setting => setting.name = name.map fun c => if c = '_' then '-' else c

end Setting

end ShellWords
