import ShellWords.Quote
import ShellWords.Settings.Basic

/-!
Writing settings. Each thing that is set becomes a line of its own, which sets it again when it is
read. Names may be spelled with hyphens or with underscores.
-/
namespace ShellWords

/-- The two ways to write a name. -/
def Setting.spellings (setting : Setting) : List Text :=
  [setting.name, setting.name.map fun c => if c = '-' then '_' else c]

namespace Settings

/-- The words of the line that sets one thing, if it is set. -/
def assignment? (s : Settings) (spelling : Setting → Text) (setting : Setting) :
    Option (List Text) :=
  let line (value : Text) : List Text := ["set", spelling setting, value]
  let flag (on : Bool) : Option (List Text) := if on then some ["set", spelling setting] else none
  match setting with
  | .log => s.log.map fun path => line path.text
  | .logFull => flag s.logFull
  | .verbose => flag s.verbose
  | .commentChars => s.commentChars.map line
  | .escapeChars => s.escapeChars.map line
  | .localeDir => s.localeDir.map fun path => line path.text

/-- The text that sets what is set, in the order of the given names. -/
def write (s : Settings) (spelling : Setting → Text) (order : List Setting) : Text :=
  List.intercalate ['\n'] ((order.filterMap (s.assignment? spelling)).map Text.joinQuoted)

end Settings

end ShellWords
