import Mathlib.Data.List.TakeWhile
import ShellWords.Program.Command

/-!
# Arguments after a separator

Two hyphens on their own separate the options from arguments that may look like options. The main
parser hands the separator on to the parser of the command (`ofArguments_separated`), and that one
takes all words behind it as they are, other separators too.
-/
namespace ShellWords

namespace Arguments

/-- The argument after which nothing is an option. -/
def separator : Text := ['-', '-']

/-- What a separator and the words behind it are to any parser. -/
def separated (words : List Text) : List Argument :=
  ⟨separator, .separator⟩ :: words.map fun w => ⟨w, .plain⟩

namespace Parser

variable {p : Parser}

private theorem roles_separator (p : Parser) (words : List Text) :
    p.roles (separator :: words) = .ok (separated words) := by
  rw [separated, separator, roles, if_pos rfl]

private theorem roles_of_head {t : Text} {words : List Text} {arguments : List Argument}
    (head : t.head? ≠ some '-') (roles : p.roles words = .ok arguments) :
    p.roles (t :: words) = .ok (⟨t, .plain⟩ :: arguments) := by
  have other : t ≠ ['-', '-'] := by
    rintro rfl
    exact head rfl
  rw [Parser.roles, if_neg other, role, if_pos head]
  dsimp only
  rw [roles]
  rfl

/-- Without options, the positional takes what it can, and what it leaves is left over. -/
private theorem find_of_no_option (version : Text) {positional : Positional} {words : List Text}
    {arguments : List Argument} {n : Nat} (expects : p.positional = some positional)
    (roles : p.roles words = .ok arguments) (noOption : ∀ a ∈ arguments, ¬ a.role.isOption)
    (takes : positional.arity.takes arguments = some n) :
    p.find version words = .ok { values := some (positional.arity.values (arguments.take n)),
                                 extras := (arguments.drop n).map (·.text) } := by
  have none : arguments.any (·.role.isOption) = false := by
    rw [List.any_eq_false]
    exact noOption
  have taken : p.takePositional {} arguments =
      ({ values := some (positional.arity.values (arguments.take n)) }, arguments.drop n) := by
    rw [takePositional, expects]
    dsimp only
    rw [takes]
  -- The first step is the last one, since no option is left to walk to.
  simp [find, roles, bind, Except.bind, consume, none, taken, expects]

private theorem not_isOption_of_separated (words : List Text) :
    ∀ a ∈ separated words, ¬ a.role.isOption := by
  simp [separated, Role.isOption]

/-- A positional for any number of words takes all of them. -/
private theorem find_separated_many (version : Text) (words : List Text) {positional : Positional}
    (expects : p.positional = some positional) (many : positional.arity = .many) :
    p.find version (separator :: words) = .ok { values := some words } := by
  have takes : positional.arity.takes (separated words) = some (words.length + 1) := by
    rw [many, Arity.takes, List.takeWhile_eq_self_iff.mpr]
    · simp [separated]
    · simpa using not_isOption_of_separated words
  rw [find_of_no_option version expects (roles_separator p words)
    (not_isOption_of_separated words) takes]
  -- Of the separators only the first one is dropped.
  simp [Arity.values, many, separated, separator, List.take_of_length_le, Function.comp_def]

/-- A positional for at most one word takes a single one. -/
private theorem find_separated_optional (version word : Text) {positional : Positional}
    (expects : p.positional = some positional) (optional : positional.arity = .optional) :
    p.find version [separator, word] = .ok { values := some [word] } := by
  have takes : positional.arity.takes (separated [word]) = some 2 := by
    rw [optional]
    simp [Arity.takes, separated]
  rw [find_of_no_option version expects (roles_separator p [word])
    (not_isOption_of_separated [word]) takes]
  simp [Arity.values, optional, separated, separator]

/-- A command takes everything after its name, and the separator with it. -/
private theorem find_separated_command (version : Text) {name : Text} (words : List Text)
    {positional : Positional} (expects : p.positional = some positional)
    (command : positional.arity = .command) (head : name.head? ≠ some '-') :
    p.find version (name :: separator :: words) =
      .ok { values := some (name :: separator :: words) } := by
  have roles := roles_of_head head (roles_separator p words)
  have noOption : ∀ a ∈ ⟨name, .plain⟩ :: separated words, ¬ a.role.isOption :=
    List.forall_mem_cons.mpr ⟨by simp [Role.isOption], not_isOption_of_separated words⟩
  have takes : positional.arity.takes (⟨name, .plain⟩ :: separated words) =
      some (words.length + 2) := by
    rw [command]
    simp [Arity.takes, separated]
  rw [find_of_no_option version expects roles noOption takes]
  simp [Arity.values, command, separated, List.take_of_length_le, Function.comp_def]

end Parser

end Arguments

namespace Command

open Arguments

/-- The main parser leaves what is separated to the parser of the command. -/
theorem ofArguments_separated {name about : Text} {parser : Parser} (words : List Text)
    (known : subparsers.lookup name = some (about, parser)) (head : name.head? ≠ some '-')
    {values : List Text} (found : parser.find version (separator :: words) =
      .ok { values := some values }) {command : Command}
    (asked : ofFound? name { values := some values } = some command) :
    ofArguments (name :: separator :: words) = .ok command := by
  have chosen := Parser.find_separated_command (p := mainParser) version words rfl rfl head
  simp [ofArguments, chosen, known, found, asked, bind, Except.bind]

theorem ofArguments_join (words : List Text) :
    ofArguments ("join" :: separator :: words) = .ok (join words false) :=
  ofArguments_separated words rfl (by decide)
    (Parser.find_separated_many version words rfl rfl) rfl

theorem ofArguments_split (text : Text) :
    ofArguments ["split", separator, text] = .ok (split (some text)) :=
  ofArguments_separated [text] rfl (by decide)
    (Parser.find_separated_optional version text rfl rfl) rfl

end Command

end ShellWords
