import ShellWords.Text.Blank

/-!
Kernel command lines. An argument is a name, optionally with an equals sign and a value, and a
value may stand in double quotes as a whole. Quotes stay in the argument; there are no escapes and
no comments.
-/
namespace ShellWords

inductive QuotingError
  | unbalanced
  | unexpected
  deriving DecidableEq, Repr

def QuotingError.message : QuotingError → Text
  | unbalanced => "unbalanced quoting"
  | unexpected => "unexpected quoting"

namespace KernelLine

/-- Where in an argument a character is met. -/
inductive Place
  | between
  | name
  | assign
  | value
  | quoted
  | closed
  deriving DecidableEq, Repr

/-- The place after a character, or none if the character ends the argument. -/
def Place.next (place : Place) (c : Char) : Except QuotingError (Option Place) :=
  match place with
  | between | name | value =>
    -- A quote opens only right after the equals sign.
    if c = '"' then .error .unexpected
    else if Text.isBlank c then .ok none
    else match place with
      -- The first character is part of the name even if it is an equals sign.
      | between => .ok (some name)
      | name => .ok (some (if c = '=' then assign else name))
      | _ => .ok (some value)
  | assign =>
    if Text.isBlank c then .ok none
    else .ok (some (if c = '"' then quoted else value))
  | quoted => .ok (some (if c = '"' then closed else quoted))
  | closed => if Text.isBlank c then .ok none else .error .unexpected

/-- The argument at hand is given last character first. -/
def splitFrom (place : Place) (argument : Text) : Text → Except QuotingError (List Text)
  | [] =>
    if place = .quoted then .error .unbalanced
    else .ok (if argument.isEmpty then [] else [argument.reverse])
  | c :: rest =>
    match place.next c with
    | .error e => .error e
    | .ok (some next) => splitFrom next (c :: argument) rest
    | .ok none =>
      if place = .between then splitFrom .between [] rest
      else match splitFrom .between [] rest with
        | .ok arguments => .ok (argument.reverse :: arguments)
        | .error e => .error e

def split (line : Text) : Except QuotingError (List Text) := splitFrom .between [] line

end KernelLine

end ShellWords
