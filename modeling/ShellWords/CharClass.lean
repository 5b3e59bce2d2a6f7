import ShellWords.Text.Basic

/-!
Character classes. What a character does to a word depends only on its class, and which characters
are in a class can be configured. A stream may hand out several characters as one unit; a unit is in
a class if the class holds it as a contiguous part. The empty unit is the end of the input.
-/
namespace ShellWords

inductive CharClass
  | word
  | space
  | escapingQuote
  | nonEscapingQuote
  | escape
  | comment
  | endOfInput
  deriving DecidableEq, Repr

/-- The characters of each class. A character listed twice is in the first class that lists it. -/
structure Classifier where
  whitespace : Text := [' ', '\t', '\r', '\n']
  escapingQuotes : Text := ['"']
  nonEscapingQuotes : Text := ['\'']
  escapes : Text := ['\\']
  comments : Text := ['#']
  deriving DecidableEq, Repr

namespace Classifier

def classify (k : Classifier) (unit : Text) : CharClass :=
  if unit.isEmpty then .endOfInput
  else if Text.holds k.whitespace unit then .space
  else if Text.holds k.escapingQuotes unit then .escapingQuote
  else if Text.holds k.nonEscapingQuotes unit then .nonEscapingQuote
  else if Text.holds k.escapes unit then .escape
  else if Text.holds k.comments unit then .comment
  else .word

/-- New character sets for some of the classes. -/
structure Changes where
  whitespace : Option Text := none
  escapingQuotes : Option Text := none
  nonEscapingQuotes : Option Text := none
  escapes : Option Text := none
  comments : Option Text := none

def replace (k : Classifier) (changes : Changes) : Classifier where
  whitespace := changes.whitespace.getD k.whitespace
  escapingQuotes := changes.escapingQuotes.getD k.escapingQuotes
  nonEscapingQuotes := changes.nonEscapingQuotes.getD k.nonEscapingQuotes
  escapes := changes.escapes.getD k.escapes
  comments := changes.comments.getD k.comments

end Classifier

end ShellWords
