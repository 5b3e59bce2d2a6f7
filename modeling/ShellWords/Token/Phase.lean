import ShellWords.CharClass
import ShellWords.Token.Basic

/-!
The machine behind the reader. Quotes do not nest, so seven phases describe how far a token has
been read. The class of a unit decides whether it is dropped, kept, or ends the token; the
characters that open a quoted or escaped run do so in the middle of a word as well.
-/
namespace ShellWords

inductive Phase
  | start
  | inWord
  | escaping
  | quoted
  | quotedEscape
  | rawQuoted
  | comment
  deriving DecidableEq, Repr

inductive Step
  | skip (next : Phase)
  | keep (next : Phase)
  | emit (kind : TokenKind)
  deriving DecidableEq, Repr

namespace Phase

/-- The phase that a character of this class opens; every run closes back into the word. -/
def opened? : CharClass → Option Phase
  | .escapingQuote => some quoted
  | .nonEscapingQuote => some rawQuoted
  | .escape => some escaping
  | _ => none

/-- Only a line feed that comes as a unit of its own ends a comment, whatever its class. -/
def step (phase : Phase) (cls : CharClass) (unit : Text) : Step :=
  match phase with
  | start =>
    match cls with
    | .space => .skip start
    | .comment => .skip comment
    | _ => match opened? cls with
      | some run => .skip run
      | none => .keep inWord
  | inWord =>
    -- A comment begins only where no word has begun.
    match cls with
    | .space => .emit .word
    | _ => match opened? cls with
      | some run => .skip run
      | none => .keep inWord
  | escaping => .keep inWord
  | quoted =>
    -- Any character of the class closes, not only the one that opened.
    match cls with
    | .escapingQuote => .skip inWord
    | .escape => .skip quotedEscape
    | _ => .keep quoted
  | quotedEscape => .keep quoted
  | rawQuoted =>
    match cls with
    | .nonEscapingQuote => .skip inWord
    | _ => .keep rawQuoted
  | comment => if unit = ['\n'] then .emit .comment else .keep comment

/-- What the end of the input makes of the token at hand. -/
def atEnd : Phase → Except LexError (Option TokenKind)
  | start => .ok none
  | inWord => .ok (some .word)
  | comment => .ok (some .comment)
  | escaping | quotedEscape => .error .escapeAtEnd
  | quoted | rawQuoted => .error .quoteOpen

end Phase

end ShellWords
