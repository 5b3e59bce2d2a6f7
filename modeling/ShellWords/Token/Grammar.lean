import ShellWords.Token.Basic
import ShellWords.CharClass

/-!
The grammar of token streams. A text is a row of blanks, comments and words, and a word is a row of
segments, each of which stands for some characters. The judgments relate a text to what it stands
for and say nothing about how it is read.
-/
namespace ShellWords

def Classifier.classOf (k : Classifier) (c : Char) : CharClass := k.classify [c]

/-- What may stand between two escaping quotes, and what it stands for. -/
inductive QuotedBody (k : Classifier) : Text → Text → Prop
  | empty : QuotedBody k [] []
  | plain {c : Char} {body value : Text} :
      k.classOf c ≠ .escapingQuote → k.classOf c ≠ .escape → QuotedBody k body value →
      QuotedBody k (c :: body) (c :: value)
  | escaped {e c : Char} {body value : Text} :
      k.classOf e = .escape → QuotedBody k body value →
      QuotedBody k (e :: c :: body) (c :: value)

/-- Part of a word, and what it stands for. A character that begins comments is plain everywhere
but in the first segment. -/
inductive Segment (k : Classifier) (first : Bool) : Text → Text → Prop
  | plain {c : Char} : k.classOf c = .word → Segment k first [c] [c]
  | mark {c : Char} : first = false → k.classOf c = .comment → Segment k first [c] [c]
  | escaped {e c : Char} : k.classOf e = .escape → Segment k first [e, c] [c]
  | quoted {q q' : Char} {body value : Text} :
      k.classOf q = .escapingQuote → QuotedBody k body value → k.classOf q' = .escapingQuote →
      Segment k first (q :: (body ++ [q'])) value
  | raw {q q' : Char} {body : Text} :
      k.classOf q = .nonEscapingQuote → (∀ c ∈ body, k.classOf c ≠ .nonEscapingQuote) →
      k.classOf q' = .nonEscapingQuote → Segment k first (q :: (body ++ [q'])) body

/-- The segments after the first one. -/
inductive Segments (k : Classifier) : Text → Text → Prop
  | empty : Segments k [] []
  | cons {source value sources values : Text} :
      Segment k false source value → Segments k sources values →
      Segments k (source ++ sources) (value ++ values)

/-- A word, and what it stands for. -/
inductive WordSource (k : Classifier) : Text → Text → Prop
  | segments {source value sources values : Text} :
      Segment k true source value → Segments k sources values →
      WordSource k (source ++ sources) (value ++ values)

/-- A text, and its tokens. A word ends before a blank, a comment at the end of its line. -/
inductive TokenStream (k : Classifier) : Text → List Token → Prop
  | empty : TokenStream k [] []
  | blank {c : Char} {rest : Text} {tokens : List Token} :
      k.classOf c = .space → TokenStream k rest tokens → TokenStream k (c :: rest) tokens
  | comment {m : Char} {body rest : Text} {tokens : List Token} :
      k.classOf m = .comment → '\n' ∉ body → TokenStream k rest tokens →
      TokenStream k (m :: (body ++ '\n' :: rest)) (⟨.comment, body⟩ :: tokens)
  | lastComment {m : Char} {body : Text} :
      k.classOf m = .comment → '\n' ∉ body → TokenStream k (m :: body) [⟨.comment, body⟩]
  | word {source value rest : Text} {c : Char} {tokens : List Token} :
      WordSource k source value → k.classOf c = .space → TokenStream k rest tokens →
      TokenStream k (source ++ c :: rest) (⟨.word, value⟩ :: tokens)
  | lastWord {source value : Text} :
      WordSource k source value → TokenStream k source [⟨.word, value⟩]

end ShellWords
