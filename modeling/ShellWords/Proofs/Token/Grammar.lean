import Mathlib.Tactic.SplitIfs
import ShellWords.Proofs.Token.Run

/-!
# Tokens and their grammar

A text has tokens if and only if the grammar derives it, and then they are what it derives.
Completeness follows the derivation: each part of it moves the machine on by what it stands for.
Soundness goes back through the text: `Completes` says for each phase what the rest of a text has to
be, given the characters kept of the token at hand, and every step keeps it.
-/
namespace ShellWords

variable {k : Classifier}

namespace Classifier

/-- A character is in the first class that lists it. -/
theorem classOf_eq (k : Classifier) (c : Char) : k.classOf c =
    if c ∈ k.whitespace then .space
    else if c ∈ k.escapingQuotes then .escapingQuote
    else if c ∈ k.nonEscapingQuotes then .nonEscapingQuote
    else if c ∈ k.escapes then .escape
    else if c ∈ k.comments then .comment
    else .word := by
  simp only [classOf, classify, List.isEmpty_cons, Bool.false_eq_true, if_false,
    Text.holds_singleton_iff]

/-- Only the empty unit is the end of the input. -/
private theorem classOf_ne_endOfInput (k : Classifier) (c : Char) : k.classOf c ≠ .endOfInput := by
  rw [classOf_eq]
  split_ifs <;> simp

end Classifier

namespace Phase

/-- The phase that a segment is met in. -/
def beforeSegment (first : Bool) : Phase := if first then start else inWord

/-- Whether a segment has begun and not ended yet. -/
def inSegment : Phase → Bool
  | escaping | quoted | quotedEscape | rawQuoted => true
  | start | inWord | comment => false

/-- Whether a word has begun. -/
def isWithinWord (phase : Phase) : Bool := phase.inSegment || phase = inWord

/-! ### Single steps -/

section Step

variable {cls : CharClass} {unit : Text} {phase next : Phase} {kind : TokenKind}

private theorem step_opened (first : Bool) (opens : opened? cls = some next) :
    (beforeSegment first).step cls unit = .skip next := by
  cases first <;> cases cls <;> simp_all [beforeSegment, step, opened?]

private theorem step_quoted_plain (notQuote : cls ≠ .escapingQuote) (notEscape : cls ≠ .escape) :
    quoted.step cls unit = .keep quoted := by
  cases cls <;> simp_all [step]

private theorem step_rawQuoted_plain (notQuote : cls ≠ .nonEscapingQuote) :
    rawQuoted.step cls unit = .keep rawQuoted := by
  cases cls <;> simp_all [step]

private theorem step_comment_plain (notBreak : unit ≠ ['\n']) :
    comment.step cls unit = .keep comment := by
  simp [step, notBreak]

private theorem start_skip (step : start.step cls unit = .skip next) :
    (cls = .space ∧ next = start) ∨ (cls = .comment ∧ next = comment) ∨
      opened? cls = some next := by
  cases cls <;> cases step <;> simp [opened?]

private theorem start_keep (step : start.step cls unit = .keep next) :
    next = inWord ∧ (cls = .word ∨ cls = .endOfInput) := by
  cases cls <;> cases step <;> simp

theorem inWord_skip (step : inWord.step cls unit = .skip next) : opened? cls = some next := by
  cases cls <;> cases step <;> rfl

theorem inWord_keep (step : inWord.step cls unit = .keep next) :
    next = inWord ∧ (cls = .word ∨ cls = .comment ∨ cls = .endOfInput) := by
  cases cls <;> cases step <;> simp

private theorem quoted_skip (step : quoted.step cls unit = .skip next) :
    (cls = .escapingQuote ∧ next = inWord) ∨ (cls = .escape ∧ next = quotedEscape) := by
  cases cls <;> cases step <;> simp

private theorem quoted_keep (step : quoted.step cls unit = .keep next) :
    next = quoted ∧ cls ≠ .escapingQuote ∧ cls ≠ .escape := by
  cases cls <;> cases step <;> simp

private theorem rawQuoted_skip (step : rawQuoted.step cls unit = .skip next) :
    cls = .nonEscapingQuote ∧ next = inWord := by
  cases cls <;> cases step
  exact ⟨rfl, rfl⟩

private theorem rawQuoted_keep (step : rawQuoted.step cls unit = .keep next) :
    next = rawQuoted ∧ cls ≠ .nonEscapingQuote := by
  cases cls <;> cases step <;> simp

private theorem comment_keep (step : comment.step cls unit = .keep next) :
    next = comment ∧ unit ≠ ['\n'] := by
  simp only [Phase.step] at step
  split at step <;> cases step
  exact ⟨rfl, by assumption⟩

private theorem comment_ne_skip : comment.step cls unit ≠ .skip next := by
  simp only [step]
  split <;> simp

/-- A token ends at a blank outside quotes or, if it is a comment, at the end of its line. -/
theorem emit_cases (step : phase.step cls unit = .emit kind) :
    (phase = inWord ∧ kind = .word ∧ cls = .space) ∨
    (phase = comment ∧ kind = .comment ∧ unit = ['\n']) := by
  cases phase with
  | comment =>
    simp only [Phase.step] at step
    split at step <;> cases step
    exact .inr ⟨rfl, rfl, by assumption⟩
  | escaping | quotedEscape => cases step
  | start | inWord | quoted | rawQuoted => cases cls <;> cases step <;> simp

/-- The machine starts afresh only where no token has begun. -/
theorem eq_start_of_skip (step : phase.step cls unit = .skip start) : phase = start := by
  cases phase with
  | start => rfl
  | comment => exact absurd step comment_ne_skip
  | escaping | quotedEscape => cases step
  | inWord | quoted | rawQuoted => cases cls <;> cases step

theorem ne_start_of_keep (step : phase.step cls unit = .keep next) : next ≠ start := by
  cases phase with
  | comment => exact (comment_keep step).1 ▸ nofun
  | escaping | quotedEscape => cases step; simp
  | start | inWord | quoted | rawQuoted => cases cls <;> cases step <;> simp

private theorem isWithinWord_opened (opens : opened? cls = some next) :
    next.isWithinWord = true := by
  cases cls <;> cases opens <;> rfl

private theorem isWithinWord_skip (inside : phase.inSegment = true)
    (step : phase.step cls unit = .skip next) : next.isWithinWord = true := by
  cases phase with
  | start | inWord | comment => cases inside
  | escaping | quotedEscape => cases step
  | quoted | rawQuoted => cases cls <;> cases step <;> rfl

private theorem isWithinWord_keep (inside : phase.inSegment = true)
    (step : phase.step cls unit = .keep next) : next.isWithinWord = true := by
  cases phase with
  | start | inWord | comment => cases inside
  | escaping | quotedEscape => cases step; rfl
  | quoted | rawQuoted => cases cls <;> cases step <;> rfl

end Step

/-! ### Completeness -/

private theorem run_quotedBody {body value : Text} (derived : QuotedBody k body value)
    (read t : Text) :
    quoted.run k read (body ++ t) = quoted.run k (value.reverse ++ read) t := by
  induction derived generalizing read with
  | empty => rfl
  | plain notQuote notEscape _ ih =>
    rw [List.cons_append, run_keep (step_quoted_plain notQuote notEscape), ih]
    simp
  | @escaped e c body value escape _ ih =>
    have opens : quoted.step (k.classOf e) [e] = .skip quotedEscape := by rw [escape]; rfl
    rw [List.cons_append, List.cons_append, run_skip opens, run_keep rfl, ih]
    simp

/-- A phase that keeps a character and stays as it is keeps a body of such characters. -/
private theorem run_body {phase : Phase} (body read t : Text)
    (stays : ∀ c ∈ body, phase.step (k.classOf c) [c] = .keep phase) :
    phase.run k read (body ++ t) = phase.run k (body.reverse ++ read) t := by
  induction body generalizing read with
  | nil => rfl
  | cons c body ih =>
    obtain ⟨first, others⟩ := List.forall_mem_cons.mp stays
    rw [List.cons_append, run_keep first, ih _ others]
    simp

private theorem run_rawBody (body read t : Text)
    (raw : ∀ c ∈ body, k.classOf c ≠ .nonEscapingQuote) :
    rawQuoted.run k read (body ++ t) = rawQuoted.run k (body.reverse ++ read) t :=
  run_body body read t fun c member => step_rawQuoted_plain (raw c member)

private theorem run_commentBody (body read t : Text) (line : '\n' ∉ body) :
    comment.run k read (body ++ t) = comment.run k (body.reverse ++ read) t := by
  apply run_body
  intro c member
  apply step_comment_plain
  rintro ⟨rfl⟩
  exact line member

/-- Reading a segment keeps what the segment stands for. -/
theorem run_segment {first : Bool} {source value : Text} (derived : Segment k first source value)
    (read t : Text) :
    (beforeSegment first).run k read (source ++ t) = inWord.run k (value.reverse ++ read) t := by
  -- Plain characters are kept where the machine stands. The other segments open a phase of their
  -- own, keep what they stand for in it, and come back to the word.
  cases derived with
  | @plain c word =>
    have keep : (beforeSegment first).step (k.classOf c) [c] = .keep inWord := by
      rw [word]; cases first <;> rfl
    rw [List.singleton_append, run_keep keep]
    rfl
  | @mark c later mark =>
    have keep : (beforeSegment first).step (k.classOf c) [c] = .keep inWord := by
      rw [later, mark]; rfl
    rw [List.singleton_append, run_keep keep]
    rfl
  | @escaped e c escape =>
    have opens : opened? (k.classOf e) = some escaping := by rw [escape]; rfl
    rw [List.cons_append, run_skip (step_opened first opens), List.singleton_append, run_keep rfl]
    rfl
  | @quoted q q' body value quote derived quote' =>
    have opens : opened? (k.classOf q) = some quoted := by rw [quote]; rfl
    have closes : quoted.step (k.classOf q') [q'] = .skip inWord := by rw [quote']; rfl
    rw [List.cons_append, run_skip (step_opened first opens), List.append_assoc,
      run_quotedBody derived, List.singleton_append, run_skip closes]
  | @raw q q' body quote raw quote' =>
    have opens : opened? (k.classOf q) = some rawQuoted := by rw [quote]; rfl
    have closes : rawQuoted.step (k.classOf q') [q'] = .skip inWord := by rw [quote']; rfl
    rw [List.cons_append, run_skip (step_opened first opens), List.append_assoc,
      run_rawBody _ _ _ raw, List.singleton_append, run_skip closes]

theorem run_segments {source value : Text} (derived : Segments k source value) (read t : Text) :
    inWord.run k read (source ++ t) = inWord.run k (value.reverse ++ read) t := by
  induction derived generalizing read with
  | empty => rfl
  | cons segment _ ih =>
    rw [List.append_assoc]
    refine (run_segment segment read _).trans ?_
    rw [ih]
    simp

theorem run_word {source value : Text} (derived : WordSource k source value) (t : Text) :
    start.run k [] (source ++ t) = inWord.run k value.reverse t := by
  obtain ⟨segment, segments⟩ := derived
  rw [List.append_assoc]
  refine (run_segment segment [] _).trans ?_
  rw [run_segments segments]
  simp

/-- A comment is read to the end of its line, and everything in it is kept. -/
theorem run_comment {m : Char} {body : Text} (mark : k.classOf m = .comment) (line : '\n' ∉ body)
    (t : Text) :
    start.run k [] (m :: (body ++ '\n' :: t)) = (start.run k [] t).cons ⟨.comment, body⟩ := by
  have opens : start.step (k.classOf m) [m] = .skip comment := by
    rw [mark]
    rfl
  have ends : comment.step (k.classOf '\n') ['\n'] = .emit .comment := rfl
  rw [run_skip opens, run_commentBody body [] _ line, run_emit ends]
  simp

/-- A word is read to the blank after it. -/
theorem run_word_blank {source value : Text} {c : Char} (word : WordSource k source value)
    (space : k.classOf c = .space) (t : Text) :
    start.run k [] (source ++ c :: t) = (start.run k [] t).cons ⟨.word, value⟩ := by
  have ends : inWord.step (k.classOf c) [c] = .emit .word := by
    rw [space]
    rfl
  rw [run_word word, run_emit ends, List.reverse_reverse]

/-- A text that the grammar derives is read without an error, as the tokens it stands for. -/
theorem run_of_tokenStream {t : Text} {tokens : List Token} (derived : TokenStream k t tokens) :
    start.run k [] t = ⟨tokens, none⟩ := by
  -- Each derivation but the last one ends where the machine starts afresh, so the induction
  -- hypothesis speaks of the rest of the text.
  induction derived with
  | empty => rfl
  | blank space _ ih => rw [run_skip (by rw [space]; rfl), ih]
  | comment mark line _ ih =>
    rw [run_comment mark line, ih]
    rfl
  | @lastComment m body mark line =>
    have opens : start.step (k.classOf m) [m] = .skip Phase.comment := by rw [mark]; rfl
    have whole := run_commentBody (k := k) body [] [] line
    rw [List.append_nil] at whole
    rw [run_skip opens, whole]
    simp [run, atEnd]
  | word word space _ ih =>
    rw [run_word_blank word space, ih]
    rfl
  | @lastWord source value word =>
    have whole := run_word word []
    rw [List.append_nil] at whole
    rw [whole]
    simp [run, atEnd]

end Phase

/-! ### Soundness -/

/-- What ends a segment that the machine is in the middle of, and what of it is still to be kept. -/
inductive SegmentRest (k : Classifier) : Phase → Text → Text → Prop
  | none : SegmentRest k .inWord [] []
  | escaped {c : Char} : SegmentRest k .escaping [c] [c]
  | quoted {q : Char} {body value : Text} :
      QuotedBody k body value → k.classOf q = .escapingQuote →
      SegmentRest k .quoted (body ++ [q]) value
  | quotedEscape {c q : Char} {body value : Text} :
      QuotedBody k body value → k.classOf q = .escapingQuote →
      SegmentRest k .quotedEscape (c :: (body ++ [q])) (c :: value)
  | raw {q : Char} {body : Text} :
      (∀ c ∈ body, k.classOf c ≠ .nonEscapingQuote) → k.classOf q = .nonEscapingQuote →
      SegmentRest k .rawQuoted (body ++ [q]) body

/-- A text that goes on with a word between two segments: what it adds to the word, and the tokens
after it. -/
inductive WordRest (k : Classifier) : Text → Text → List Token → Prop
  | last {source value : Text} : Segments k source value → WordRest k source value []
  | blank {source value rest : Text} {c : Char} {tokens : List Token} :
      Segments k source value → k.classOf c = .space → TokenStream k rest tokens →
      WordRest k (source ++ c :: rest) value tokens

/-- What the rest of a text has to be for a machine in this phase that has kept these characters of
the token at hand, and all the tokens that come of it. -/
inductive Completes (k : Classifier) : Phase → Text → Text → List Token → Prop
  | start {t : Text} {tokens : List Token} :
      TokenStream k t tokens → Completes k .start [] t tokens
  | word {phase : Phase} {source value rest more : Text} {tokens : List Token} (kept : Text) :
      SegmentRest k phase source value → WordRest k rest more tokens →
      Completes k phase kept (source ++ rest) (⟨.word, kept ++ value ++ more⟩ :: tokens)
  | comment {body rest : Text} {tokens : List Token} (kept : Text) :
      '\n' ∉ body → TokenStream k rest tokens →
      Completes k .comment kept (body ++ '\n' :: rest) (⟨.comment, kept ++ body⟩ :: tokens)
  | lastComment {body : Text} (kept : Text) :
      '\n' ∉ body → Completes k .comment kept body [⟨.comment, kept ++ body⟩]

theorem WordRest.segment {source value rest more : Text} {tokens : List Token}
    (segment : Segment k false source value) (completed : WordRest k rest more tokens) :
    WordRest k (source ++ rest) (value ++ more) tokens := by
  cases completed with
  | last segments => exact .last (.cons segment segments)
  | blank segments space later =>
    rw [← List.append_assoc]
    exact .blank (.cons segment segments) space later

theorem TokenStream.ofSegment {source value rest more : Text} {tokens : List Token}
    (segment : Segment k true source value) (completed : WordRest k rest more tokens) :
    TokenStream k (source ++ rest) (⟨.word, value ++ more⟩ :: tokens) := by
  cases completed with
  | last segments => exact .lastWord (.segments segment segments)
  | blank segments space later =>
    rw [← List.append_assoc]
    exact .word (.segments segment segments) space later

/-- An opening character and the rest of what it opens are a segment. -/
private theorem Segment.ofOpened {first : Bool} {run : Phase} {c : Char} {source value : Text}
    (opens : Phase.opened? (k.classOf c) = some run) (rest : SegmentRest k run source value) :
    Segment k first (c :: source) value := by
  -- Three classes open something, and the phase says which of the three rests this is.
  cases cls : k.classOf c <;> rw [cls] at opens <;> cases opens
  case escapingQuote =>
    cases rest with
    | quoted body quote => exact .quoted cls body quote
  case nonEscapingQuote =>
    cases rest with
    | raw body quote => exact .raw cls body quote
  case escape =>
    cases rest with
    | escaped => exact .escaped cls

namespace SegmentRest

variable {phase next : Phase} {c : Char} {source value : Text}

/-- A step inside a segment that drops the character. -/
theorem ofSkip (inside : phase.inSegment = true)
    (step : phase.step (k.classOf c) [c] = .skip next) (rest : SegmentRest k next source value) :
    SegmentRest k phase (c :: source) value := by
  cases phase with
  | start | inWord | comment => cases inside
  | escaping | quotedEscape => cases step
  | quoted =>
    -- The character closes the quotes, or escapes the next one.
    rcases Phase.quoted_skip step with ⟨quote, rfl⟩ | ⟨escape, rfl⟩
    · cases rest
      have closed : SegmentRest k .quoted ([] ++ [c]) [] := .quoted .empty quote
      exact closed
    · cases rest with
      | quotedEscape body quote => exact .quoted (.escaped escape body) quote
  | rawQuoted =>
    obtain ⟨quote, rfl⟩ := Phase.rawQuoted_skip step
    cases rest
    have closed : SegmentRest k .rawQuoted ([] ++ [c]) [] := .raw (by simp) quote
    exact closed

/-- A step inside a segment that keeps the character. -/
theorem ofKeep (inside : phase.inSegment = true)
    (step : phase.step (k.classOf c) [c] = .keep next) (rest : SegmentRest k next source value) :
    SegmentRest k phase (c :: source) (c :: value) := by
  cases phase with
  | start | inWord | comment => cases inside
  | escaping =>
    cases step
    cases rest
    exact .escaped
  | quotedEscape =>
    cases step
    cases rest with
    | quoted body quote => exact .quotedEscape body quote
  | quoted =>
    obtain ⟨rfl, notQuote, notEscape⟩ := Phase.quoted_keep step
    cases rest with
    | quoted body quote => exact .quoted (.plain notQuote notEscape body) quote
  | rawQuoted =>
    obtain ⟨rfl, notQuote⟩ := Phase.rawQuoted_keep step
    cases rest with
    | raw body quote => exact .raw (List.forall_mem_cons.mpr ⟨notQuote, body⟩) quote

end SegmentRest

namespace Completes

variable {phase next : Phase} {c : Char} {kept t : Text} {tokens : List Token}

/-- In the middle of a word, the rest of a segment comes first. -/
theorem exists_segment (within : next.isWithinWord = true) (rest : Completes k next kept t tokens) :
    ∃ source value text more later, t = source ++ text ∧ SegmentRest k next source value ∧
      WordRest k text more later ∧ tokens = ⟨.word, kept ++ value ++ more⟩ :: later := by
  cases rest with
  | start | comment | lastComment => cases within
  | word _ segment completed => exact ⟨_, _, _, _, _, rfl, segment, completed, rfl⟩

theorem ofSegment {source value rest more : Text} (kept : Text)
    (segment : Segment k false source value) (completed : WordRest k rest more tokens) :
    Completes k .inWord kept (source ++ rest) (⟨.word, kept ++ value ++ more⟩ :: tokens) := by
  have whole := Completes.word kept .none (.segment segment completed)
  simpa using whole

/-- The invariant goes back through a step that drops the character. -/
theorem ofSkip (initial : phase = .start → kept = [])
    (step : phase.step (k.classOf c) [c] = .skip next) (rest : Completes k next kept t tokens) :
    Completes k phase kept (c :: t) tokens := by
  cases phase with
  | start =>
    obtain rfl := initial rfl
    -- Before a token, the character is a blank, the mark of a comment, or opens a first segment.
    rcases Phase.start_skip step with ⟨space, rfl⟩ | ⟨mark, rfl⟩ | opens
    · cases rest with
      | start later => exact .start (.blank space later)
      | word _ segment => cases segment
    · cases rest with
      | comment _ line later => exact .start (.comment mark line later)
      | lastComment _ line => exact .start (.lastComment mark line)
      | word _ segment => cases segment
    · obtain ⟨source, value, text, more, later, rfl, segment, completed, rfl⟩ :=
        rest.exists_segment (Phase.isWithinWord_opened opens)
      exact .start (.ofSegment (.ofOpened opens segment) completed)
  | inWord =>
    -- Between segments, only what opens another one is dropped.
    have opens := Phase.inWord_skip step
    obtain ⟨source, value, text, more, later, rfl, segment, completed, rfl⟩ :=
      rest.exists_segment (Phase.isWithinWord_opened opens)
    exact .ofSegment kept (.ofOpened opens segment) completed
  | comment => exact absurd step Phase.comment_ne_skip
  -- Inside a segment, only the rest of the segment changes.
  | escaping | quoted | quotedEscape | rawQuoted =>
    obtain ⟨source, value, text, more, later, rfl, segment, completed, rfl⟩ :=
      rest.exists_segment (Phase.isWithinWord_skip rfl step)
    exact .word kept (segment.ofSkip rfl step) completed

/-- The invariant goes back through a step that keeps the character. -/
theorem ofKeep (initial : phase = .start → kept = [])
    (step : phase.step (k.classOf c) [c] = .keep next)
    (rest : Completes k next (kept ++ [c]) t tokens) : Completes k phase kept (c :: t) tokens := by
  have character := k.classOf_ne_endOfInput c
  cases phase with
  | start =>
    obtain rfl := initial rfl
    obtain ⟨rfl, cls⟩ := Phase.start_keep step
    have plain : Segment k true [c] [c] := .plain (by simpa [character] using cls)
    obtain ⟨source, value, text, more, later, rfl, segment, completed, rfl⟩ :=
      rest.exists_segment rfl
    cases segment
    exact .start (.ofSegment plain completed)
  | inWord =>
    obtain ⟨rfl, cls⟩ := Phase.inWord_keep step
    -- Within a word, the mark of a comment is a character like any other.
    have plain : Segment k false [c] [c] := by
      rcases cls with word | mark | ended
      · exact .plain word
      · exact .mark rfl mark
      · exact absurd ended character
    obtain ⟨source, value, text, more, later, rfl, segment, completed, rfl⟩ :=
      rest.exists_segment rfl
    cases segment
    simpa using Completes.ofSegment kept plain completed
  | comment =>
    obtain ⟨rfl, notBreak⟩ := Phase.comment_keep step
    have differs : '\n' ≠ c := by simpa [eq_comm] using notBreak
    cases rest with
    | comment _ line later =>
      simpa using Completes.comment kept (List.not_mem_cons_of_ne_of_not_mem differs line) later
    | lastComment _ line =>
      simpa using Completes.lastComment kept (List.not_mem_cons_of_ne_of_not_mem differs line)
    | word _ segment => cases segment
  | escaping | quoted | quotedEscape | rawQuoted =>
    obtain ⟨source, value, text, more, later, rfl, segment, completed, rfl⟩ :=
      rest.exists_segment (Phase.isWithinWord_keep rfl step)
    simpa using Completes.word kept (segment.ofKeep rfl step) completed

/-- The invariant goes back through a step that ends the token. -/
theorem ofEmit {kind : TokenKind} (step : phase.step (k.classOf c) [c] = .emit kind)
    (later : TokenStream k t tokens) :
    Completes k phase kept (c :: t) (⟨kind, kept⟩ :: tokens) := by
  rcases Phase.emit_cases step with ⟨rfl, rfl, space⟩ | ⟨rfl, rfl, ends⟩
  · have rest : WordRest k ([] ++ c :: t) [] tokens := .blank .empty space later
    simpa using Completes.word kept .none rest
  · obtain rfl : c = '\n' := by simpa using ends
    have rest : Completes k .comment kept ([] ++ '\n' :: t) (⟨.comment, kept ++ []⟩ :: tokens) :=
      .comment kept (by simp) later
    simpa using rest

end Completes

/-- What is read without an error completes the token at hand. By induction on the text. -/
theorem Phase.completes_of_run {phase : Phase} {read t : Text} {tokens : List Token}
    (initial : phase = .start → read = []) (ran : phase.run k read t = ⟨tokens, none⟩) :
    Completes k phase read.reverse t tokens := by
  induction t generalizing phase read tokens with
  | nil =>
    -- A text may end before a token, in a word, or in a comment. Open segments are errors.
    cases phase with
    | start =>
      obtain rfl := initial rfl
      cases ran
      exact .start .empty
    | inWord =>
      cases ran
      simpa using Completes.word read.reverse .none (.last (k := k) .empty)
    | comment =>
      cases ran
      have rest : Completes k .comment read.reverse [] [⟨.comment, read.reverse ++ []⟩] :=
        .lastComment read.reverse (by simp)
      simpa using rest
    | escaping | quoted | quotedEscape | rawQuoted => cases ran
  | cons c rest ih =>
    cases step : phase.step (k.classOf c) [c] with
    | skip next =>
      rw [run_skip step] at ran
      -- Nothing has been kept where the machine starts, and it comes there only from there.
      have fresh : next = .start → read = [] := by
        rintro rfl
        exact initial (eq_start_of_skip step)
      exact .ofSkip (by simpa using initial) step (ih fresh ran)
    | keep next =>
      rw [run_keep step] at ran
      have completed := ih (fun same => absurd same (ne_start_of_keep step)) ran
      rw [List.reverse_cons] at completed
      exact .ofKeep (by simpa using initial) step completed
    | emit kind =>
      rw [run_emit step] at ran
      -- The rest is run from the start, where completing a token is deriving the whole text.
      cases later : start.run k [] rest with
      | mk followers failure =>
        rw [later] at ran
        cases ran
        cases ih (fun _ => rfl) later with
        | start derived => exact .ofEmit step derived
        | word _ segment => cases segment

/-- A text that is read without an error is derived by the grammar, as its tokens. -/
theorem Phase.tokenStream_of_run {t : Text} {tokens : List Token}
    (ran : start.run k [] t = ⟨tokens, none⟩) : TokenStream k t tokens := by
  cases completes_of_run (fun _ => rfl) ran with
  | start derived => exact derived
  | word _ segment => cases segment

/-! ### Characters that stand for themselves -/

/-- Within a word, what is in no class but that of comments stands for itself. -/
theorem Segments.ofPlain {body : Text}
    (plain : ∀ c ∈ body, k.classOf c = .word ∨ k.classOf c = .comment) : Segments k body body := by
  induction body with
  | nil => exact .empty
  | cons c rest ih =>
    obtain ⟨first, others⟩ := List.forall_mem_cons.mp plain
    have segment : Segment k false [c] [c] := first.elim .plain (.mark rfl)
    exact .cons segment (ih others)

theorem WordSource.ofPlain {c : Char} {body : Text} (first : k.classOf c = .word)
    (plain : ∀ d ∈ body, k.classOf d = .word ∨ k.classOf d = .comment) :
    WordSource k (c :: body) (c :: body) :=
  .segments (.plain first) (.ofPlain plain)

/-! ### The grammar and the reader -/

theorem Phase.run_eq_iff {t : Text} {tokens : List Token} :
    start.run k [] t = ⟨tokens, none⟩ ↔ TokenStream k t tokens :=
  ⟨tokenStream_of_run, run_of_tokenStream⟩

/-- A text is read as exactly the tokens that the grammar derives. The grammar derives one list of
tokens at most, and where it derives none the reader complains that the text stops too early. -/
theorem Stream.tokens_ofText_iff (k : Classifier) (t : Text) :
    (∀ tokens, ((ofText t).tokens k).all = .ok tokens ↔ TokenStream k t tokens) ∧
    (∀ tokens others, TokenStream k t tokens → TokenStream k t others → tokens = others) ∧
    ((¬∃ tokens, TokenStream k t tokens) ↔ ∃ e, ((ofText t).tokens k).all = .error (.lex e)) := by
  have read := tokens_ofText_all k t
  -- Deriving is running without an error, and a run has one outcome.
  simp only [← Phase.run_eq_iff]
  cases ran : Phase.start.run k [] t with
  | mk tokens failure =>
    rw [ran] at read
    rw [read]
    cases failure with
    | none => simp
    | some e => simp

/-- Quotes of both kinds within a word, a mark in it, and a comment that the text ends. -/
theorem Stream.tokens_ofText_mixed :
    ((ofText "one t\"w\\\"o\"'#3'#4 # five").tokens {}).all =
      .ok [⟨.word, "one"⟩, ⟨.word, "tw\"o#3#4"⟩, ⟨.comment, " five"⟩] ∧
    TokenStream {} "one t\"w\\\"o\"'#3'#4 # five"
      [⟨.word, "one"⟩, ⟨.word, "tw\"o#3#4"⟩, ⟨.comment, " five"⟩] := by
  have read : ((ofText "one t\"w\\\"o\"'#3'#4 # five").tokens {}).all =
      .ok [⟨.word, "one"⟩, ⟨.word, "tw\"o#3#4"⟩, ⟨.comment, " five"⟩] := by
    rw [tokens_ofText_all]
    rfl
  exact ⟨read, ((tokens_ofText_iff {} _).1 _).mp read⟩

/-- The words of a text that the grammar derives. -/
theorem Text.split_of_tokenStream {t : Text} {tokens : List Token}
    (derived : TokenStream k t tokens) : t.split k = .ok (tokens.filterMap Token.word?) := by
  rw [split, Stream.words_eq, Stream.tokens_ofText_all, Phase.run_of_tokenStream derived]
  rfl

end ShellWords
