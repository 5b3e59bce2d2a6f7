import ShellWords.Proofs.Token.Completion

/-!
# Comments

A reader of words is a reader of tokens that is silent about comments, whatever the stream does. In
a text, a comment that begins between two tokens ends with its line: what is read after it depends
neither on what is in the comment nor on what comes before it (`run_delimited`).
-/
namespace ShellWords

variable {k : Classifier}

/-- A text in which something has ended each of its tokens: after a word there is a blank, and after
a comment its line feed. -/
inductive Delimited (k : Classifier) : Text → List Token → Prop
  | empty : Delimited k [] []
  | blank {c : Char} {rest : Text} {tokens : List Token} :
      k.classOf c = .space → Delimited k rest tokens → Delimited k (c :: rest) tokens
  | comment {m : Char} {body rest : Text} {tokens : List Token} :
      k.classOf m = .comment → '\n' ∉ body → Delimited k rest tokens →
      Delimited k (m :: (body ++ '\n' :: rest)) (⟨.comment, body⟩ :: tokens)
  | word {source value rest : Text} {c : Char} {tokens : List Token} :
      WordSource k source value → k.classOf c = .space → Delimited k rest tokens →
      Delimited k (source ++ c :: rest) (⟨.word, value⟩ :: tokens)

namespace Phase

/-- After a delimited text, the rest is read as if nothing came before it. -/
theorem run_delimited {t : Text} {tokens : List Token} (delimited : Delimited k t tokens)
    (more : Text) : start.run k [] (t ++ more) = (start.run k [] more).behind tokens := by
  induction delimited with
  | empty => rfl
  | @blank c rest tokens space _ ih =>
    have drops : start.step (k.classOf c) [c] = .skip start := by
      rw [space]
      rfl
    rw [List.cons_append, run_skip drops]
    exact ih
  | comment mark line _ ih =>
    rw [List.cons_append, List.append_assoc, List.cons_append, run_comment mark line, ih]
    rfl
  | word word space _ ih =>
    rw [List.append_assoc, List.cons_append, run_word_blank word space, ih]
    rfl

end Phase

/-! ### Between two tokens -/

private theorem WordSource.exists_cons {source value : Text} (word : WordSource k source value) :
    ∃ c rest, source = c :: rest ∧ k.classOf c ≠ .space := by
  obtain @⟨first, _, others, _, segment, _⟩ := word
  cases segment with
  | plain plain => exact ⟨_, others, rfl, by simp [plain]⟩
  | mark later => cases later
  | escaped escape => exact ⟨_, _, rfl, by simp [escape]⟩
  | quoted opens => exact ⟨_, _, rfl, by simp [opens]⟩
  | raw opens => exact ⟨_, _, rfl, by simp [opens]⟩

namespace Phase

/-- A word goes on at a character that is no blank, so it is not among the tokens yet. -/
private theorem run_inWord_ne_behind {c : Char} (notSpace : k.classOf c ≠ .space) (read : Text)
    (later : Run) : inWord.run k read [c] ≠ later.behind [⟨.word, read.reverse⟩] := by
  intro same
  have first := congrArg (·.tokens.head?) same
  cases step : inWord.step (k.classOf c) [c] with
  | skip next =>
    have opens := inWord_skip step
    rw [run_skip step] at first
    cases cls : k.classOf c <;> rw [cls] at opens <;> cases opens <;> cases first
  | keep next =>
    obtain ⟨rfl, -⟩ := inWord_keep step
    rw [run_keep step] at first
    simp [Run.behind, run, atEnd] at first
  | emit kind =>
    rcases emit_cases step with ⟨-, -, space⟩ | ⟨comment, -, -⟩
    · exact notSpace space
    · cases comment

end Phase

private theorem Run.cons_injective (t : Token) {first second : Run}
    (same : first.cons t = second.cons t) :
    first = second := by
  cases first
  cases second
  simpa [Run.cons] using same

/-- A text is delimited if whatever comes after it is read as if nothing came before. -/
private theorem Delimited.of_run {t : Text} {tokens : List Token}
    (reads : ∀ more, Phase.start.run k [] (t ++ more) = (Phase.start.run k [] more).behind tokens) :
    Delimited k t tokens := by
  have whole : Phase.start.run k [] t = ⟨tokens, none⟩ := by
    have ran := reads []
    rw [List.append_nil] at ran
    rw [ran]
    simp [Run.behind, Phase.run, Phase.atEnd]
  have derived := Phase.tokenStream_of_run whole
  clear whole
  induction derived with
  | empty => exact .empty
  | @blank c rest tokens space _ ih =>
    have drops : Phase.start.step (k.classOf c) [c] = .skip .start := by
      rw [space]
      rfl
    refine .blank space (ih fun more => ?_)
    rw [← reads more, List.cons_append, Phase.run_skip drops]
  | @comment m body rest tokens mark line _ ih =>
    refine .comment mark line (ih fun more => ?_)
    have ran := reads more
    rw [List.cons_append, List.append_assoc, List.cons_append, Phase.run_comment mark line] at ran
    exact Run.cons_injective _ ran
  | @word source value rest c tokens word space _ ih =>
    refine .word word space (ih fun more => ?_)
    have ran := reads more
    rw [List.append_assoc, List.cons_append, Phase.run_word_blank word space] at ran
    exact Run.cons_injective _ ran
  | @lastComment m body mark line =>
    -- A comment that no line feed has ended takes the next character in.
    have longer : '\n' ∉ body ++ ['#'] := by simp [line]
    have ran := Phase.run_of_tokenStream (.lastComment mark longer)
    have first := congrArg (·.tokens.head?) (ran.symm.trans (reads ['#']))
    simp [Run.behind] at first
  | @lastWord source value word =>
    -- So does a word that no blank has ended, unless the next character is one.
    obtain ⟨c, _, _, notSpace⟩ := word.exists_cons
    have ran := reads [c]
    rw [Phase.run_word word, ← value.reverse_reverse, List.reverse_reverse value.reverse] at ran
    exact absurd ran (Phase.run_inWord_ne_behind notSpace _ _)

/-- A text is delimited if the machine is between two tokens at its end: in front of all of it, or
behind a blank outside of quotes and comments, or behind the line feed that ends a comment. -/
private theorem Delimited.of_phase {t : Text} (ends : (Phase.start.through k [] t).phase = .start) :
    Delimited k t (Phase.start.through k [] t).tokens := by
  refine .of_run fun more => ?_
  have nothing := Phase.through_initial (fun _ => rfl) t ends
  rw [Phase.run_append, Midway.run, ends, nothing]

namespace Text

/-- The words of a delimited text come before those of the rest, if the rest has any. -/
theorem split_delimited_append {t : Text} {tokens : List Token}
    (delimited : Delimited k t tokens) (more : Text) :
    (t ++ more).split k = (more.split k).map (tokens.filterMap Token.word? ++ ·) := by
  have ran := Phase.run_delimited delimited more
  rw [split_eq_run, split_eq_run, Phase.failure, Phase.failure, ran]
  cases failed : (Phase.start.run k [] more).failure with
  | none => simp [Run.behind, failed, Except.map]
  | some e => simp [Run.behind, failed, Except.map]

private theorem split_delimited {t : Text} {tokens : List Token}
    (delimited : Delimited k t tokens) :
    t.split k = .ok (tokens.filterMap Token.word?) := by
  have whole := split_delimited_append delimited []
  have nothing : split [] k = .ok [] := by
    rw [split_eq_run]
    rfl
  rw [List.append_nil, nothing] at whole
  simpa [Except.map] using whole

/-- A comment adds no word to a text, whatever is in it. -/
theorem split_comment {t : Text} {tokens : List Token} (delimited : Delimited k t tokens) {m : Char}
    (mark : k.classOf m = .comment) {body : Text} (line : '\n' ∉ body) (more : Text) :
    (t ++ m :: (body ++ '\n' :: more)).split k =
      (more.split k).map (tokens.filterMap Token.word? ++ ·) := by
  have commented : Delimited k (m :: (body ++ ['\n'])) [⟨.comment, body⟩] :=
    .comment mark line .empty
  have rest : split (m :: (body ++ '\n' :: more)) k = more.split k := by
    have dropped := split_delimited_append commented more
    have noWord : [(⟨.comment, body⟩ : Token)].filterMap Token.word? = [] := rfl
    rw [noWord] at dropped
    cases words : more.split k <;> simpa [words, Except.map] using dropped
  rw [split_delimited_append delimited, rest]

end Text

/-- Draining the words of any stream gives the words among its tokens, in the same order, and ends
in the same error if the tokens do. In a text, a comment that begins where every token before it has
been ended makes no difference: what is in it may be anything but a line feed, and the outcome is
that of the text before it and then that of the text after it. It is enough that the text before it
leaves the machine between two tokens. -/
theorem Stream.words_past_comments (k : Classifier) :
    (∀ s : Stream,
      (({ classifier := k } : Reader).drainWords s).items =
        (s.tokens k).items.filterMap Token.word? ∧
      (({ classifier := k } : Reader).drainWords s).failure = (s.tokens k).failure) ∧
    (∀ t tokens, Delimited k t tokens → ∃ words, t.split k = .ok words ∧
      ∀ m, k.classOf m = .comment → ∀ body other : Text, '\n' ∉ body → '\n' ∉ other → ∀ more : Text,
        (t ++ m :: (body ++ '\n' :: more)).split k =
          (t ++ m :: (other ++ '\n' :: more)).split k ∧
        (t ++ m :: (body ++ '\n' :: more)).split k = (more.split k).map (words ++ ·)) ∧
    (∀ t : Text, (Phase.start.through k [] t).phase = .start → ∃ tokens, Delimited k t tokens) := by
  refine ⟨?_, ?_, fun t ends => ⟨_, Delimited.of_phase ends⟩⟩
  · intro s
    rw [Reader.drainWords_eq]
    exact ⟨rfl, rfl⟩
  · intro t tokens delimited
    refine ⟨_, Text.split_delimited delimited, ?_⟩
    intro m mark body other line otherLine more
    have inert := Text.split_comment delimited mark line more
    exact ⟨inert.trans (Text.split_comment delimited mark otherLine more).symm, inert⟩

/-- A comment with an open quote and an escape character in it, between a word and an open quote. -/
theorem Stream.words_past_comments_quote :
    Delimited {} "a " [⟨.word, "a"⟩] ∧ ({} : Classifier).classOf '#' = .comment ∧
    '\n' ∉ ("'b\\" : Text) ∧ '\n' ∉ ([] : Text) ∧
    (∃ words, Text.split "a " {} = .ok words ∧
      Text.split ("a " ++ '#' :: ("'b\\" ++ '\n' :: "c \"d")) {} =
        Text.split ("a " ++ '#' :: ([] ++ '\n' :: "c \"d")) {} ∧
      Text.split ("a " ++ '#' :: ("'b\\" ++ '\n' :: "c \"d")) {} =
        (Text.split "c \"d" {}).map (words ++ ·)) ∧
    (Phase.start.through {} [] "a ").phase = .start ∧ ∃ tokens, Delimited {} "a " tokens := by
  have word : WordSource {} ['a'] ['a'] := .segments (.plain rfl) .empty
  have delimited : Delimited {} "a " [⟨.word, "a"⟩] := .word word rfl .empty
  have line : '\n' ∉ ("'b\\" : Text) := by decide
  have ends : (Phase.start.through {} [] "a ").phase = .start := rfl
  obtain ⟨words, split, inert⟩ := (words_past_comments {}).2.1 _ _ delimited
  exact ⟨delimited, rfl, line, List.not_mem_nil,
    ⟨words, split, inert '#' rfl _ _ line List.not_mem_nil _⟩, ends,
    (words_past_comments {}).2.2 _ ends⟩

end ShellWords
