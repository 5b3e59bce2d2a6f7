import ShellWords.Proofs.Quote.Exposure
import ShellWords.Proofs.Token.Grammar
import ShellWords.Settings.Basic

/-!
# Quoted words are read back

A quoted word is a word of the token grammar, and joined words are a stream of such words, as long
as no safe character begins a comment or an escape. Configured classes change nothing else about
quoted words: blanks and quotes come first in the order of the classes.
-/
namespace ShellWords

/-- Classes under which what quoting writes is read as it is meant. -/
structure Classifier.ReadsQuoted (k : Classifier) : Prop where
  blank : k.classOf ' ' = .space
  double : k.classOf '"' = .escapingQuote
  single (c : Char) : k.classOf c = .nonEscapingQuote ↔ c = '\''
  safe (c : Char) : isSafe c = true → k.classOf c = .word

variable {k : Classifier}

theorem Segment.anywhere {first : Bool} {source value : Text}
    (segment : Segment k true source value) : Segment k first source value := by
  cases segment with
  | plain word => exact .plain word
  | mark later => cases later
  | escaped escape => exact .escaped escape
  | quoted quote body quote' => exact .quoted quote body quote'
  | raw quote body quote' => exact .raw quote body quote'

theorem WordSource.ofSegment {source value : Text} (segment : Segment k true source value) :
    WordSource k source value := by
  simpa using WordSource.segments segment .empty

private theorem Segments.ofWordSource {source value : Text} (word : WordSource k source value) :
    Segments k source value := by
  obtain ⟨segment, segments⟩ := word
  exact .cons segment.anywhere segments

namespace Text

/-- What stands in single quotes up to the next one of its own is one segment. -/
private theorem raw_segment (reads : k.ReadsQuoted) (body : Text) (raw : '\'' ∉ body) :
    Segment k true ('\'' :: (body ++ ['\''])) body := by
  have quote := (reads.single '\'').mpr rfl
  refine .raw quote (fun c member same => ?_) quote
  exact raw ((reads.single c).mp same ▸ member)

/-- A word in single quotes, of which some is read already. By induction on what is not: a single
quote in it ends the segment, is a segment of its own in double quotes, and begins the next. -/
private theorem wordSource_quoted (reads : k.ReadsQuoted) (read word : Text) (raw : '\'' ∉ read) :
    WordSource k ('\'' :: (read ++ (word.flatMap quoteChar ++ ['\'']))) (read ++ word) := by
  induction word generalizing read with
  | nil => simpa using WordSource.ofSegment (raw_segment reads read raw)
  | cons c word ih =>
    by_cases quote : c = '\''
    · subst c
      -- Three segments meet here: what is read, the single quote in double quotes, and the rest
      -- of the word, which begins its single quotes afresh.
      have before := raw_segment reads read raw
      have single : QuotedBody k ['\''] ['\''] := by
        have cls := (reads.single '\'').mpr rfl
        exact .plain (by simp [cls]) (by simp [cls]) .empty
      have spliced : Segment k false ['"', '\'', '"'] ['\''] :=
        .quoted reads.double single reads.double
      have after := Segments.ofWordSource (ih [] (by simp))
      simpa [quoteChar] using WordSource.segments before (.cons spliced after)
    -- Any other character goes to what is read, and the segment stays open.
    · have longer := ih (read ++ [c]) (by simpa [Ne.symm quote] using raw)
      simpa [quoteChar, quote] using longer

/-- A quoted word is a word, and stands for what was quoted. -/
theorem wordSource_quote (reads : k.ReadsQuoted) (word : Text) : WordSource k word.quote word := by
  unfold quote
  split
  · next empty =>
    obtain rfl := List.isEmpty_iff.mp empty
    exact .ofSegment (raw_segment reads [] (by simp))
  · next notEmpty =>
    split
    · next safe =>
      cases word with
      | nil => simp at notEmpty
      | cons c word =>
        simp only [List.all_cons, Bool.and_eq_true, List.all_eq_true] at safe
        exact .ofPlain (reads.safe c safe.1) fun d member => .inl (reads.safe d (safe.2 d member))
    · exact wordSource_quoted reads [] word (by simp)

/-- Joined words are a stream of words. -/
theorem tokenStream_joinQuoted (reads : k.ReadsQuoted) (words : List Text) :
    TokenStream k (joinQuoted words) (words.map (⟨.word, ·⟩)) := by
  induction words with
  | nil => exact .empty
  | cons word words ih =>
    have first := wordSource_quote reads word
    cases words with
    | nil => simpa [joinQuoted] using TokenStream.lastWord first
    | cons next words => simpa [joinQuoted] using TokenStream.word first reads.blank ih

theorem split_joinQuoted_of_reads (reads : k.ReadsQuoted) (words : List Text) :
    (joinQuoted words).split k = .ok words := by
  rw [split_of_tokenStream (tokenStream_joinQuoted reads words), List.filterMap_map]
  exact congrArg Except.ok List.filterMap_some

end Text

/-! ### Configured classes -/

namespace Settings

/-- Settings change only which characters escape and comment. -/
private theorem classOf_classifier (s : Settings) (c : Char) : s.classifier.classOf c =
    if c ∈ [' ', '\t', '\r', '\n'] then .space
    else if c = '"' then .escapingQuote
    else if c = '\'' then .nonEscapingQuote
    else if c ∈ s.classifier.escapes then .escape
    else if c ∈ s.classifier.comments then .comment
    else .word := by
  rw [Classifier.classOf_eq]
  simp [classifier, Classifier.replace]

/-- Safe characters are neither blanks nor quotes. -/
theorem classOf_safe (s : Settings) {c : Char} (safe : isSafe c = true) : s.classifier.classOf c =
    if c ∈ s.classifier.escapes then .escape
    else if c ∈ s.classifier.comments then .comment
    else .word := by
  -- Blanks and quotes are looked up before escapes and marks, and none of them is safe.
  have special : [' ', '\t', '\r', '\n', '"', '\''].all (!isSafe ·) = true := rfl
  have other : c ∉ [' ', '\t', '\r', '\n', '"', '\''] := by
    intro member
    have excluded := List.all_eq_true.mp special c member
    simp [safe] at excluded
  simp only [List.mem_cons, List.not_mem_nil, or_false, not_or] at other
  rw [classOf_classifier]
  simp [other]

theorem readsQuoted (s : Settings)
    (free : ∀ c, isSafe c = true → c ∉ s.classifier.comments ∧ c ∉ s.classifier.escapes) :
    s.classifier.ReadsQuoted where
  blank := by simp [classOf_classifier]
  double := by simp [classOf_classifier]
  single c := by
    constructor
    · intro cls
      rw [classOf_classifier] at cls
      split_ifs at cls
      assumption
    · rintro rfl
      simp [classOf_classifier]
  safe c safe := by
    obtain ⟨noComment, noEscape⟩ := free c safe
    rw [classOf_safe s safe, if_neg noEscape, if_neg noComment]

/-- A safe character alone is not read back if it begins a comment or an escape. -/
private theorem split_safe_ne (s : Settings) {c : Char} (safe : isSafe c = true)
    (taken : c ∈ s.classifier.comments ∨ c ∈ s.classifier.escapes) :
    (Text.joinQuoted [[c]]).split s.classifier ≠ .ok [[c]] := by
  have written : Text.joinQuoted [[c]] = [c] := by simp [Text.joinQuoted, Text.quote, safe]
  -- Alone, an escape has nothing to escape, and a comment is no word.
  have cls := classOf_safe s safe
  rw [written, Text.split, Stream.words_eq, Stream.tokens_ofText_all]
  by_cases escape : c ∈ s.classifier.escapes
  · rw [if_pos escape] at cls
    simp [Phase.run, cls, Phase.step, Phase.opened?, Phase.atEnd, Except.map]
  · have comment : c ∈ s.classifier.comments := by simpa [escape] using taken
    rw [if_neg escape, if_pos comment] at cls
    simp [Phase.run, cls, Phase.step, Phase.atEnd, Except.map, List.filterMap_cons, Token.word?]

end Settings

/-- The standard classes read all joined words back. -/
theorem Text.split_joinQuoted_standard (words : List Text) :
    (joinQuoted words).split = .ok words := by
  refine split_joinQuoted_of_reads (({} : Settings).readsQuoted fun c safe => ?_) words
  constructor <;> intro member <;> exact absurd (List.mem_singleton.mp member ▸ safe) (by decide)

/-- Joined words are read back, whatever they are, exactly under the settings that leave all safe
characters plain; so they are under the standard classes. -/
theorem Text.split_joinQuoted_iff :
    (∀ s : Settings,
      (∀ words, (joinQuoted words).split s.classifier = .ok words) ↔
        ∀ c ∈ safeCharacters, c ∉ s.classifier.comments ∧ c ∉ s.classifier.escapes) ∧
    ∀ words, (joinQuoted words).split = .ok words := by
  simp only [← isSafe_iff_mem]
  constructor
  · intro s
    constructor
    -- One word of one character is enough to see that the character is plain.
    · intro reads c safe
      have readBack := reads [[c]]
      refine ⟨fun comment => ?_, fun escape => ?_⟩
      · exact s.split_safe_ne safe (.inl comment) readBack
      · exact s.split_safe_ne safe (.inr escape) readBack
    · intro free words
      exact split_joinQuoted_of_reads (s.readsQuoted free) words
  · exact split_joinQuoted_standard

/-- Semicolons that begin comments and dollars that escape leave the safe characters plain. -/
theorem Text.split_joinQuoted_semicolon :
    let s : Settings := { commentChars := some ";", escapeChars := some "$" }
    (∀ c ∈ safeCharacters, c ∉ s.classifier.comments ∧ c ∉ s.classifier.escapes) ∧
    (joinQuoted ["", "it's", "#1; $x"]).split s.classifier = .ok ["", "it's", "#1; $x"] := by
  intro s
  have listed : safeCharacters.all (fun c => c ∉ s.classifier.comments ∧ c ∉ s.classifier.escapes) =
      true := by
    decide +kernel
  have free : ∀ c ∈ safeCharacters, c ∉ s.classifier.comments ∧ c ∉ s.classifier.escapes := by
    simpa using listed
  exact ⟨free, (split_joinQuoted_iff.1 s).mpr free _⟩

end ShellWords
