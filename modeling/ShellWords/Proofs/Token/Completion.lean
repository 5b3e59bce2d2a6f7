import Mathlib.Logic.Basic
import ShellWords.Proofs.Token.Locality

/-!
# Texts that stop too early

A text that cannot be split only stops too early. What would complete it depends on nothing but the
phase that its end leaves the machine in (`Text.splits_append_iff`), so the answers for texts are
answers for seven phases: a quote that is open is closed by its own character only, and after an
escape character any character will do, if not within quotes.
-/
namespace ShellWords

/-- The text can be split. -/
def Text.Splits (t : Text) (k : Classifier := {}) : Prop := ∃ words, t.split k = .ok words

namespace Phase

/-- How a run from this phase on ends. -/
def failure (k : Classifier) (phase : Phase) (t : Text) : Option LexError :=
  (phase.run k [] t).failure

/-- What has been kept makes no difference to how a run ends. -/
private theorem failure_run (k : Classifier) (phase : Phase) (read t : Text) :
    (phase.run k read t).failure = phase.failure k t := by
  have same (read read' : Text) :
      (phase.run k read t).failure = (phase.run k read' t).failure := by
    induction t generalizing phase read read' with
    | nil => cases phase <;> rfl
    | cons c rest ih =>
      cases step : phase.step (k.classOf c) [c] with
      | skip next =>
        rw [run_skip step, run_skip step]
        exact ih next read read'
      | keep next =>
        rw [run_keep step, run_keep step]
        exact ih next (c :: read) (c :: read')
      | emit kind =>
        rw [run_emit step, run_emit step]
        rfl
  exact same read []

/-- Over a text and more, a run ends as a run over the rest does from the phase in between. -/
theorem failure_append (k : Classifier) (phase : Phase) (t more : Text) :
    phase.failure k (t ++ more) = (phase.through k [] t).phase.failure k more := by
  rw [failure, run_append, ← failure_run]
  rfl

/-! ### The standard classes, phase by phase -/

private theorem failure_eq_quoteOpen_iff (phase : Phase) :
    phase.failure {} [] = some .quoteOpen ↔
      Xor (phase.failure {} ['"'] = none) (phase.failure {} ['\''] = none) := by
  cases phase <;> decide

private theorem failure_of_escapeAtEnd {phase : Phase}
    (failed : phase.failure {} [] = some .escapeAtEnd) :
    (∀ c, phase.failure {} [c] = none) ∨
      ∀ c, phase.failure {} [c] = some .quoteOpen ∧ phase.failure {} [c, '"'] = none := by
  cases phase with
  | escaping => exact .inl fun c => rfl
  | quotedEscape => exact .inr fun c => ⟨rfl, rfl⟩
  | start | inWord | comment | quoted | rawQuoted => cases failed

/-- At most an escaped character and a quote are missing. -/
theorem exists_completion (phase : Phase) :
    ∃ completion : Text, completion.length ≤ 2 ∧ phase.failure {} completion = none := by
  cases phase with
  | start | inWord | comment => exact ⟨[], by decide⟩
  | escaping | quoted => exact ⟨['"'], by decide⟩
  | rawQuoted => exact ⟨['\''], by decide⟩
  | quotedEscape => exact ⟨['"', '"'], by decide⟩

end Phase

namespace Text

variable {k : Classifier}

theorem split_eq_run (t : Text) (k : Classifier) :
    t.split k =
      match Phase.start.failure k t with
      | none => .ok ((Phase.start.run k [] t).tokens.filterMap Token.word?)
      | some e => .error (.lex e) := by
  rw [split, Stream.words_eq, Stream.tokens_ofText_all, Phase.failure]
  cases (Phase.start.run k [] t).failure <;> rfl

theorem split_eq_error_iff (t : Text) (e : LexError) :
    t.split k = .error (.lex e) ↔ Phase.start.failure k t = some e := by
  rw [split_eq_run]
  cases Phase.start.failure k t <;> simp

theorem splits_iff (t : Text) : t.Splits k ↔ Phase.start.failure k t = none := by
  rw [Splits, split_eq_run]
  cases Phase.start.failure k t <;> simp

/-- Whether a text can be split once more is added depends on the phase at its end only. -/
theorem splits_append_iff (t more : Text) :
    (t ++ more).Splits k ↔ (Phase.start.through k [] t).phase.failure k more = none := by
  rw [splits_iff, Phase.failure_append]

theorem split_append_eq_error_iff (t more : Text) (e : LexError) :
    (t ++ more).split k = .error (.lex e) ↔
      (Phase.start.through k [] t).phase.failure k more = some e := by
  rw [split_eq_error_iff, Phase.failure_append]

/-- A line feed that is a blank adds nothing to the words of a text. -/
private theorem split_append_newline (blank : k.classOf '\n' = .space) {t : Text}
    {words : List Text}
    (splits : t.split k = .ok words) : (t ++ ['\n']).split k = .ok words := by
  have ends : (Phase.start.run k [] t).failure = none := (splits_iff t).mp ⟨words, splits⟩
  have whole := Phase.run_append_newline blank ends []
  rw [split_eq_run, Phase.failure, ends] at splits
  rw [split_eq_run, Phase.failure, whole]
  simpa [Run.behind, Phase.run, Phase.atEnd] using splits

/-- Under the standard classes the error of a text tells what is missing. A quote is left open if
and only if one of the two quotes completes the text and the other one does not. After an escape
character either any character completes it, or any character and then a quote. A text that can be
split can be followed by a line feed. So two characters at most complete any text. -/
theorem split_completable (t : Text) :
    (t.split = .error (.lex .quoteOpen) ↔ Xor (t ++ ['"']).Splits (t ++ ['\'']).Splits) ∧
    (t.split = .error (.lex .escapeAtEnd) →
      (∀ c, (t ++ [c]).Splits) ∨
      ∀ c, (t ++ [c]).split = .error (.lex .quoteOpen) ∧ (t ++ [c, '"']).Splits) ∧
    (∀ words, t.split = .ok words → (t ++ ['\n']).split = .ok words) ∧
    ∃ completion : Text, completion.length ≤ 2 ∧ (t ++ completion).Splits := by
  have whole (e : LexError) : t.split = .error (.lex e) ↔
      (Phase.start.through {} [] t).phase.failure {} [] = some e := by
    rw [← split_append_eq_error_iff, List.append_nil]
  simp only [whole, splits_append_iff, split_append_eq_error_iff]
  refine ⟨Phase.failure_eq_quoteOpen_iff _, Phase.failure_of_escapeAtEnd, ?_,
    Phase.exists_completion _⟩
  exact fun words => split_append_newline rfl

/-- A double quote that is open, and an escape character within such quotes. -/
theorem split_completable_escape :
    Xor (Splits (['a', ' ', '"'] ++ ['"'])) (Splits (['a', ' ', '"'] ++ ['\''])) ∧
    split ['"', 'a', '\\'] = .error (.lex .escapeAtEnd) ∧
    ((∀ c, Splits (['"', 'a', '\\'] ++ [c])) ∨
      ∀ c, split (['"', 'a', '\\'] ++ [c]) = .error (.lex .quoteOpen) ∧
        Splits (['"', 'a', '\\'] ++ [c, '"'])) ∧
    split ['a', '#'] = .ok [['a', '#']] ∧ split (['a', '#'] ++ ['\n']) = .ok [['a', '#']] := by
  have opened : split ['a', ' ', '"'] = .error (.lex .quoteOpen) := by
    rw [split_eq_run]
    rfl
  have escaped : split ['"', 'a', '\\'] = .error (.lex .escapeAtEnd) := by
    rw [split_eq_run]
    rfl
  have words : split ['a', '#'] = .ok [['a', '#']] := by
    rw [split_eq_run]
    rfl
  exact ⟨(split_completable _).1.mp opened, escaped, (split_completable _).2.1 escaped, words,
    (split_completable _).2.2.1 _ words⟩

end Text

end ShellWords
