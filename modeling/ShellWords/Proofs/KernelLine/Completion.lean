import ShellWords.Proofs.KernelLine.Grammar

/-!
# Lines with a quote missing, and lines beyond repair

What a line lacks depends on nothing but the place that its end leads to (`Place.failure_append`).
From a place in a quoted value a quote completes the line, and nothing else of one character does.
A line that leads to no place has a quote where none may be, and no more text makes up for it.
-/
namespace ShellWords.KernelLine

/-! ### Lines that are cut -/

namespace Place

/-- The place that a part of a line leads to. There is none if a quote stands where none may. -/
def through? (place : Place) : Text → Option Place
  | [] => some place
  | c :: rest =>
    match place.next c with
    | .error _ => none
    | .ok next => (next.getD between).through? rest

/-- What is wrong with a line that is read from this place on. -/
def failure (place : Place) (t : Text) : Option QuotingError :=
  match place.through? t with
  | none => some .unexpected
  | some quoted => some .unbalanced
  | some _ => none

variable {place : Place} {c : Char}

theorem through?_append (place : Place) (t more : Text) :
    place.through? (t ++ more) = (place.through? t).bind fun later => later.through? more := by
  induction t generalizing place with
  | nil => rfl
  | cons c rest ih =>
    rw [List.cons_append, through?, through?]
    cases place.next c with
    | error e => rfl
    | ok next => exact ih (next.getD between)

/-- What is wrong with a longer line is what is wrong from the place in between on. -/
theorem failure_append (place : Place) (t more : Text) :
    place.failure (t ++ more) =
      match place.through? t with
      | none => some .unexpected
      | some later => later.failure more := by
  rw [failure, through?_append]
  cases place.through? t <;> rfl

/-- A single character is refused only because it, or what it follows, is a quote out of place. -/
private theorem next_ne_unbalanced : place.next c ≠ .error .unbalanced := by
  cases place with
  | between | name | value =>
    by_cases quote : c = '"' <;> cases blank : Text.isBlank c <;> simp [Place.next, quote, blank]
  | assign | closed => cases blank : Text.isBlank c <;> simp [Place.next, blank]
  | quoted => simp [Place.next]

/-! ### Place by place -/

private theorem failure_ne_unexpected (place : Place) : place.failure [] ≠ some .unexpected := by
  cases place <;> decide

private theorem failure_quote_iff (place : Place) :
    place.failure [] = some .unbalanced ↔ place.failure ['"'] = none := by
  cases place <;> decide

theorem exists_completion (place : Place) : ∃ completion, place.failure completion = none := by
  cases place with
  | quoted => exact ⟨['"'], rfl⟩
  | between | name | assign | value | closed => exact ⟨[], rfl⟩

end Place

/-! ### Lines and their errors -/

private theorem map_eq_error_iff {α β ε : Type} {result : Except ε α} {f : α → β} {e : ε} :
    result.map f = .error e ↔ result = .error e := by
  cases result <;> simp [Except.map]

/-- How a line fails does not depend on the argument at hand. By induction on the line. -/
private theorem splitFrom_eq_error_iff {place : Place} {read t : Text} {e : QuotingError} :
    splitFrom place read t = .error e ↔ place.failure t = some e := by
  induction t generalizing place read with
  | nil => cases place <;> simp [splitFrom, Place.failure, Place.through?]
  | cons c rest ih =>
    cases step : place.next c with
    | error refused =>
      have stuck : place.failure (c :: rest) = some .unexpected := by
        simp [Place.failure, Place.through?, step]
      have unexpected : refused = .unexpected := by
        cases refused with
        | unexpected => rfl
        | unbalanced => exact absurd step Place.next_ne_unbalanced
      simp [splitFrom, step, stuck, unexpected]
    | ok move =>
      have moved : place.failure (c :: rest) = (move.getD .between).failure rest := by
        simp [Place.failure, Place.through?, step]
      rw [moved]
      cases move with
      | some next =>
        rw [splitFrom_next step]
        exact ih
      | none =>
        -- A blank may end an argument, which makes no difference to the error of what follows.
        obtain ⟨blank, closed⟩ := Place.next_eq_none_iff.mp step
        by_cases outside : place = .between
        · subst outside
          have dropped : splitFrom .between read (c :: rest) = splitFrom .between [] rest := by
            rw [splitFrom, step]
            rfl
          rw [dropped]
          exact ih
        · have ends : place.isEnd = true := by simp [Place.isEnd, outside, closed]
          rw [splitFrom_end ends blank, map_eq_error_iff]
          exact ih

theorem split_eq_error_iff {line : Text} {e : QuotingError} :
    split line = .error e ↔ Place.between.failure line = some e :=
  splitFrom_eq_error_iff

theorem exists_split_iff {line : Text} :
    (∃ arguments, split line = .ok arguments) ↔ Place.between.failure line = none := by
  have failed (e : QuotingError) : split line = .error e ↔ Place.between.failure line = some e :=
    split_eq_error_iff
  cases cut : split line with
  | error e =>
    have failure := (failed e).mp cut
    simp [failure]
  | ok arguments =>
    have noFailure : Place.between.failure line = none := by
      cases failure : Place.between.failure line with
      | none => rfl
      | some e =>
        rw [(failed e).mpr failure] at cut
        cases cut
    simp [noFailure]

/-- A quote out of place is what leads to no place. -/
theorem split_eq_unexpected_iff {line : Text} :
    split line = .error .unexpected ↔ Place.between.through? line = none := by
  have whole := Place.failure_append .between line []
  rw [List.append_nil] at whole
  rw [split_eq_error_iff, whole]
  cases Place.between.through? line with
  | none => simp
  | some later => simpa using later.failure_ne_unexpected

theorem split_append_of_stuck {line : Text} (stuck : Place.between.through? line = none)
    (more : Text) : split (line ++ more) = .error .unexpected := by
  rw [split_eq_error_iff, Place.failure_append, stuck]

theorem exists_split_append {line : Text} {later : Place}
    (leads : Place.between.through? line = some later) :
    ∃ completion arguments, split (line ++ completion) = .ok arguments := by
  obtain ⟨completion, completes⟩ := later.exists_completion
  refine ⟨completion, exists_split_iff.mpr ?_⟩
  rw [Place.failure_append, leads]
  exact completes

/-- Blanks at the end of a line change nothing about its arguments. -/
private theorem Line.append_blanks {arguments : List Text} {line blanks : Text}
    (laid : Line arguments line) (allBlank : AllBlank blanks) :
    Line arguments (line ++ blanks) := by
  have longer {t : Text} (blank : AllBlank t) : AllBlank (t ++ blanks) :=
    List.forall_mem_append.mpr ⟨blank, allBlank⟩
  induction laid with
  | blank blank => exact .blank (longer blank)
  | last before valid after =>
    rw [List.append_assoc]
    exact .last before valid (longer after)
  | cons before valid gap notEmpty more _ ih =>
    rw [List.append_assoc]
    exact .cons before valid gap notEmpty more ih

/-- A line is unbalanced if and only if a quote at its end completes it. A quote in it is unexpected
if and only if nothing at its end completes it, and then every longer line is refused for the same
reason. A line that can be cut into arguments can be followed by blanks, and has the same ones. -/
theorem quotingError_iff (line : Text) :
    (split line = .error .unbalanced ↔ ∃ arguments, split (line ++ ['"']) = .ok arguments) ∧
    (split line = .error .unexpected ↔
      ¬∃ completion arguments, split (line ++ completion) = .ok arguments) ∧
    (split line = .error .unexpected → ∀ more, split (line ++ more) = .error .unexpected) ∧
    (∀ arguments, split line = .ok arguments →
      ∀ blanks, AllBlank blanks → split (line ++ blanks) = .ok arguments) := by
  refine ⟨?_, ?_, ?_, ?_⟩
  -- With and without the quote, the cut depends only on the place to which the line leads.
  · have whole := Place.failure_append .between line []
    rw [List.append_nil] at whole
    rw [split_eq_error_iff, exists_split_iff, whole, Place.failure_append]
    cases Place.between.through? line with
    | none => simp
    | some later => exact later.failure_quote_iff
  · rw [split_eq_unexpected_iff]
    constructor
    · rintro stuck ⟨completion, arguments, cut⟩
      rw [split_append_of_stuck stuck] at cut
      cases cut
    · intro hopeless
      cases leads : Place.between.through? line with
      | none => rfl
      | some later => exact absurd (exists_split_append leads) hopeless
  · intro unexpected
    exact split_append_of_stuck (split_eq_unexpected_iff.mp unexpected)
  · intro arguments cut blanks allBlank
    exact split_of_line ((line_of_split cut).append_blanks allBlank)

/-- A quote within a name, which no text mends, and a value that ends the line. -/
theorem quotingError_iff_value :
    split "foo\"" = .error .unexpected ∧ split ("foo\"" ++ " bar\"") = .error .unexpected ∧
    split "a= b=\"c\"" = .ok ["a=", "b=\"c\""] ∧
    split ("a= b=\"c\"" ++ "\t\n") = .ok ["a=", "b=\"c\""] := by
  have stuck : split "foo\"" = .error .unexpected := rfl
  have cut : split "a= b=\"c\"" = .ok ["a=", "b=\"c\""] := rfl
  have blanks : AllBlank "\t\n" := List.all_eq_true.mp rfl
  exact ⟨stuck, (quotingError_iff _).2.2.1 stuck _, cut,
    (quotingError_iff _).2.2.2 _ cut _ blanks⟩

end ShellWords.KernelLine
