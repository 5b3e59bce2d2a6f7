import ShellWords.Proofs.Text.Lines
import ShellWords.Proofs.Token.Grammar
import ShellWords.Settings.Parse

/-!
# Settings texts one after the other

What a line does to the settings does not depend on what is set already: it is merged into it
(`applyLine_eq_merge`). Merging is associative, so a text of settings is merged as a whole, and two
texts with a line feed between them mean what the second one means merged into the first one. Errors
are those of the text they are in, but for the number of the line, which counts from the start of
both (`parse_append_newline`).
-/
namespace ShellWords

/-- An error some lines further down. Only those that name a line move with it. -/
def SettingsError.below (lines : Nat) : SettingsError → SettingsError
  | line number fault => line (number + lines) fault
  | homeUnknown => homeUnknown

namespace Settings

variable (homes : Homes)

/-! ### Merging -/

theorem merge_empty (s : Settings) : s.merge {} = s := by
  simp [merge]

theorem empty_merge (s : Settings) : merge {} s = s := by
  simp [merge]

theorem merge_assoc (s t u : Settings) : (s.merge t).merge u = s.merge (t.merge u) := by
  simp [merge, Bool.or_assoc, Option.orElse_eq_orElse, Option.orElse_eq_or, Option.or_assoc]

/-! ### Lines -/

private theorem assign_eq_merge (s : Settings) (key : Text) (value : Option Text) :
    assign homes s key value = (assign homes {} key value).map s.merge := by
  unfold assign
  -- Each setting changes a field of its own, which no other settings have a say in.
  cases Setting.ofName? key with
  | none => rfl
  | some setting =>
    cases setting <;> cases value
    case log.some value | localeDir.some value =>
      dsimp only
      cases pathOf homes value <;> simp [Except.map, merge]
    all_goals simp [Except.map, merge]

private theorem applyWords_eq_merge (s : Settings) (words : List Text) :
    applyWords homes s words = (applyWords homes {} words).map s.merge := by
  match words with
  | [] => simp [applyWords, Except.map, merge_empty]
  | [directive] => simp only [applyWords]; split <;> rfl
  | [directive, key] | [directive, key, value] =>
    simp only [applyWords]
    split
    · rfl
    · exact assign_eq_merge homes s _ _
  | directive :: key :: value :: other :: others => simp only [applyWords]; split <;> rfl

theorem applyLine_eq_merge (s : Settings) (line : Text) :
    applyLine homes s line = (applyLine homes {} line).map s.merge := by
  unfold applyLine
  cases Text.split line with
  | ok words => exact applyWords_eq_merge homes s words
  | error e => rfl

/-- A line is read in one run, whose words are applied unless it stops too early. -/
theorem applyLine_eq_run (s : Settings) (line : Text) :
    applyLine homes s line =
      match (Phase.start.run {} [] line).failure with
      | none => applyWords homes s ((Phase.start.run {} [] line).tokens.filterMap Token.word?)
      | some e => .error (.fault (.unreadable (.lex e))) := by
  rw [applyLine, Text.split, Stream.words_eq, Stream.tokens_ofText_all]
  cases (Phase.start.run {} [] line).failure <;> rfl

private theorem applyLine_nil (s : Settings) : applyLine homes s [] = .ok s := by
  rw [applyLine_eq_run]
  rfl

theorem applyLines_eq_merge (s : Settings) (number : Nat) (lines : List Text) :
    applyLines homes s number lines = (applyLines homes {} number lines).map s.merge := by
  -- Each line is merged into all that stands before it, which is settled by associativity.
  induction lines generalizing s number with
  | nil => simp [applyLines, Except.map, merge_empty]
  | cons line lines ih =>
    simp only [applyLines]
    rw [applyLine_eq_merge homes s]
    cases applyLine homes {} line with
    | error e => rfl
    | ok first =>
      simp only [Except.map]
      rw [ih (s.merge first), ih first]
      cases applyLines homes {} (number + 1) lines with
      | error e => rfl
      | ok later => simp only [Except.map, merge_assoc]

private theorem applyLines_below (s : Settings) (number below : Nat) (lines : List Text) :
    applyLines homes s (number + below) lines =
      (applyLines homes s number lines).mapError (SettingsError.below below) := by
  induction lines generalizing s number with
  | nil => rfl
  | cons line lines ih =>
    simp only [applyLines]
    cases applyLine homes s line with
    | error e => cases e <;> rfl
    | ok s => rw [← ih, Nat.add_right_comm]

theorem applyLines_append (s : Settings) (number : Nat) (lines others : List Text) :
    applyLines homes s number (lines ++ others) =
      match applyLines homes s number lines with
      | .ok s => applyLines homes s (number + lines.length) others
      | .error e => .error e := by
  induction lines generalizing s number with
  | nil => rfl
  | cons line lines ih =>
    simp only [List.cons_append, applyLines]
    cases applyLine homes s line with
    | error e => rfl
    | ok s =>
      dsimp only
      rw [ih, List.length_cons, Nat.add_right_comm, Nat.add_assoc]

/-! ### Texts -/

/-- A line feed at the end of a text changes nothing. -/
private theorem applyLines_newline_end (t : Text) :
    applyLines homes {} 1 (Text.splitLines (t ++ ['\n'])) = parse homes t := by
  rcases Text.splitLines_append_newline_end t with same | longer
  · rw [same, parse]
  · rw [longer, applyLines_append, ← parse]
    cases parse homes t with
    | error e => rfl
    | ok s => simp only [applyLines, applyLine_nil]

/-- The first text decides if it has an error; else the second one is merged into it, and an error
of it is further down by the lines of the first one. -/
theorem parse_append (t u : Text) :
    parse homes (t ++ '\n' :: u) =
      match parse homes t with
      | .ok s => ((parse homes u).mapError
          (SettingsError.below (Text.splitLines (t ++ ['\n'])).length)).map s.merge
      | .error e => .error e := by
  rw [parse, Text.splitLines_append_newline, applyLines_append, applyLines_newline_end]
  cases parse homes t with
  | error e => rfl
  | ok s =>
    simp only
    rw [applyLines_eq_merge, applyLines_below]
    rfl

/-- Two texts with a line feed between them are read one after the other. -/
theorem parse_append_newline (t u : Text) :
    (∀ e, parse homes t = .error e → parse homes (t ++ '\n' :: u) = .error e) ∧
    ∀ s, parse homes t = .ok s →
      (∀ number fault, parse homes u = .error (.line number fault) →
        parse homes (t ++ '\n' :: u) =
          .error (.line (number + (Text.splitLines (t ++ ['\n'])).length) fault)) ∧
      (parse homes u = .error .homeUnknown →
        parse homes (t ++ '\n' :: u) = .error .homeUnknown) ∧
      ∀ overlay, parse homes u = .ok overlay →
        parse homes (t ++ '\n' :: u) = .ok (s.merge overlay) := by
  rw [parse_append]
  constructor
  · intro e failed
    rw [failed]
  · intro s first
    rw [first]
    refine ⟨?_, ?_, ?_⟩
    · intro number fault failed
      rw [failed]
      rfl
    · intro failed
      rw [failed]
      rfl
    · intro overlay second
      rw [second]
      rfl

/-- A text that ends in a carriage return and has the home of another user in it, before one that
sets a thing anew, to nothing, and before one that asks for a user who cannot be looked up. -/
theorem parse_append_newline_anew :
    let homes : Homes :=
      { ofUser? := fun user => if user = "root".toList then some "/root" else none }
    let first : Text := "set log ~root/x\nset comment-chars ;\r"
    let anew : Text := "set comment-chars ''"
    let faulty : Text := "# ok\nset log ~\x00"
    let log : Path := ⟨.root, ["root", "x"]⟩
    parse homes first = .ok { log := some log, commentChars := some ";" } ∧
    parse homes (first ++ '\n' :: anew) = .ok { log := some log, commentChars := some "" } ∧
    parse homes (first ++ '\n' :: faulty) = .error (.line 4 .nulCharacter) := by
  intro homes first anew faulty log
  have parsed : parse homes first = .ok { log := some log, commentChars := some ";" } := by
    decide +kernel
  have parsedAnew : parse homes anew = .ok { commentChars := some "" } := by
    decide +kernel
  have failed : parse homes faulty = .error (.line 2 .nulCharacter) := by
    decide +kernel
  have later := ((parse_append_newline homes first faulty).2 _ parsed).1 _ _ failed
  exact ⟨parsed, ((parse_append_newline homes first anew).2 _ parsed).2.2 _ parsedAnew, later⟩

end Settings

end ShellWords
