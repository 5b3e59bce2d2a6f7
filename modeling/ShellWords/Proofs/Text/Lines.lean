import ShellWords.Text.Lines

/-!
# Lines of joined texts

A line feed ends a line whatever stands before it, a carriage return included, so the lines of two
texts with a line feed between them are those of the first one and then those of the second one.
Lines have no breaks in them, and those that have none and are not empty are found again when line
feeds are put between them (`splitLines_intercalate`).
-/
namespace ShellWords.Text

/-- A text without line breaks. -/
def IsOneLine (t : Text) : Prop := ∀ c ∈ t, isLineBreak c = false

instance (t : Text) : Decidable t.IsOneLine :=
  decidable_of_iff (t.all fun c => !isLineBreak c) (by simp [IsOneLine])

private theorem splitLines_pair (t : Text) : splitLines ('\r' :: '\n' :: t) =
    [] :: splitLines t := rfl

private theorem splitLines_cons {c : Char} {t : Text}
    (alone : ∀ rest, c = '\r' → t ≠ '\n' :: rest) :
    splitLines (c :: t) =
      if isLineBreak c then [] :: splitLines t else extendFirst c (splitLines t) := by
  rw [splitLines]
  exact alone

private theorem extendFirst_append (c : Char) {lines : List Text} (some_line : lines ≠ [])
    (others : List Text) : extendFirst c (lines ++ others) = extendFirst c lines ++ others := by
  cases lines with
  | nil => exact absurd rfl some_line
  | cons line lines => rfl

theorem splitLines_ne_nil {t : Text} (some_character : t ≠ []) : splitLines t ≠ [] := by
  fun_cases splitLines t with
  | case1 => exact absurd rfl some_character
  | case2 | case3 => simp
  | case4 c rest => cases splitLines rest <;> simp [extendFirst]

/-- A character that makes no pair with what follows makes none with a line feed that is put after
that either, unless it is a carriage return at the end. -/
private theorem splitLines_cons_append {c : Char} {t : Text}
    (alone : ∀ rest, c = '\r' → t ≠ '\n' :: rest) (notLast : ¬(c = '\r' ∧ t = [])) (u : Text) :
    splitLines (c :: t ++ '\n' :: u) =
      if isLineBreak c then [] :: splitLines (t ++ '\n' :: u)
      else extendFirst c (splitLines (t ++ '\n' :: u)) := by
  apply splitLines_cons
  rintro rest rfl same
  cases t with
  | nil => exact notLast ⟨rfl, rfl⟩
  | cons d t =>
    obtain ⟨rfl, -⟩ := List.cons.inj same
    exact alone t rfl rfl

/-- The lines up to a line feed, and the lines after it. -/
theorem splitLines_append_newline (t u : Text) :
    splitLines (t ++ '\n' :: u) = splitLines (t ++ ['\n']) ++ splitLines u := by
  induction t using splitLines.induct with
  | case1 => rfl
  | case2 rest ih => simp only [List.cons_append, splitLines_pair, ih]
  | case3 c rest alone isBreak ih =>
    by_cases last : c = '\r' ∧ rest = []
    · obtain ⟨rfl, rfl⟩ := last
      rfl
    · rw [splitLines_cons_append alone last, splitLines_cons_append alone last, if_pos isBreak,
        if_pos isBreak, ih, List.cons_append]
  | case4 c rest alone notBreak ih =>
    by_cases last : c = '\r' ∧ rest = []
    · obtain ⟨rfl, rfl⟩ := last
      rfl
    · have some_line : splitLines (rest ++ ['\n']) ≠ [] := splitLines_ne_nil (by simp)
      rw [splitLines_cons_append alone last, splitLines_cons_append alone last, if_neg notBreak,
        if_neg notBreak, ih, extendFirst_append c some_line]

/-- A line feed at the end ends the last line, or an empty one if that has ended. -/
theorem splitLines_append_newline_end (t : Text) :
    splitLines (t ++ ['\n']) = splitLines t ∨ splitLines (t ++ ['\n']) = splitLines t ++ [[]] := by
  induction t using splitLines.induct with
  | case1 => exact .inr rfl
  | case2 rest ih =>
    simp only [List.cons_append, splitLines_pair, List.cons.injEq, true_and]
    exact ih
  | case3 c rest alone isBreak ih =>
    by_cases last : c = '\r' ∧ rest = []
    · obtain ⟨rfl, rfl⟩ := last
      exact .inl rfl
    · rw [splitLines_cons_append alone last, splitLines_cons alone, if_pos isBreak, if_pos isBreak]
      simpa using ih
  | case4 c rest alone notBreak ih =>
    by_cases last : c = '\r' ∧ rest = []
    · obtain ⟨rfl, rfl⟩ := last
      exact .inl rfl
    · rw [splitLines_cons_append alone last, splitLines_cons alone, if_neg notBreak,
        if_neg notBreak]
      rcases ih with same | longer
      · exact .inl (congrArg _ same)
      · rw [longer]
        cases rest with
        -- The line feed ends the line that the character begins.
        | nil => exact .inl rfl
        | cons d rest => exact .inr (extendFirst_append c (splitLines_ne_nil (by simp)) _)

/-! ### Texts in one line -/

theorem isOneLine_append_iff {t u : Text} : IsOneLine (t ++ u) ↔ IsOneLine t ∧ IsOneLine u :=
  List.forall_mem_append

theorem mem_intercalate {α : Type} {x : α} {separator : List α} {parts : List (List α)}
    (member : x ∈ List.intercalate separator parts) :
    x ∈ separator ∨ ∃ part ∈ parts, x ∈ part := by
  induction parts with
  | nil => cases member
  | cons part parts ih =>
    cases parts with
    | nil => exact .inr ⟨part, by simp, by simpa using member⟩
    | cons next parts =>
      rw [List.intercalate_cons_cons, List.mem_append, List.mem_append] at member
      rcases member with (inPart | between) | later
      · exact .inr ⟨part, by simp, inPart⟩
      · exact .inl between
      · rcases ih later with between | ⟨other, listed, inOther⟩
        · exact .inl between
        · exact .inr ⟨other, by simp [listed], inOther⟩

theorem isOneLine_intercalate {separator : Text} {parts : List Text} (plain : IsOneLine separator)
    (oneLine : ∀ part ∈ parts, IsOneLine part) : IsOneLine (List.intercalate separator parts) := by
  intro c member
  rcases mem_intercalate member with between | ⟨part, listed, inPart⟩
  · exact plain c between
  · exact oneLine part listed c inPart

theorem isOneLine_of_mem_splitLines {t line : Text} (listed : line ∈ splitLines t) :
    IsOneLine line := by
  induction t using splitLines.induct generalizing line with
  | case1 => cases listed
  | case2 rest ih =>
    rcases List.mem_cons.mp listed with rfl | later
    · exact nofun
    · exact ih later
  | case3 c rest alone isBreak ih =>
    rw [splitLines_cons alone, if_pos isBreak] at listed
    rcases List.mem_cons.mp listed with rfl | later
    · exact nofun
    · exact ih later
  | case4 c rest alone notBreak ih =>
    rw [splitLines_cons alone, if_neg notBreak] at listed
    have plain : isLineBreak c = false := by simpa using notBreak
    -- The character is put before the first of the later lines, and the others stay as they are.
    cases lines : splitLines rest with
    | nil =>
      rw [lines, extendFirst, List.mem_singleton] at listed
      subst listed
      exact List.forall_mem_singleton.mpr plain
    | cons first others =>
      rw [lines] at ih listed
      rcases List.mem_cons.mp listed with rfl | later
      · exact List.forall_mem_cons.mpr ⟨plain, ih List.mem_cons_self⟩
      · exact ih (List.mem_cons_of_mem first later)

private theorem splitLines_cons_plain {c : Char} (plain : isLineBreak c = false) (t : Text) :
    splitLines (c :: t) = extendFirst c (splitLines t) := by
  have alone : ∀ rest, c = '\r' → t ≠ '\n' :: rest := by
    rintro rest rfl
    cases plain
  rw [splitLines_cons alone, plain]
  rfl

private theorem splitLines_of_isOneLine {line : Text} (oneLine : IsOneLine line)
    (notEmpty : line ≠ []) :
    splitLines line = [line] := by
  induction line with
  | nil => exact absurd rfl notEmpty
  | cons c rest ih =>
    obtain ⟨plain, others⟩ := List.forall_mem_cons.mp oneLine
    rw [splitLines_cons_plain plain]
    cases rest with
    | nil => rfl
    | cons d rest => rw [ih others (List.cons_ne_nil d rest), extendFirst]

private theorem splitLines_line_newline {line : Text} (oneLine : IsOneLine line) (t : Text) :
    splitLines (line ++ '\n' :: t) = line :: splitLines t := by
  induction line with
  | nil => exact splitLines_cons (c := '\n') nofun
  | cons c rest ih =>
    obtain ⟨plain, others⟩ := List.forall_mem_cons.mp oneLine
    rw [List.cons_append, splitLines_cons_plain plain, ih others, extendFirst]

/-- Lines with line feeds between them are found again. -/
theorem splitLines_intercalate {lines : List Text}
    (oneLine : ∀ line ∈ lines, IsOneLine line ∧ line ≠ []) :
    splitLines (List.intercalate ['\n'] lines) = lines := by
  induction lines with
  | nil => rfl
  | cons line lines ih =>
    obtain ⟨⟨plain, notEmpty⟩, others⟩ := List.forall_mem_cons.mp oneLine
    cases lines with
    | nil => simpa using splitLines_of_isOneLine plain notEmpty
    | cons next lines =>
      rw [List.intercalate_cons_cons, List.append_assoc, List.singleton_append,
        splitLines_line_newline plain, ih others]

end ShellWords.Text
