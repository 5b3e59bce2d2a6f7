import ShellWords.Proofs.KernelLine.Grammar
import ShellWords.Proofs.Token.Grammar
import ShellWords.Text.Runs

/-!
# Plain text

The runs of a text are also what a derivation finds in it: blanks, and runs with a blank between any
two (`Text.hasRuns_iff`). By induction on that derivation, a text without a double quote is a kernel
line of its runs, and a text whose characters are blanks and parts of words is a stream of them. On
plain text the two ways to cut it agree with each other and with cutting at blanks.
-/
namespace ShellWords

namespace Text

/-- A part of a text without a blank in it. -/
structure IsRun (t : Text) : Prop where
  nonempty : t ≠ []
  solid : ∀ c ∈ t, isBlank c = false

/-- A text, and its longest runs. Behind each of them there is a blank, or the text ends. -/
inductive HasRuns : Text → List Text → Prop
  | empty : HasRuns [] []
  | blank {c : Char} {rest : Text} {runs : List Text} :
      isBlank c = true → HasRuns rest runs → HasRuns (c :: rest) runs
  | run {run rest : Text} {c : Char} {runs : List Text} :
      IsRun run → isBlank c = true → HasRuns rest runs → HasRuns (run ++ c :: rest) (run :: runs)
  | last {run : Text} : IsRun run → HasRuns run [run]

/-! ### Runs -/

variable {t : Text} {c : Char}

theorem runs_append_blank (first : Text) (blank : isBlank c = true) (rest : Text) :
    runs (first ++ c :: rest) = runs first ++ runs rest := by
  rw [runs, List.splitOnP_append_cons _ _ blank, List.filter_append]
  rfl

theorem runs_of_isRun (isRun : IsRun t) : runs t = [t] := by
  rw [runs, List.splitOnP_eq_singleton isRun.solid]
  simp [isRun.nonempty]

private theorem IsRun.singleton (solid : isBlank c = false) : IsRun [c] :=
  ⟨List.cons_ne_nil _ _, List.forall_mem_singleton.mpr solid⟩

theorem IsRun.cons (solid : isBlank c = false) (isRun : IsRun t) : IsRun (c :: t) :=
  ⟨List.cons_ne_nil _ _, List.forall_mem_cons.mpr ⟨solid, isRun.solid⟩⟩

private theorem runs_of_hasRuns {found : List Text} (has : HasRuns t found) : runs t = found := by
  induction has with
  | empty => rfl
  | blank blank _ ih =>
    rw [← ih]
    exact runs_append_blank [] blank _
  | run isRun blank _ ih =>
    rw [runs_append_blank _ blank, runs_of_isRun isRun, ih, List.singleton_append]
  | last isRun => exact runs_of_isRun isRun

/-- A character in front of a text goes to the run that the text begins with, if it does. -/
private theorem exists_hasRuns_cons (solid : isBlank c = false) {found : List Text}
    (has : HasRuns t found) : ∃ longer, HasRuns (c :: t) longer := by
  cases has with
  | empty => exact ⟨_, .last (.singleton solid)⟩
  | blank blank later => exact ⟨_, .run (.singleton solid) blank later⟩
  | run isRun blank later => exact ⟨_, .run (isRun.cons solid) blank later⟩
  | last isRun => exact ⟨_, .last (isRun.cons solid)⟩

private theorem exists_hasRuns (t : Text) : ∃ found, HasRuns t found := by
  induction t with
  | nil => exact ⟨[], .empty⟩
  | cons c rest ih =>
    obtain ⟨found, has⟩ := ih
    cases blank : isBlank c with
    | true => exact ⟨found, .blank blank has⟩
    | false => exact exists_hasRuns_cons blank has

theorem hasRuns_iff {found : List Text} : HasRuns t found ↔ runs t = found := by
  constructor
  · exact runs_of_hasRuns
  · rintro rfl
    obtain ⟨found, has⟩ := exists_hasRuns t
    rwa [runs_of_hasRuns has]

theorem HasRuns.isRun {found : List Text} (has : HasRuns t found) {run : Text}
    (listed : run ∈ found) : IsRun run := by
  induction has with
  | empty => cases listed
  | blank _ _ ih => exact ih listed
  | run isRun _ _ ih => exact (List.mem_cons.mp listed).elim (fun same => same ▸ isRun) ih
  | last isRun => exact List.mem_singleton.mp listed ▸ isRun

/-- The runs of a text are made of its characters. -/
private theorem HasRuns.mem {found : List Text} (has : HasRuns t found) {run : Text}
    (listed : run ∈ found)
    (member : c ∈ run) : c ∈ t := by
  induction has with
  | empty => cases listed
  | blank _ _ ih => exact List.mem_cons_of_mem _ (ih listed)
  | run _ _ _ ih =>
    rcases List.mem_cons.mp listed with rfl | later
    · exact List.mem_append_left _ member
    · exact List.mem_append_right _ (List.mem_cons_of_mem _ (ih later))
  | last _ => exact List.mem_singleton.mp listed ▸ member

end Text

/-! ### Runs as arguments -/

namespace KernelLine

/-- Without a quote, a name goes on as a name, or as a value after its first equals sign. -/
private theorem argumentRest_name_of_plain {t : Text} (plain : ∀ c ∈ t, isPlain c = true) :
    ArgumentRest .name t := by
  induction t with
  | nil => exact .nil rfl
  | cons c rest ih =>
    obtain ⟨first, others⟩ := List.forall_mem_cons.mp plain
    have step := Place.name_next_iff.mpr ⟨first, rfl⟩
    refine .ofNext (by simp) step ?_
    split
    · exact .assign (.plain others)
    · exact ih others

private theorem isArgument_of_isRun {run : Text} (isRun : run.IsRun) (unquoted : '"' ∉ run) :
    IsArgument run := by
  have plain : ∀ c ∈ run, isPlain c = true := by
    intro c member
    refine isPlain_iff.mpr ⟨isRun.solid c member, ?_⟩
    rintro rfl
    exact unquoted member
  cases run with
  | nil => exact absurd rfl isRun.nonempty
  | cons c rest =>
    obtain ⟨first, others⟩ := List.forall_mem_cons.mp plain
    exact .ofRest first (argumentRest_name_of_plain others)

/-- A line without a quote has its runs for arguments. -/
private theorem line_of_hasRuns {line : Text} {runs : List Text} (has : line.HasRuns runs)
    (unquoted : '"' ∉ line) : Line runs line := by
  induction has with
  | empty => exact .blank nofun
  | blank blank _ ih => exact .blank_cons blank (ih fun member => unquoted (by simp [member]))
  | run isRun blank _ ih =>
    simp only [List.mem_append, List.mem_cons, not_or] at unquoted
    obtain ⟨inRun, -, inRest⟩ := unquoted
    exact .ofArgument (isArgument_of_isRun isRun inRun) (.blank blank (ih inRest))
  | last isRun =>
    have whole := Line.ofArgument (isArgument_of_isRun isRun unquoted) .nothing
    rwa [List.append_nil] at whole

end KernelLine

/-! ### Runs as words -/

variable {k : Classifier}

/-- A text whose blanks are blanks and whose runs are words is the stream of its runs. -/
private theorem tokenStream_of_hasRuns {t : Text} {runs : List Text} (has : t.HasRuns runs)
    (blanks : ∀ c ∈ t, Text.isBlank c = true → k.classOf c = .space)
    (words : ∀ run ∈ runs, WordSource k run run) : TokenStream k t (runs.map (⟨.word, ·⟩)) := by
  induction has with
  | empty => exact .empty
  | blank blank _ ih =>
    obtain ⟨first, others⟩ := List.forall_mem_cons.mp blanks
    exact .blank (first blank) (ih others words)
  | run _ blank _ ih =>
    obtain ⟨first, others⟩ := List.forall_mem_cons.mp (List.forall_mem_append.mp blanks).2
    obtain ⟨word, words⟩ := List.forall_mem_cons.mp words
    exact .word word (first blank) (ih others words)
  | last _ => exact .lastWord (words _ List.mem_cons_self)

/-- What is left of the standard classes without quotes and escapes. -/
private theorem Classifier.classOf_standard {c : Char} (double : c ≠ '"') (single : c ≠ '\'')
    (backslash : c ≠ '\\') : ({} : Classifier).classOf c =
      if c ∈ [' ', '\t', '\r', '\n'] then .space else if c = '#' then .comment else .word := by
  rw [classOf_eq]
  simp only [List.mem_singleton, double, single, backslash, if_false]

namespace Text

/-- A text without quotes and escapes, in which no run is a comment, and whose blanks are spaces,
tabs and the ends of lines. -/
structure IsPlain (t : Text) : Prop where
  double : '"' ∉ t
  single : '\'' ∉ t
  backslash : '\\' ∉ t
  unmarked : ∀ run ∈ t.runs, run.head? ≠ some '#'
  blanks : ∀ c ∈ t, isBlank c = true → c ∈ [' ', '\t', '\r', '\n']

-- Going through the text is the way to decide about blanks, not going through all characters.
instance (t : Text) : Decidable t.IsPlain :=
  have : Decidable (∀ c ∈ t, isBlank c = true → c ∈ [' ', '\t', '\r', '\n']) :=
    List.decidableBAll (fun c : Char => isBlank c = true → c ∈ [' ', '\t', '\r', '\n']) t
  decidable_of_iff ('"' ∉ t ∧ '\'' ∉ t ∧ '\\' ∉ t ∧ (∀ run ∈ t.runs, run.head? ≠ some '#') ∧
      ∀ c ∈ t, isBlank c = true → c ∈ [' ', '\t', '\r', '\n'])
    ⟨fun ⟨double, single, backslash, unmarked, blanks⟩ =>
      ⟨double, single, backslash, unmarked, blanks⟩,
    fun ⟨double, single, backslash, unmarked, blanks⟩ =>
      ⟨double, single, backslash, unmarked, blanks⟩⟩

variable {t : Text} {c : Char}

theorem IsPlain.classOf (plain : t.IsPlain) (member : c ∈ t) : ({} : Classifier).classOf c =
    if isBlank c = true then .space else if c = '#' then .comment else .word := by
  have other {d : Char} (absent : d ∉ t) : c ≠ d := fun same => absent (same ▸ member)
  rw [Classifier.classOf_standard (other plain.double) (other plain.single) (other plain.backslash)]
  -- The standard class of blanks lists four of them, and the text has no others.
  have listed : c ∈ [' ', '\t', '\r', '\n'] ↔ isBlank c = true := by
    refine ⟨?_, plain.blanks c member⟩
    have four : ∀ d ∈ [' ', '\t', '\r', '\n'], isBlank d = true := by
      simp only [List.forall_mem_cons]
      exact ⟨rfl, rfl, rfl, rfl, nofun⟩
    exact four c
  simp only [listed]

/-- A run is a word that stands for itself. -/
private theorem IsPlain.wordSource (plain : t.IsPlain) {run : Text} (listed : run ∈ t.runs) :
    WordSource {} run run := by
  have has : t.HasRuns t.runs := hasRuns_iff.mpr rfl
  have isRun := has.isRun listed
  have classes : ∀ c ∈ run, ({} : Classifier).classOf c = if c = '#' then .comment else .word := by
    intro c member
    rw [plain.classOf (has.mem listed member), if_neg (by simp [isRun.solid c member])]
  cases run with
  | nil => exact absurd rfl isRun.nonempty
  | cons c rest =>
    obtain ⟨first, others⟩ := List.forall_mem_cons.mp classes
    have notMark : c ≠ '#' := by simpa using plain.unmarked _ listed
    rw [if_neg notMark] at first
    refine .ofPlain first fun d member => ?_
    rw [others d member]
    split
    · exact .inr rfl
    · exact .inl rfl

/-- Plain text is cut into its runs, as words of a shell and as arguments of a kernel alike. -/
theorem IsPlain.split_eq_runs (plain : t.IsPlain) :
    t.split = .ok t.runs ∧ KernelLine.split t = .ok t.runs := by
  have has : t.HasRuns t.runs := hasRuns_iff.mpr rfl
  constructor
  · have blanks : ∀ c ∈ t, isBlank c = true → ({} : Classifier).classOf c = .space := by
      intro c member blank
      rw [plain.classOf member, if_pos blank]
    rw [split_of_tokenStream (tokenStream_of_hasRuns has blanks fun _ => plain.wordSource),
      List.filterMap_map]
    exact congrArg Except.ok List.filterMap_some
  · exact KernelLine.split_of_line (KernelLine.line_of_hasRuns has plain.double)

/-- Equals signs first, last and twice in a run, a mark within one, and all four blanks. -/
theorem IsPlain.split_eq_runs_marks :
    IsPlain " a==b#\t=c\r\nd= " ∧ split " a==b#\t=c\r\nd= " = .ok ["a==b#", "=c", "d="] ∧
    KernelLine.split " a==b#\t=c\r\nd= " = .ok ["a==b#", "=c", "d="] := by
  have runs : runs " a==b#\t=c\r\nd= " = (["a==b#", "=c", "d="] : List Text) := by decide
  have plain : IsPlain " a==b#\t=c\r\nd= " := by decide
  have cut := plain.split_eq_runs
  rw [runs] at cut
  exact ⟨plain, cut⟩

end Text

end ShellWords
