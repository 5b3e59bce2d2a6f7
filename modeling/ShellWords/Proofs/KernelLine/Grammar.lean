import ShellWords.KernelLine
import ShellWords.KernelLine.Grammar

/-!
# Arguments and their grammar

A kernel command line is cut into arguments if and only if the grammar lays it out as them.
Completeness reads an argument to a place where it can end. Soundness goes back through the line:
`Completes` says for each place what the rest of a line has to be, and every step keeps it.
-/
namespace ShellWords.KernelLine

theorem isPlain_iff {c : Char} : isPlain c = true ↔ Text.isBlank c = false ∧ c ≠ '"' := by
  simp [isPlain]

private theorem ne_quote_of_isBlank {c : Char} (blank : Text.isBlank c = true) : c ≠ '"' := by
  rintro rfl
  exact absurd blank (by decide)

/-! ### Single steps -/

namespace Place

variable {place next : Place} {c : Char}

/-- Whether an argument has been read that may end here. -/
def isEnd (place : Place) : Bool := place ≠ between && place ≠ quoted

theorem next_eq_none_iff : place.next c = .ok none ↔ Text.isBlank c = true ∧ place ≠ quoted := by
  cases blank : Text.isBlank c with
  | true =>
    have notQuote := ne_quote_of_isBlank blank
    cases place <;> simp [Place.next, blank, notQuote]
  | false =>
    cases place <;> by_cases quote : c = '"' <;> simp [Place.next, blank, quote] <;> decide

private theorem between_next_iff : between.next c = .ok
    (some next) ↔ isPlain c = true ∧ next = name := by
  rw [isPlain_iff]
  by_cases quote : c = '"' <;> cases blank : Text.isBlank c <;>
    simp [Place.next, quote, blank, eq_comm]

theorem name_next_iff : name.next c = .ok (some next) ↔
    isPlain c = true ∧ next = if c = '=' then assign else name := by
  rw [isPlain_iff]
  by_cases quote : c = '"' <;> cases blank : Text.isBlank c <;>
    simp [Place.next, quote, blank, eq_comm]

private theorem value_next_iff : value.next c = .ok
    (some next) ↔ isPlain c = true ∧ next = value := by
  rw [isPlain_iff]
  by_cases quote : c = '"' <;> cases blank : Text.isBlank c <;>
    simp [Place.next, quote, blank, eq_comm]

private theorem assign_next_iff : assign.next c = .ok (some next) ↔
    Text.isBlank c = false ∧ next = if c = '"' then quoted else value := by
  cases blank : Text.isBlank c <;> simp [Place.next, blank, eq_comm]

private theorem quoted_next_iff : quoted.next c = .ok (some next) ↔
    next = if c = '"' then closed else quoted := by
  simp [Place.next, eq_comm]

private theorem closed_next_ne : closed.next c ≠ .ok (some next) := by
  cases blank : Text.isBlank c <;> simp [Place.next, blank]

private theorem ne_between_of_next (step : place.next c = .ok (some next)) : next ≠ between := by
  rintro rfl
  cases place with
  | between => exact absurd (between_next_iff.mp step).2 (by simp)
  | name => have same := (name_next_iff.mp step).2; split at same <;> cases same
  | assign => have same := (assign_next_iff.mp step).2; split at same <;> cases same
  | value => exact absurd (value_next_iff.mp step).2 (by simp)
  | quoted => have same := quoted_next_iff.mp step; split at same <;> cases same
  | closed => exact absurd step closed_next_ne

end Place

variable {place next : Place} {c : Char} {read t : Text}

theorem splitFrom_next (step : place.next c = .ok (some next)) :
    splitFrom place read (c :: t) = splitFrom next (c :: read) t := by
  rw [splitFrom, step]

private theorem splitFrom_blank (blank : Text.isBlank c = true) : split (c :: t) = split t := by
  have step : Place.between.next c = .ok none := Place.next_eq_none_iff.mpr ⟨blank, by simp⟩
  rw [split, splitFrom, step]
  rfl

/-- A blank ends the argument at hand. -/
theorem splitFrom_end (ends : place.isEnd = true) (blank : Text.isBlank c = true) :
    splitFrom place read (c :: t) = (split t).map (read.reverse :: ·) := by
  simp only [Place.isEnd, ne_eq, decide_not, Bool.and_eq_true, Bool.not_eq_true',
    decide_eq_false_iff_not] at ends
  have step := Place.next_eq_none_iff.mpr ⟨blank, ends.2⟩
  rw [splitFrom, step, split]
  simp only [ends.1, if_false]
  cases splitFrom .between [] t <;> rfl

/-- So does the end of the line. -/
private theorem splitFrom_nil (ends : place.isEnd = true) (begun : read ≠ []) :
    splitFrom place read [] = .ok [read.reverse] := by
  simp only [Place.isEnd, ne_eq, decide_not, Bool.and_eq_true, Bool.not_eq_true',
    decide_eq_false_iff_not] at ends
  simp [splitFrom, ends.2, begun]

/-! ### Completeness -/

/-- A place that a character leaves as it is takes a body of such characters. -/
private theorem splitFrom_body (body read t : Text)
    (stays : ∀ d ∈ body, place.next d = .ok (some place)) :
    splitFrom place read (body ++ t) = splitFrom place (body.reverse ++ read) t := by
  induction body generalizing read with
  | nil => rfl
  | cons d body ih =>
    obtain ⟨first, others⟩ := List.forall_mem_cons.mp stays
    rw [List.cons_append, splitFrom_next first, ih _ others]
    simp

private theorem name_stays {rest : Text} (plain : ∀ d ∈ rest, isPlain d = true ∧ d ≠ '=') :
    ∀ d ∈ rest, Place.name.next d = .ok (some .name) := by
  intro d member
  obtain ⟨isPlain, notAssign⟩ := plain d member
  exact Place.name_next_iff.mpr ⟨isPlain, (if_neg notAssign).symm⟩

private theorem value_stays {rest : Text} (plain : ∀ d ∈ rest, isPlain d = true) :
    ∀ d ∈ rest, Place.value.next d = .ok (some .value) := by
  intro d member
  exact Place.value_next_iff.mpr ⟨plain d member, rfl⟩

private theorem quoted_stays {rest : Text} (noQuote : '"' ∉ rest) :
    ∀ d ∈ rest, Place.quoted.next d = .ok (some .quoted) := by
  intro d member
  have notQuote : d ≠ '"' := by
    rintro rfl
    exact noQuote member
  exact Place.quoted_next_iff.mpr (if_neg notQuote).symm

/-- A value is read from its equals sign to a place where it may end. -/
private theorem splitFrom_assign {v : Text} (valid : IsValue v) :
    ∃ place : Place, place.isEnd = true ∧
      ∀ read t, splitFrom .assign read (v ++ t) = splitFrom place (v.reverse ++ read) t := by
  cases valid with
  | @plain v plain =>
    -- An empty value ends right after the equals sign, where an argument may end too.
    cases v with
    | nil => exact ⟨.assign, rfl, fun _ _ => rfl⟩
    | cons c v =>
      obtain ⟨notBlank, notQuote⟩ := isPlain_iff.mp (plain c (by simp))
      have step := Place.assign_next_iff.mpr ⟨notBlank, (if_neg notQuote).symm⟩
      have stays := value_stays (List.forall_mem_cons.mp plain).2
      refine ⟨.value, rfl, fun read t => ?_⟩
      rw [List.cons_append, splitFrom_next step, splitFrom_body _ _ _ stays]
      simp
  | @quoted v noQuote =>
    have opens : Place.assign.next '"' = .ok (some .quoted) :=
      Place.assign_next_iff.mpr ⟨by decide, rfl⟩
    have closes : Place.quoted.next '"' = .ok (some .closed) := Place.quoted_next_iff.mpr rfl
    refine ⟨.closed, rfl, fun read t => ?_⟩
    rw [List.cons_append, splitFrom_next opens, List.append_assoc,
      splitFrom_body _ _ _ (quoted_stays noQuote), List.singleton_append, splitFrom_next closes]
    simp

/-- An argument is read to a place where it may end. -/
theorem split_argument {argument : Text} (valid : IsArgument argument) :
    ∃ place : Place, place.isEnd = true ∧
      ∀ t, split (argument ++ t) = splitFrom place argument.reverse t := by
  cases valid with
  | @name c rest first plain =>
    have step := Place.between_next_iff.mpr ⟨first, rfl⟩
    refine ⟨.name, rfl, fun t => ?_⟩
    rw [split, List.cons_append, splitFrom_next step, splitFrom_body _ _ _ (name_stays plain)]
    simp
  | @assignment c rest v first plain valid =>
    have step := Place.between_next_iff.mpr ⟨first, rfl⟩
    have assigns : Place.name.next '=' = .ok (some .assign) :=
      Place.name_next_iff.mpr ⟨by decide, rfl⟩
    obtain ⟨place, ends, reads⟩ := splitFrom_assign valid
    refine ⟨place, ends, fun t => ?_⟩
    rw [split, List.cons_append, splitFrom_next step, List.append_assoc,
      splitFrom_body _ _ _ (name_stays plain), List.cons_append, splitFrom_next assigns, reads]
    simp

private theorem ne_nil_of_isArgument {argument : Text} (valid : IsArgument argument) : argument ≠
    [] := by
  cases valid <;> simp

theorem split_blanks {blanks : Text} (allBlank : AllBlank blanks) (t : Text) :
    split (blanks ++ t) = split t := by
  induction blanks with
  | nil => rfl
  | cons c blanks ih =>
    rw [List.cons_append, splitFrom_blank (allBlank c (by simp))]
    exact ih fun d member => allBlank d (by simp [member])

theorem split_argument_gap {argument gap : Text} (valid : IsArgument argument)
    (allBlank : AllBlank gap) (notEmpty : gap ≠ []) (t : Text) :
    split (argument ++ (gap ++ t)) = (split t).map (argument :: ·) := by
  obtain ⟨place, ends, reads⟩ := split_argument valid
  -- The first blank of the gap ends the argument, the others come before the rest of the line.
  cases gap with
  | nil => exact absurd rfl notEmpty
  | cons c gap =>
    have others : AllBlank gap := fun d member => allBlank d (by simp [member])
    rw [reads, List.cons_append, splitFrom_end ends (allBlank c (by simp)), split_blanks others,
      List.reverse_reverse]

private theorem split_argument_end {argument after : Text} (valid : IsArgument argument)
    (allBlank : AllBlank after) : split (argument ++ after) = .ok [argument] := by
  cases after with
  | nil =>
    obtain ⟨place, ends, reads⟩ := split_argument valid
    have begun : argument.reverse ≠ [] := by simpa using ne_nil_of_isArgument valid
    rw [reads, splitFrom_nil ends begun, List.reverse_reverse]
  | cons c after =>
    have gap := split_argument_gap valid allBlank (by simp) []
    rw [List.append_nil] at gap
    rw [gap]
    rfl

/-- A line that the grammar lays out is cut into its arguments. -/
theorem split_of_line {arguments : List Text} {line : Text} (laid : Line arguments line) :
    split line = .ok arguments := by
  induction laid with
  | blank allBlank =>
    have blanks := split_blanks allBlank []
    rw [List.append_nil] at blanks
    rw [blanks]
    rfl
  | last before valid after =>
    rw [List.append_assoc, split_blanks before, split_argument_end valid after]
  | cons before valid gap notEmpty _ _ ih =>
    rw [List.append_assoc, List.append_assoc, split_blanks before,
      split_argument_gap valid gap notEmpty, ih]
    rfl

/-! ### Soundness -/

/-- What ends an argument that has been read up to a place. -/
inductive ArgumentRest : Place → Text → Prop
  | name {t : Text} : (∀ d ∈ t, isPlain d = true ∧ d ≠ '=') → ArgumentRest .name t
  | assignment {t v : Text} :
      (∀ d ∈ t, isPlain d = true ∧ d ≠ '=') → IsValue v → ArgumentRest .name (t ++ '=' :: v)
  | assign {v : Text} : IsValue v → ArgumentRest .assign v
  | value {t : Text} : (∀ d ∈ t, isPlain d = true) → ArgumentRest .value t
  | quoted {t : Text} : '"' ∉ t → ArgumentRest .quoted (t ++ ['"'])
  | closed : ArgumentRest .closed []

/-- What may follow an argument, with the arguments in it. -/
inductive LineRest : List Text → Text → Prop
  | nothing : LineRest [] []
  | blank {c : Char} {arguments : List Text} {line : Text} :
      Text.isBlank c = true → Line arguments line → LineRest arguments (c :: line)

/-- What the rest of a line has to be at a place where these characters of the argument at hand have
been read, and all the arguments that come of it. -/
inductive Completes : Place → Text → Text → List Text → Prop
  | between {t : Text} {arguments : List Text} :
      Line arguments t → Completes .between [] t arguments
  | argument {place : Place} {rest t : Text} {arguments : List Text} (read : Text) :
      ArgumentRest place rest → LineRest arguments t →
      Completes place read (rest ++ t) ((read ++ rest) :: arguments)

theorem Line.blank_cons {c : Char} {arguments : List Text} {line : Text}
    (blank : Text.isBlank c = true) (laid : Line arguments line) : Line arguments (c :: line) := by
  have prefixed {t : Text} (allBlank : AllBlank t) : AllBlank (c :: t) :=
    List.forall_mem_cons.mpr ⟨blank, allBlank⟩
  cases laid with
  | blank allBlank => exact .blank (prefixed allBlank)
  | last before valid after => exact .last (prefixed before) valid after
  | cons before valid gap notEmpty more later =>
    exact .cons (prefixed before) valid gap notEmpty more later

theorem Line.allBlank {t : Text} (laid : Line [] t) : AllBlank t := by
  cases laid with
  | blank allBlank => exact allBlank

/-- An argument, and what may follow it, are a line. -/
theorem Line.ofArgument {argument t : Text} {arguments : List Text} (valid : IsArgument argument)
    (rest : LineRest arguments t) : Line (argument :: arguments) (argument ++ t) := by
  have nothing : AllBlank [] := nofun
  cases rest with
  | nothing => exact .last nothing valid nothing
  | @blank c arguments line blank laid =>
    -- The grammar tells the last argument from the others, so the blank is a gap only if an
    -- argument comes after it.
    by_cases more : arguments = []
    · subst more
      exact .last nothing valid (List.forall_mem_cons.mpr ⟨blank, laid.allBlank⟩)
    · have gap : AllBlank [c] := List.forall_mem_cons.mpr ⟨blank, nothing⟩
      simpa using Line.cons nothing valid gap (by simp) more laid

theorem IsArgument.ofRest {rest : Text} (first : isPlain c = true)
    (completed : ArgumentRest .name rest) : IsArgument (c :: rest) := by
  cases completed with
  | name plain => exact .name first plain
  | assignment plain valid => exact .assignment first plain valid

theorem ArgumentRest.nil (ends : place.isEnd = true) : ArgumentRest place [] := by
  cases place with
  | between | quoted => cases ends
  | name => exact .name nofun
  | assign => exact .assign (.plain nofun)
  | value => exact .value nofun
  | closed => exact .closed

/-- The rest of an argument goes back through a step. -/
theorem ArgumentRest.ofNext {rest : Text} (begun : place ≠ .between)
    (step : place.next c = .ok (some next)) (completed : ArgumentRest next rest) :
    ArgumentRest place (c :: rest) := by
  cases place with
  | between => exact absurd rfl begun
  | name =>
    -- The first equals sign ends the name and begins the value.
    obtain ⟨plain, rfl⟩ := Place.name_next_iff.mp step
    split at completed
    · next assigns =>
      subst assigns
      cases completed with
      | assign valid =>
        have whole : ArgumentRest .name ([] ++ '=' :: rest) := .assignment nofun valid
        exact whole
    · next notAssign =>
      cases completed with
      | name others => exact .name (List.forall_mem_cons.mpr ⟨⟨plain, notAssign⟩, others⟩)
      | @assignment t v others valid =>
        have whole : ArgumentRest .name ((c :: t) ++ '=' :: v) :=
          .assignment (List.forall_mem_cons.mpr ⟨⟨plain, notAssign⟩, others⟩) valid
        exact whole
  | assign =>
    -- A quote counts only here, as the first character of the value.
    obtain ⟨notBlank, rfl⟩ := Place.assign_next_iff.mp step
    split at completed
    · next quote =>
      subst quote
      cases completed with
      | quoted noQuote => exact .assign (.quoted noQuote)
    · next notQuote =>
      cases completed with
      | value others =>
        have plain := isPlain_iff.mpr ⟨notBlank, notQuote⟩
        exact .assign (.plain (List.forall_mem_cons.mpr ⟨plain, others⟩))
  | value =>
    obtain ⟨plain, rfl⟩ := Place.value_next_iff.mp step
    cases completed with
    | value others => exact .value (List.forall_mem_cons.mpr ⟨plain, others⟩)
  | quoted =>
    obtain rfl := Place.quoted_next_iff.mp step
    split at completed
    · next quote =>
      subst quote
      cases completed
      have whole : ArgumentRest .quoted ([] ++ ['"']) := .quoted nofun
      exact whole
    · next notQuote =>
      cases completed with
      | @quoted t noQuote =>
        have whole : ArgumentRest .quoted ((c :: t) ++ ['"']) :=
          .quoted (List.not_mem_cons_of_ne_of_not_mem (Ne.symm notQuote) noQuote)
        exact whole
  | closed => exact absurd step Place.closed_next_ne

/-- The invariant goes back through a step inside an argument. -/
theorem Completes.ofNext {arguments : List Text} (initial : place = .between → read = [])
    (step : place.next c = .ok (some next)) (completed : Completes next (read ++ [c]) t arguments) :
    Completes place read (c :: t) arguments := by
  -- The characters read are not a variable here, so they are made one before the cases.
  generalize kept : read ++ [c] = before at completed
  cases completed with
  | between => simp at kept
  | @argument _ rest t arguments _ argument line =>
    subst kept
    by_cases outside : place = .between
    · obtain rfl := initial outside
      subst outside
      obtain ⟨first, rfl⟩ := Place.between_next_iff.mp step
      exact .between (.ofArgument (.ofRest first argument) line)
    · simpa using Completes.argument read (argument.ofNext outside step) line

/-- What is cut into arguments completes the argument at hand. By induction on the line. -/
theorem completes_of_splitFrom {arguments : List Text} (begun : place = .between ↔ read = [])
    (cut : splitFrom place read t = .ok arguments) : Completes place read.reverse t arguments := by
  induction t generalizing place read arguments with
  | nil =>
    -- A line may end between arguments or where one may end, but not in a quoted value.
    by_cases outside : place = .between
    · obtain rfl := begun.mp outside
      subst outside
      cases cut
      exact .between (.blank nofun)
    · by_cases unclosed : place = .quoted
      · simp [splitFrom, unclosed] at cut
      · have ends : place.isEnd = true := by simp [Place.isEnd, outside, unclosed]
        rw [splitFrom_nil ends (outside ∘ begun.mpr)] at cut
        cases cut
        simpa using Completes.argument read.reverse (.nil ends) .nothing
  | cons c t ih =>
    cases step : place.next c with
    | error e => simp [splitFrom, step] at cut
    | ok move =>
      cases move with
      | some next =>
        rw [splitFrom_next step] at cut
        have inside : next = .between ↔ c :: read = [] := by
          simpa using Place.ne_between_of_next step
        have completed := ih inside cut
        rw [List.reverse_cons] at completed
        exact .ofNext (by simpa using begun.mp) step completed
      | none =>
        -- A blank ends the argument at hand, if there is one, and what follows is a line.
        obtain ⟨blank, closed⟩ := Place.next_eq_none_iff.mp step
        have laid {others : List Text} (cut : split t = .ok others) : Line others t := by
          cases ih (Iff.intro (fun _ => rfl) fun _ => rfl) cut with
          | between laid => exact laid
          | argument _ argument => cases argument
        by_cases outside : place = .between
        · obtain rfl := begun.mp outside
          subst outside
          exact .between (.blank_cons blank (laid ((splitFrom_blank blank).symm.trans cut)))
        · have ends : place.isEnd = true := by simp [Place.isEnd, outside, closed]
          rw [splitFrom_end ends blank] at cut
          cases followers : split t with
          | error e => simp [followers, Except.map] at cut
          | ok others =>
            rw [followers] at cut
            cases cut
            have rest : LineRest others (c :: t) := .blank blank (laid followers)
            simpa using Completes.argument read.reverse (.nil ends) rest

/-- A line that is cut into arguments is laid out as them. -/
theorem line_of_split {arguments : List Text} {line : Text} (cut : split line = .ok arguments) :
    Line arguments line := by
  cases completes_of_splitFrom (by simp) cut with
  | between laid => exact laid
  | argument _ argument => cases argument

/-! ### The grammar and the splitter -/

private theorem isArgument_of_line {arguments : List Text} {line : Text}
    (laid : Line arguments line) :
    ∀ argument ∈ arguments, IsArgument argument := by
  induction laid with
  | blank => nofun
  | last _ valid _ => simpa using valid
  | cons _ valid _ _ _ _ ih => exact List.forall_mem_cons.mpr ⟨valid, ih⟩

/-- The arguments one after another, with the given gaps between them. -/
def joinWith (gap : Nat → Text) : List Text → Text
  | [] => []
  | [argument] => argument
  | argument :: next :: arguments =>
    argument ++ gap 0 ++ joinWith (fun n => gap (n + 1)) (next :: arguments)

private theorem line_joinWith {arguments : List Text} (gap : Nat → Text)
    (valid : ∀ argument ∈ arguments, IsArgument argument)
    (gaps : ∀ n, AllBlank (gap n) ∧ gap n ≠ []) : Line arguments (joinWith gap arguments) := by
  have nothing : AllBlank [] := nofun
  induction arguments generalizing gap with
  | nil => exact .blank nothing
  | cons argument arguments ih =>
    obtain ⟨first, others⟩ := List.forall_mem_cons.mp valid
    cases arguments with
    | nil => simpa [joinWith] using Line.last nothing first nothing
    | cons next arguments =>
      have later := ih (fun n => gap (n + 1)) others fun n => gaps (n + 1)
      exact .cons nothing first (gaps 0).1 (gaps 0).2 (by simp) later

/-- A line is cut into exactly the arguments that the grammar lays it out as. Whatever blanks they
are joined with, they come out the same. -/
theorem split_eq_ok_iff :
    (∀ line arguments, split line = .ok arguments ↔ Line arguments line) ∧
    ∀ line arguments, split line = .ok arguments →
      ∀ gap : Nat → Text, (∀ n, AllBlank (gap n) ∧ gap n ≠ []) →
        split (joinWith gap arguments) = .ok arguments := by
  refine ⟨fun line arguments => ⟨line_of_split, split_of_line⟩, ?_⟩
  intro line arguments cut gap gaps
  have valid := isArgument_of_line (line_of_split cut)
  exact split_of_line (line_joinWith gap valid gaps)

/-- A name that begins with an equals sign, a value that holds one, and blanks in a quoted value. -/
theorem split_joinWith_quoted :
    split " =a  b=c=d e=\"x  y\"" = .ok ["=a", "b=c=d", "e=\"x  y\""] ∧
    split (joinWith (fun _ => "\t\n") ["=a", "b=c=d", "e=\"x  y\""]) =
      .ok ["=a", "b=c=d", "e=\"x  y\""] := by
  have cut : split " =a  b=c=d e=\"x  y\"" = .ok ["=a", "b=c=d", "e=\"x  y\""] := rfl
  have gap : AllBlank "\t\n" := List.all_eq_true.mp rfl
  exact ⟨cut, split_eq_ok_iff.2 _ _ cut _ fun _ => ⟨gap, by decide⟩⟩

end ShellWords.KernelLine
