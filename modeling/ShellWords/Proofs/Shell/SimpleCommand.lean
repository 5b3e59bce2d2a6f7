import ShellWords.Proofs.Quote.Exposure
import ShellWords.Shell.BuiltIn.Command
import ShellWords.Shell.Grammar

/-!
# Checking joined words

Joined words are a plain source, whose words are the quoted words (`isPlain_joinQuoted`,
`slices_joinQuoted`), and a word is reserved only if quoting leaves it as it is. So a parser that
follows the grammar sees the words as they were joined, unless the first one is a keyword, and the
check confirms that (`verifyJoin_confirms`). Joined words that begin with a keyword are denied, or
have no answer if the parser fails over them (`verifyJoin_answers_iff`).
-/
namespace ShellWords

namespace Text

variable {w : Text} {words : List Text}

/-! ### The words of a join -/

private theorem quote_eq_self (safe : w.all isSafe = true) (notEmpty : w ≠ []) : w.quote = w := by
  rw [quote, if_neg (by simpa using notEmpty), if_pos safe]

private theorem quote_eq_self_or_head? (w : Text) :
    w.quote = w ∨ w.quote.head? = some '\'' := by
  unfold quote
  split
  · exact .inr rfl
  · split
    · exact .inl rfl
    · exact .inr rfl

private theorem quote_ne_nil (w : Text) : w.quote ≠ [] := by
  unfold quote
  split
  · exact List.cons_ne_nil _ _
  · split
    · next notEmpty _ => simpa using notEmpty
    · exact List.cons_ne_nil _ _

/-- No blank of a quoted word is bare. -/
private theorem blank_notMem_quote (w : Text) :
    (Quoting.bare, ' ') ∉ Quoting.exposures .bare w.quote := by
  intro met
  rcases Quoting.mem_contents_or_quote met with inside | quote | quote
  · rw [(quote_exposed w).2] at inside
    obtain ⟨c, inWord, same⟩ := List.mem_map.mp inside
    obtain ⟨bare, rfl⟩ := Prod.mk.inj same
    exact absurd (isSafe_of_shelter inWord bare) (by decide)
  · cases quote
  · cases quote

end Text

namespace Shell

variable {w first : Text} {words : List Text} {parser : Parser} {source : Text}

/-- Quoting turns no other word into a keyword. -/
private theorem quote_mem_keywords_iff : w.quote ∈ keywords ↔ w ∈ keywords := by
  have safe : ∀ keyword ∈ keywords, keyword.all isSafe = true ∧ keyword ≠ [] := by decide
  have unquoted : ∀ keyword ∈ keywords, keyword.head? ≠ some '\'' := by decide
  constructor
  · intro keyword
    -- A word in quotes begins with one, and no keyword does.
    rcases w.quote_eq_self_or_head? with same | opens
    · rwa [same] at keyword
    · exact absurd opens (unquoted _ keyword)
  · intro keyword
    obtain ⟨allSafe, notEmpty⟩ := safe w keyword
    rwa [Text.quote_eq_self allSafe notEmpty]

theorem isPlain_joinQuoted (words : List Text) : IsPlain (Text.joinQuoted words) where
  closed := (Text.joinQuoted_exposed words).1
  safe c met := by
    rcases Quoting.mem_contents_or_quote met with inside | rfl | rfl
    · rcases Text.mem_contents_joinQuoted inside with ⟨-, rfl⟩ | ⟨w, -, inWord, bare⟩
      · exact .inr (by decide)
      · exact .inl (Text.isSafe_of_shelter inWord bare)
    · exact .inr (by decide)
    · exact .inr (by decide)
  unexpanded c met := by
    rcases Quoting.mem_contents_or_quote met with inside | rfl | rfl
    · rcases Text.mem_contents_joinQuoted inside with ⟨double, -⟩ | ⟨w, -, -, double⟩
      · cases double
      · rw [Text.eq_quote_of_shelter double]
        decide
    · decide
    · decide

/-! ### Spans -/

/-- A word goes on through what shows no bare blank. -/
private theorem spansFrom_append {q : Quoting} {t : Text} (unbroken : (.bare, ' ') ∉ q.exposures t)
    (pos start : Nat) (rest : Text) :
    spansFrom q pos (some start) (t ++ rest) =
      spansFrom (q.after t) (pos + t.length) (some start) rest := by
  induction t generalizing q pos with
  | nil => rfl
  | cons c t ih =>
    rw [Quoting.exposures, List.mem_cons, not_or] at unbroken
    obtain ⟨here, later⟩ := unbroken
    have noBlank : ¬ (q = .bare ∧ c = ' ') := by
      rintro ⟨rfl, rfl⟩
      exact here rfl
    rw [List.cons_append, spansFrom, if_neg noBlank, Option.getD_some, ih later, List.length_cons]
    congr 1
    omega

/-- A word begins with its first character. -/
private theorem spansFrom_none {t : Text} (unbroken : (.bare, ' ') ∉ Quoting.exposures .bare t)
    (notEmpty : t ≠ []) (pos : Nat) (rest : Text) :
    spansFrom .bare pos none (t ++ rest) = spansFrom .bare pos (some pos) (t ++ rest) := by
  obtain ⟨c, t, rfl⟩ := List.exists_cons_of_ne_nil notEmpty
  have noBlank : ¬ (Quoting.bare = .bare ∧ c = ' ') := by
    rintro ⟨-, rfl⟩
    exact unbroken List.mem_cons_self
  rw [List.cons_append, spansFrom, spansFrom, if_neg noBlank, if_neg noBlank]
  rfl

/-- The spans of parts with single blanks between them delimit the parts. -/
private theorem slices_intercalate (pos : Nat) {parts : List Text}
    (closed : ∀ part ∈ parts, Quoting.bare.after part = .bare)
    (unbroken : ∀ part ∈ parts, (Quoting.bare, ' ') ∉ Quoting.exposures .bare part)
    (notEmpty : ∀ part ∈ parts, part ≠ []) {source : Text}
    (here : source.drop pos = List.intercalate [' '] parts) :
    (spansFrom .bare pos none (source.drop pos)).map (fun span => slice source span.1 span.2) =
      parts := by
  rw [here]
  -- On the parts; the position moves on past each of them and the blank behind it.
  induction parts generalizing pos with
  | nil => rfl
  | cons part parts ih =>
    obtain ⟨ends, closed⟩ := List.forall_mem_cons.mp closed
    obtain ⟨whole, unbroken⟩ := List.forall_mem_cons.mp unbroken
    obtain ⟨begins, notEmpty⟩ := List.forall_mem_cons.mp notEmpty
    have taken (rest : Text) (same : source.drop pos = part ++ rest) :
        slice source pos (pos + part.length) = part := by
      rw [slice, same, Nat.add_sub_cancel_left, List.take_left]
    cases parts with
    | nil =>
      rw [List.intercalate_singleton] at here ⊢
      rw [← List.append_nil part, spansFrom_none whole begins, spansFrom_append whole,
        List.append_nil]
      simpa [spansFrom] using taken [] (by rw [here, List.append_nil])
    | cons next parts =>
      rw [List.intercalate_cons_cons] at here ⊢
      rw [List.append_assoc] at here ⊢
      have behind : source.drop (pos + part.length + 1) =
          List.intercalate [' '] (next :: parts) := by
        rw [Nat.add_assoc, ← List.drop_drop, here, List.drop_append]
        simp
      rw [spansFrom_none whole begins, spansFrom_append whole, ends, List.singleton_append,
        spansFrom, if_pos ⟨rfl, rfl⟩, List.map_append, ih _ closed unbroken notEmpty behind]
      simpa using taken _ here

/-- The words of a join are the quoted words. -/
private theorem slices_joinQuoted (words : List Text) :
    (wordSpans (Text.joinQuoted words)).map
      (fun span => slice (Text.joinQuoted words) span.1 span.2) = words.map Text.quote := by
  refine slices_intercalate 0 ?_ ?_ ?_ rfl
  · simpa using fun w _ => (Text.quote_exposed w).1
  · simpa using fun w _ => Text.blank_notMem_quote w
  · simpa using fun w _ => Text.quote_ne_nil w

private theorem firstWord?_joinQuoted (w : Text) (words : List Text) :
    firstWord? (Text.joinQuoted (w :: words)) = some w.quote := by
  rw [firstWord?, ← List.head?_map, slices_joinQuoted]
  rfl

/-! ### The words that the shell sees -/

/-- What is seen of a simple command are the slices of its source at its parts. -/
private theorem simpleWords_of_command {node : Node} (parsed : parser source = .ok [node])
    (command : node.kind = .command)
    (kinds : ∀ part ∈ node.children, part.kind = .word ∨ part.kind = .assignment)
    {spans : List (Nat × Nat)}
    (placed : node.children.map (fun part => (part.start, part.stop)) = spans) :
    simpleWords parser source =
      .ok (some (spans.map fun span => slice source span.1 span.2)) := by
  have all : node.children.filter (fun part => part.kind = .word ∨ part.kind = .assignment) =
      node.children := by
    simpa using kinds
  rw [simpleWords, parsed]
  simp only [command, ne_eq, not_true_eq_false, if_false, all, ← placed, List.map_map]
  rfl

theorem simpleWords_joinQuoted (follows : parser.Follows (Text.joinQuoted (w :: words)))
    (plain : w ∉ keywords) :
    simpleWords parser (Text.joinQuoted (w :: words)) =
      .ok (some ((w :: words).map Text.quote)) := by
  obtain ⟨node, parsed, command, kinds, placed⟩ :=
    follows.simple (isPlain_joinQuoted _) _ (firstWord?_joinQuoted w words)
      (mt quote_mem_keywords_iff.mp plain)
  rw [simpleWords_of_command parsed command kinds placed, slices_joinQuoted]

theorem simpleWords_joinQuoted_keyword (follows : parser.Follows (Text.joinQuoted (w :: words)))
    (keyword : w ∈ keywords) :
    (∃ e, parser (Text.joinQuoted (w :: words)) = .error (.foreign e) ∧
        simpleWords parser (Text.joinQuoted (w :: words)) = .error e) ∨
      ((∀ e, parser (Text.joinQuoted (w :: words)) ≠ .error (.foreign e)) ∧
        simpleWords parser (Text.joinQuoted (w :: words)) = .ok none) := by
  have compound := follows.reserved (isPlain_joinQuoted _) _ (firstWord?_joinQuoted w words)
    (quote_mem_keywords_iff.mpr keyword)
  cases parsed : parser (Text.joinQuoted (w :: words)) with
  | error e =>
    cases e with
    | foreign e => exact .inl ⟨e, rfl, by rw [simpleWords, parsed]⟩
    | syntaxError message position => exact .inr ⟨nofun, by rw [simpleWords, parsed]⟩
  | ok nodes =>
    refine .inr ⟨nofun, ?_⟩
    rw [simpleWords, parsed]
    match nodes with
    | [] => rfl
    | [node] => simp [compound node parsed]
    | _ :: _ :: _ => rfl

/-! ### The check -/

private theorem verifyJoin_cons (parser : Parser) (w : Text) (words : List Text) :
    verifyJoin parser (w :: words) =
      (simpleWords parser (Text.joinQuoted (w :: words))).map fun seen =>
        decide (seen = some ((w :: words).map Text.quote)) := by
  have notEmpty : (Text.joinQuoted (w :: words)).isEmpty = false := by
    cases words <;> simp [Text.joinQuoted, List.intercalate_cons_cons, Text.quote_ne_nil]
  rw [verifyJoin]
  simp only [notEmpty, Bool.false_eq_true, if_false]

theorem verifyJoin_plain (follows : parser.Follows (Text.joinQuoted (w :: words)))
    (plain : w ∉ keywords) : verifyJoin parser (w :: words) = .ok true := by
  rw [verifyJoin_cons, simpleWords_joinQuoted follows plain]
  simp [Except.map]

theorem verifyJoin_keyword (follows : parser.Follows (Text.joinQuoted (w :: words)))
    (keyword : w ∈ keywords) :
    (∃ e, parser (Text.joinQuoted (w :: words)) = .error (.foreign e) ∧
        verifyJoin parser (w :: words) = .error e) ∨
      ((∀ e, parser (Text.joinQuoted (w :: words)) ≠ .error (.foreign e)) ∧
        verifyJoin parser (w :: words) = .ok false) := by
  rw [verifyJoin_cons]
  rcases simpleWords_joinQuoted_keyword follows keyword with ⟨e, failed, seen⟩ | ⟨fine, seen⟩
  · exact .inl ⟨e, failed, by rw [seen]; rfl⟩
  · exact .inr ⟨fine, by rw [seen]; rfl⟩

/-- Under a parser that follows the grammar, the check confirms the joins that do not begin with a
keyword, and no others; in a join of at least one word that it confirms, the shell sees the quoted
words as they stand. -/
theorem verifyJoin_confirms (words : List Text)
    (follows : parser.Follows (Text.joinQuoted words)) :
    (verifyJoin parser words = .ok true ↔ ∀ w ∈ words.head?, w ∉ keywords) ∧
    (words ≠ [] → verifyJoin parser words = .ok true →
      simpleWords parser (Text.joinQuoted words) = .ok (some (words.map Text.quote))) := by
  cases words with
  | nil => exact ⟨iff_of_true rfl nofun, fun notEmpty => absurd rfl notEmpty⟩
  | cons w words =>
    by_cases keyword : w ∈ keywords
    · have denied : verifyJoin parser (w :: words) ≠ .ok true := by
        rcases verifyJoin_keyword follows keyword with ⟨e, -, failed⟩ | ⟨-, answer⟩
        · simp [failed]
        · simp [answer]
      refine ⟨iff_of_false denied fun plain => plain w rfl keyword, ?_⟩
      intro notEmpty confirmed
      exact absurd confirmed denied
    · refine ⟨iff_of_true (verifyJoin_plain follows keyword) ?_, ?_⟩
      · rintro first ⟨⟩
        exact keyword
      · intro notEmpty confirmed
        exact simpleWords_joinQuoted follows keyword

/-- An assignment, and words that are quoted whole or in parts. -/
theorem verifyJoin_confirms_assignment :
    verifyJoin builtIn ["A=b", "it's\n;", "", "if"] = .ok true ∧
      simpleWords builtIn (Text.joinQuoted ["A=b", "it's\n;", "", "if"]) =
        .ok (some ["A=b", "'it'\"'\"'s\n;'", "''", "if"]) := by
  have first : firstWord? (Text.joinQuoted ["A=b", "it's\n;", "", "if"]) = some "A=b" := by
    decide +kernel
  have follows : builtIn.Follows (Text.joinQuoted ["A=b", "it's\n;", "", "if"]) := by
    constructor
    · intro _ _ _ _
      exact ⟨_, rfl, rfl, by decide, by decide +kernel⟩
    · intro _ word isFirst keyword
      rw [first] at isFirst
      cases isFirst
      exact absurd keyword (by decide)
  obtain ⟨confirms, seen⟩ := verifyJoin_confirms _ follows
  have confirmed := confirms.mpr (by decide)
  exact ⟨confirmed, seen (by decide) confirmed⟩

/-- No words at all are confirmed without asking the shell, and asking it fails. -/
theorem verifyJoin_confirms_nil :
    verifyJoin builtIn [] = .ok true ∧
      simpleWords builtIn (Text.joinQuoted []) = .error ⟨"AttributeError", .other, []⟩ ∧
      simpleWords builtIn (Text.joinQuoted []) ≠ .ok (some (([] : List Text).map Text.quote)) := by
  exact ⟨rfl, rfl, nofun⟩

/-- The check has no answer to a join exactly if the parser fails over it, which happens only if it
begins with a keyword. Otherwise it denies the joins that do. -/
theorem verifyJoin_answers_iff (words : List Text)
    (follows : parser.Follows (Text.joinQuoted words)) :
    (∀ e, verifyJoin parser words = .error e ↔
      words ≠ [] ∧ parser (Text.joinQuoted words) = .error (.foreign e)) ∧
    (∀ e, verifyJoin parser words = .error e → ∃ w ∈ words.head?, w ∈ keywords) ∧
    (verifyJoin parser words = .ok false ↔ (∃ w ∈ words.head?, w ∈ keywords) ∧
      ∀ e, parser (Text.joinQuoted words) ≠ .error (.foreign e)) := by
  cases words with
  | nil =>
    refine ⟨fun e => iff_of_false nofun fun failed => failed.1 rfl, nofun, ?_⟩
    exact iff_of_false nofun nofun
  | cons w words =>
    by_cases keyword : w ∈ keywords
    · rcases verifyJoin_keyword follows keyword with ⟨e, failed, unanswered⟩ | ⟨fine, answer⟩
      · rw [failed, unanswered]
        simp [keyword]
      · rw [answer]
        simp [keyword, fine]
    -- Such a join is seen as its words, so the parser has not failed over it.
    · have fine (e : ForeignError) :
          parser (Text.joinQuoted (w :: words)) ≠ .error (.foreign e) := by
        intro failed
        have seen := simpleWords_joinQuoted follows keyword
        rw [simpleWords, failed] at seen
        cases seen
      rw [verifyJoin_plain follows keyword]
      simp [keyword, fine]

private theorem follows_of_keyword (keyword : w ∈ keywords)
    (refused : ∀ node, parser (Text.joinQuoted (w :: words)) ≠ .ok [node]) :
    parser.Follows (Text.joinQuoted (w :: words)) := by
  constructor
  · intro _ first isFirst plain
    rw [firstWord?_joinQuoted] at isFirst
    cases isFirst
    exact absurd (quote_mem_keywords_iff.mpr keyword) plain
  · intro _ _ _ _ node parsed
    exact absurd parsed (refused node)

/-- A keyword that begins no command, and one that begins something the parser cannot read. -/
theorem verifyJoin_answers_stray :
    verifyJoin builtIn ["fi", "x"] = .ok false ∧
      verifyJoin builtIn ["time", "ls"] = .error ⟨"NotImplementedError", .other, []⟩ := by
  constructor
  · obtain ⟨message, position, refused⟩ : ∃ message position,
        builtIn (Text.joinQuoted ["fi", "x"]) = .error (.syntaxError message position) :=
      ⟨_, _, rfl⟩
    have follows : builtIn.Follows (Text.joinQuoted ["fi", "x"]) :=
      follows_of_keyword (by decide) (by rw [refused]; nofun)
    refine (verifyJoin_answers_iff _ follows).2.2.mpr ⟨⟨_, rfl, by decide⟩, ?_⟩
    rw [refused]
    exact nofun
  · have failed : builtIn (Text.joinQuoted ["time", "ls"]) =
        .error (.foreign ⟨"NotImplementedError", .other, []⟩) := rfl
    have follows : builtIn.Follows (Text.joinQuoted ["time", "ls"]) :=
      follows_of_keyword (by decide) (by rw [failed]; nofun)
    exact ((verifyJoin_answers_iff _ follows).1 _).mpr ⟨by decide, failed⟩

/-- A construct that the parser knows and cannot read. -/
theorem verifyJoin_answers_time :
    builtIn.Follows (Text.joinQuoted ["time", "ls"]) ∧
      verifyJoin builtIn ["time", "ls"] = .error ⟨"NotImplementedError", .other, []⟩ ∧
      ¬∃ answer, verifyJoin builtIn ["time", "ls"] = .ok answer := by
  have failed : verifyJoin builtIn ["time", "ls"] =
      .error ⟨"NotImplementedError", .other, []⟩ := by rfl
  refine ⟨follows_of_keyword (by decide) (fun node => by nofun), failed, ?_⟩
  rintro ⟨answer, answered⟩
  rw [failed] at answered
  cases answered

end Shell

end ShellWords
