import ShellWords.Proofs.Token.Bytes
import ShellWords.Proofs.Token.Grammar

/-!
# Reading is local

A run over a text can be cut anywhere. What has been read up to the cut is a list of tokens and a
machine in the middle of the next one, and what is still to be read depends on that machine alone
(`Phase.run_append`). Two laws follow. A call that does not look past its last character gives the
same token whatever stands behind it. And where a line feed is a blank it does to the machine what
the end of the text does, so texts with a line feed between them are read one after the other.
-/
namespace ShellWords

/-! ### Runs that are cut -/

/-- What has been read in the middle of a text: the tokens before, the phase of the machine, and the
characters kept of the token at hand, last one first. -/
structure Midway where
  tokens : List Token
  phase : Phase
  read : Text

def Midway.cons (t : Token) (m : Midway) : Midway := { m with tokens := t :: m.tokens }

/-- A run that comes after some tokens. -/
def Run.behind (tokens : List Token) (run : Run) : Run :=
  { run with tokens := tokens ++ run.tokens }

private theorem Run.behind_behind (first second : List Token) (run : Run) :
    (run.behind second).behind first = run.behind (first ++ second) := by
  simp [behind]

/-- What is read of the rest of a text. -/
def Midway.run (m : Midway) (k : Classifier) (t : Text) : Run :=
  (m.phase.run k m.read t).behind m.tokens

namespace Phase

/-- Reads on from this phase to the end of a part of a text. -/
def through (k : Classifier) (phase : Phase) (read : Text) : Text → Midway
  | [] => ⟨[], phase, read⟩
  | c :: rest =>
    match phase.step (k.classOf c) [c] with
    | .skip next => next.through k read rest
    | .keep next => next.through k (c :: read) rest
    | .emit kind => (start.through k [] rest).cons ⟨kind, read.reverse⟩

variable {k : Classifier} {phase : Phase} {read : Text}

/-- A run over two texts is a run over the first one and, from where that leaves the machine, a run
over the second one. -/
theorem run_append (k : Classifier) (phase : Phase) (read first second : Text) :
    phase.run k read (first ++ second) = (phase.through k read first).run k second := by
  induction first generalizing phase read with
  | nil => rfl
  | cons c rest ih =>
    rw [List.cons_append, through]
    cases step : phase.step (k.classOf c) [c] with
    | skip next =>
      rw [run_skip step]
      exact ih next read
    | keep next =>
      rw [run_keep step]
      exact ih next (c :: read)
    | emit kind =>
      rw [run_emit step, ih start []]
      rfl

theorem run_eq_through (k : Classifier) (phase : Phase) (read t : Text) :
    phase.run k read t = (phase.through k read t).run k [] := by
  rw [← run_append, List.append_nil]

/-- Between tokens nothing has been kept. -/
theorem through_initial (initial : phase = start → read = []) (t : Text) :
    (phase.through k read t).phase = start → (phase.through k read t).read = [] := by
  induction t generalizing phase read with
  | nil => exact initial
  | cons c rest ih =>
    rw [through]
    cases step : phase.step (k.classOf c) [c] with
    | skip next =>
      refine ih ?_
      rintro rfl
      exact initial (eq_start_of_skip step)
    | keep next => exact ih fun same => absurd same (ne_start_of_keep step)
    | emit kind => exact ih fun _ => rfl

/-- A line feed that is a blank ends what the end of the text would end. -/
private theorem run_newline (blank : k.classOf '\n' = .space) (initial : phase = start → read = [])
    (ends : (phase.run k read []).failure = none) (t : Text) :
    phase.run k read ('\n' :: t) = (start.run k [] t).behind (phase.run k read []).tokens := by
  -- Between tokens the line feed is dropped, a word ends before a blank, and a comment at the line
  -- feed itself. No other phase may be at the end of a text.
  cases phase with
  | start =>
    obtain rfl := initial rfl
    have drops : start.step (k.classOf '\n') ['\n'] = .skip start := by rw [blank]; rfl
    exact run_skip drops
  | inWord =>
    have delimits : inWord.step (k.classOf '\n') ['\n'] = .emit .word := by rw [blank]; rfl
    exact run_emit delimits
  | comment => exact run_emit rfl
  | escaping | quoted | quotedEscape | rawQuoted => cases ends

theorem run_append_newline (blank : k.classOf '\n' = .space) {first : Text}
    (ends : (start.run k [] first).failure = none) (second : Text) :
    start.run k [] (first ++ '\n' :: second) =
      (start.run k [] second).behind (start.run k [] first).tokens := by
  have cut := run_eq_through k start [] first
  have initial : (start.through k [] first).phase = start →
      (start.through k [] first).read = [] := through_initial (fun _ => rfl) first
  rw [cut] at ends ⊢
  rw [run_append, Midway.run, run_newline blank initial ends, Run.behind_behind]
  rfl

/-! ### Calls within a text -/

/-- The token that a call in this phase completes within a text, and what it leaves of the text. -/
def within? (k : Classifier) (phase : Phase) (read : Text) : Text → Option (Token × Text)
  | [] => none
  | c :: rest =>
    match phase.step (k.classOf c) [c] with
    | .skip next => next.within? k read rest
    | .keep next => next.within? k (c :: read) rest
    | .emit kind => some (⟨kind, read.reverse⟩, rest)

/-- A token that is completed within a text does not depend on what comes behind it. -/
theorem call_append_of_within {token : Token} {left : Text}
    (within : phase.within? k read t = some (token, left)) (more : Text) :
    phase.call k read (t ++ more) = (.ok (some token), left ++ more) := by
  induction t generalizing phase read with
  | nil => cases within
  | cons c rest ih =>
    rw [within?] at within
    rw [List.cons_append]
    cases step : phase.step (k.classOf c) [c] with
    | skip next =>
      rw [step] at within
      rw [call_skip step]
      exact ih within
    | keep next =>
      rw [step] at within
      rw [call_keep step]
      exact ih within
    | emit kind =>
      rw [step] at within
      cases within
      exact call_emit step

/-- A call on a stream that fails behind a text completes a token within the text, or gets the
failure. -/
theorem scan_interrupted (k : Classifier) (mark : EndMark) (phase : Phase) (read t : Text)
    (f : StreamFailure) (rest : List Delivery) :
    scan k mark phase read [] ((Stream.ofText t).deliveries ++ .failure f :: rest) =
      match phase.within? k read t with
      | some (token, left) =>
        ⟨.ok (some token), [], (Stream.ofText left).deliveries ++ .failure f :: rest⟩
      | none => ⟨.error (.stream f), [], rest⟩ := by
  induction t generalizing phase read with
  | nil => rfl
  | cons c t ih =>
    have received : Receipt.ofDelivery [] (.text [c]) = .unit [c] [] := rfl
    rw [within?, Stream.ofText, List.map_cons, List.cons_append]
    cases step : phase.step (k.classOf c) [c] with
    | skip next =>
      rw [scan_skip received step]
      exact ih next read
    | keep next =>
      rw [scan_keep received step]
      exact ih next (c :: read)
    | emit kind => exact scan_emit received step

end Phase

/-! ### Calls and streams -/

/-- A call on this text reads on behind it: it notices if that cannot be done. -/
def Reader.LooksPast (r : Reader) (t : Text) : Prop :=
  ∀ f, (r.next (.ofTextThen t f)).answer = .error (.stream f)

/-- A call that uses up the first part of a text without looking past it gives a token that does not
depend on the rest, and leaves the rest as it is. -/
private theorem Reader.next_of_not_looksPast {k : Classifier} {first rest : Text}
    (used : (({ classifier := k } : Reader).next (.ofText (first ++ rest))).stream = .ofText rest)
    (delimited : ¬ ({ classifier := k } : Reader).LooksPast first) :
    ∃ token, ∀ other, ({ classifier := k } : Reader).next (.ofText (first ++ other)) =
      ⟨.ok (some token), { classifier := k }, .ofText other⟩ := by
  cases within : Phase.start.within? k [] first with
  | none =>
    refine absurd (fun f => ?_) delimited
    have scanned := Phase.scan_interrupted k .text .start [] first f []
    rw [within] at scanned
    exact congrArg Scan.answer scanned
  | some completed =>
    obtain ⟨token, left⟩ := completed
    have call := Phase.call_append_of_within within
    refine ⟨token, fun other => ?_⟩
    rw [next_ofText, call] at used
    -- Nothing but the rest is left, so nothing is left of the first part.
    obtain rfl : left = [] := List.append_left_eq_self.mp (Stream.ofText_injective used)
    rw [next_ofText, call]
    rfl

private theorem Classifier.classOf_eq_space {k : Classifier} {c : Char}
    (listed : c ∈ k.whitespace) :
    k.classOf c = .space := by
  rw [classOf_eq, if_pos listed]

/-- A call that ends at a delimiter gives the same token whatever comes after it and leaves that
alone. Where a line feed is a blank, the tokens of a text, a line feed and another text are the
tokens of the one and then those of the other, with the error of the other if there is one. -/
theorem Stream.reading_local (k : Classifier) :
    (∀ first rest,
      (({ classifier := k } : Reader).next (ofText (first ++ rest))).stream = ofText rest →
      ¬ ({ classifier := k } : Reader).LooksPast first →
      ∃ token, ∀ other, ({ classifier := k } : Reader).next (ofText (first ++ other)) =
        ⟨.ok (some token), { classifier := k }, ofText other⟩) ∧
    ('\n' ∈ k.whitespace → ∀ first second, ((ofText first).tokens k).failure = none →
      ((ofText (first ++ '\n' :: second)).tokens k).items =
        ((ofText first).tokens k).items ++ ((ofText second).tokens k).items ∧
      ((ofText (first ++ '\n' :: second)).tokens k).failure =
        ((ofText second).tokens k).failure) := by
  refine ⟨fun first rest => Reader.next_of_not_looksPast, ?_⟩
  intro blank first second ends
  rw [(tokens_ofText k first).2, Option.map_eq_none_iff] at ends
  have cut := Phase.run_append_newline (Classifier.classOf_eq_space blank) ends second
  rw [(tokens_ofText k _).1, (tokens_ofText k _).2, cut, (tokens_ofText k first).1,
    (tokens_ofText k second).1, (tokens_ofText k second).2]
  exact ⟨rfl, rfl⟩

/-- A comment that its line ends, before a word; and one that its text ends, before a text whose
last quote is left open. -/
theorem Stream.reading_local_comment :
    (({} : Reader).next (ofText ("#a\n" ++ "b"))).stream = ofText "b" ∧
    ¬ ({} : Reader).LooksPast "#a\n" ∧
    (∃ token, ∀ other, ({} : Reader).next (ofText ("#a\n" ++ other)) =
      ⟨.ok (some token), {}, ofText other⟩) ∧
    ((ofText "a #b").tokens {}).failure = none ∧
    ((ofText ("a #b" ++ '\n' :: "c 'd")).tokens {}).items =
      [⟨.word, "a"⟩, ⟨.comment, "b"⟩, ⟨.word, "c"⟩] ∧
    ((ofText ("a #b" ++ '\n' :: "c 'd")).tokens {}).failure = some (.lex .quoteOpen) := by
  obtain ⟨calls, lines⟩ := reading_local {}
  have used : (({} : Reader).next (ofText ("#a\n" ++ "b"))).stream = ofText "b" := rfl
  have delimited : ¬ ({} : Reader).LooksPast "#a\n" := by
    intro looks
    have answer : (({} : Reader).next (.ofTextThen "#a\n" ⟨[], []⟩)).answer =
        .ok (some ⟨.comment, "a"⟩) := rfl
    rw [looks] at answer
    cases answer
  have ends : ((ofText "a #b").tokens {}).failure = none := by
    rw [(tokens_ofText {} _).2]
    rfl
  obtain ⟨items, failure⟩ := lines (by decide) "a #b" "c 'd" ends
  refine ⟨used, delimited, calls _ _ used delimited, ends, ?_, ?_⟩
  · rw [items, (tokens_ofText {} _).1, (tokens_ofText {} _).1]
    rfl
  · rw [failure, (tokens_ofText {} _).2]
    rfl

end ShellWords
