import ShellWords.Proofs.Token.Locality
import ShellWords.Proofs.Token.Session

/-!
# Reading that is interrupted

A stream may fail behind some text and go on after that. The calls on it give the tokens that are
completed within the text, and the first call that reads past the text gets the failure. Nothing of
what that call has read stays anywhere: it leaves a reader without bytes and the stream behind the
failure (`Reader.calls_interrupted`), so that all further calls are those of a new reader.
-/
namespace ShellWords

/-- A text, a failure behind it, and what can be read after that. -/
def Stream.interrupted (t : Text) (f : StreamFailure) (rest : Stream) : Stream where
  deliveries := (ofText t).deliveries ++ .failure f :: rest.deliveries
  endMark := rest.endMark

namespace Reader

/-- A call on a text that gives a token without reading past the text: what comes behind the text
makes no difference and stays where it is. -/
def Completes (r : Reader) (t : Text) (token : Token) (left : Text) : Prop :=
  ∀ more, r.next (.ofText (t ++ more)) = ⟨.ok (some token), r, .ofText (left ++ more)⟩

/-- The tokens that calls on a text complete one after the other, up to the first call that would
read past it. -/
inductive CompletesAll (r : Reader) : Text → List Token → Prop
  | stop {t : Text} : (∀ token left, ¬ r.Completes t token left) → CompletesAll r t []
  | token {t left : Text} {token : Token} {tokens : List Token} :
      r.Completes t token left → CompletesAll r left tokens → CompletesAll r t (token :: tokens)

/-- The reader and the stream after so many calls. -/
def after (r : Reader) (s : Stream) : Nat → Reader × Stream
  | 0 => (r, s)
  | count + 1 => (r.next s).reader.after (r.next s).stream count

private theorem answers_add (r : Reader) (s : Stream) (first more : Nat) :
    r.answers s (first + more) =
      r.answers s first ++ (r.after s first).1.answers (r.after s first).2 more := by
  induction first generalizing r s with
  | zero => rw [Nat.zero_add]; rfl
  | succ first ih =>
    rw [Nat.add_right_comm, answers, ih]
    rfl

end Reader

/-! ### One call -/

namespace Phase

variable {k : Classifier} {phase next : Phase} {read t : Text}

/-- A call uses up some of a text, unless there is none. -/
private theorem length_call_le (k : Classifier) (phase : Phase) (read t : Text) :
    (phase.call k read t).2.length ≤ t.length - 1 := by
  have shorter := scan_rest_le k .text phase read [] (Stream.ofText t).deliveries
  rw [scan_ofText] at shorter
  simpa [Stream.ofText] using shorter

/-- A call that leaves whatever comes behind a text has completed its token within the text. -/
private theorem within_of_call_append {token : Token} {left : Text}
    (call : ∀ more, phase.call k read (t ++ more) = (.ok (some token), left ++ more)) :
    phase.within? k read t = some (token, left) := by
  induction t generalizing phase read with
  | nil =>
    -- At the end of the text the call would have taken a character that comes behind it.
    have used := length_call_le k phase read [' ']
    rw [← List.nil_append [' '], call [' ']] at used
    simp at used
  | cons c rest ih =>
    simp only [List.cons_append] at call
    rw [within?]
    cases step : phase.step (k.classOf c) [c] with
    | skip next => exact ih fun more => (call_skip step).symm.trans (call more)
    | keep next => exact ih fun more => (call_keep step).symm.trans (call more)
    | emit kind =>
      have whole := (call_emit step).symm.trans (call [])
      simp only [List.append_nil, Prod.mk.injEq, Except.ok.injEq, Option.some.injEq] at whole
      exact congrArg some (Prod.ext whole.1 whole.2)

end Phase

namespace Reader

variable {k : Classifier} {t left : Text} {token : Token}

/-- The calls that complete a token within a text are those that the machine does. -/
theorem completes_iff : ({ classifier := k } : Reader).Completes t token left ↔
    Phase.start.within? k [] t = some (token, left) := by
  constructor
  · intro completes
    refine Phase.within_of_call_append fun more => ?_
    have called := (next_ofText k (t ++ more)).symm.trans (completes more)
    have answer := congrArg Reading.answer called
    have rest := Stream.ofText_injective (congrArg Reading.stream called)
    rcases whole : Phase.start.call k [] (t ++ more) with ⟨_ | _, after⟩
    all_goals
      rw [whole] at answer rest
      cases answer
    rw [show after = left ++ more from rest]
  · intro within more
    rw [next_ofText, Phase.call_append_of_within within]
    rfl

private theorem next_interrupted_of_completes
    (completes : ({ classifier := k } : Reader).Completes t token left) (f : StreamFailure)
    (rest : Stream) : ({ classifier := k } : Reader).next (.interrupted t f rest) =
      ⟨.ok (some token), { classifier := k }, .interrupted left f rest⟩ := by
  have scanned := Phase.scan_interrupted k rest.endMark .start [] t f rest.deliveries
  rw [completes_iff.mp completes] at scanned
  simp only [next, Stream.interrupted, scanned]

private theorem next_interrupted_of_not_completes
    (incomplete : ∀ token left, ¬ ({ classifier := k } : Reader).Completes t token left)
    (f : StreamFailure) (rest : Stream) :
    ({ classifier := k } : Reader).next (.interrupted t f rest) =
      ⟨.error (.stream f), { classifier := k }, rest⟩ := by
  have scanned := Phase.scan_interrupted k rest.endMark .start [] t f rest.deliveries
  cases within : Phase.start.within? k [] t with
  | some completed => exact absurd (completes_iff.mpr within) (incomplete _ _)
  | none =>
    rw [within] at scanned
    simp only [next, Stream.interrupted, scanned]

/-! ### All calls -/

/-- Calls on a text complete some tokens. -/
theorem exists_completesAll (k : Classifier) (t : Text) :
    ∃ tokens, ({ classifier := k } : Reader).CompletesAll t tokens := by
  cases within : Phase.start.within? k [] t with
  | none =>
    refine ⟨[], .stop fun token left completes => ?_⟩
    rw [completes_iff.mp completes] at within
    cases within
  | some completed =>
    obtain ⟨token, left⟩ := completed
    have completes := completes_iff.mpr within
    have shorter : left.length < t.length := by
      have call := completes []
      rw [List.append_nil, List.append_nil] at call
      have smaller := next_size_lt_of_token _ _ token (congrArg Reading.answer call)
      rw [call] at smaller
      simpa [Stream.size, Stream.ofText] using smaller
    obtain ⟨tokens, all⟩ := exists_completesAll k left
    exact ⟨token :: tokens, .token completes all⟩
termination_by t.length

theorem calls_interrupted {tokens : List Token}
    (all : ({ classifier := k } : Reader).CompletesAll t tokens) (f : StreamFailure)
    (rest : Stream) :
    ({ classifier := k } : Reader).answers (.interrupted t f rest) (tokens.length + 1) =
      tokens.map (fun token => .ok (some token)) ++ [.error (.stream f)] ∧
    ({ classifier := k } : Reader).after (.interrupted t f rest) (tokens.length + 1) =
      ({ classifier := k }, rest) := by
  induction all with
  | stop incomplete =>
    have call := next_interrupted_of_not_completes incomplete f rest
    simp [answers, after, call]
  | token completes _ ih =>
    have call := next_interrupted_of_completes completes f rest
    obtain ⟨answered, left⟩ := ih
    rw [List.length_cons, answers, after, call]
    exact ⟨congrArg (_ :: ·) answered, left⟩

end Reader

namespace Stream

/-- A stream that fails behind a text gives the tokens that are completed within the text, in order,
and then the failure as it is. The reader and the rest of the stream are then as if the text and
the failure had never been, so that every further call is that of a new reader of the rest. -/
theorem reading_interrupted (k : Classifier) (t : Text) (f : StreamFailure) (rest : Stream) :
    (∃ tokens, ({ classifier := k } : Reader).CompletesAll t tokens) ∧
    ∀ tokens, ({ classifier := k } : Reader).CompletesAll t tokens →
      (∀ calls, ({ classifier := k } : Reader).answers (interrupted t f rest)
          (tokens.length + 1 + calls) =
        tokens.map (fun token => .ok (some token)) ++
          .error (.stream f) :: ({ classifier := k } : Reader).answers rest calls) ∧
      ({ classifier := k } : Reader).after (interrupted t f rest) (tokens.length + 1) =
        ({ classifier := k }, rest) := by
  refine ⟨Reader.exists_completesAll k t, fun tokens all => ?_⟩
  obtain ⟨answered, left⟩ := Reader.calls_interrupted all f rest
  refine ⟨fun calls => ?_, left⟩
  rw [Reader.answers_add, answered, left, List.append_assoc]
  rfl

/-- A failure within quotes. Behind it come a chunk of three characters, one of them a quote, and a
letter of two bytes. -/
theorem reading_interrupted_quote :
    ({} : Reader).CompletesAll "a 'b" [⟨.word, "a"⟩] ∧
    ({} : Reader).answers (interrupted "a 'b" ⟨"OSError", "gone"⟩
        ⟨[.text "c'd", .bytes [0xC3], .bytes [0xA4]], .bytes⟩) 4 =
      [.ok (some ⟨.word, "a"⟩), .error (.stream ⟨"OSError", "gone"⟩),
        .ok (some ⟨.word, "c'dä"⟩), .ok none] := by
  have word : ({} : Reader).Completes "a 'b" ⟨.word, "a"⟩ "'b" := Reader.completes_iff.mpr rfl
  have open_ : ∀ token left, ¬ ({} : Reader).Completes "'b" token left :=
    fun _ _ completes => nomatch Reader.completes_iff.mp completes
  have all : ({} : Reader).CompletesAll "a 'b" [⟨.word, "a"⟩] := .token word (.stop open_)
  exact ⟨all, ((reading_interrupted {} "a 'b" _ _).2 _ all).1 2⟩

end Stream

end ShellWords
