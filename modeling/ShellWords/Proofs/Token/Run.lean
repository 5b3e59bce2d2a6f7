import ShellWords.Proofs.Token.Words
import ShellWords.Token.Grammar

/-!
# Reading a text

On a text, which comes one character at a time and holds no bytes back, a reader is a machine that
runs over the characters. `Phase.call` is what one call makes of a text, and `Phase.run` is what all
calls together make of it: one recursion over the text, which goes on afresh where a token ends.
`Stream.tokens_ofText` says that draining a text is such a run.
-/
namespace ShellWords

/-- The tokens of a text, and the error that they end in if there is one. -/
structure Run where
  tokens : List Token
  failure : Option LexError
  deriving DecidableEq, Repr

def Run.cons (t : Token) (run : Run) : Run := { run with tokens := t :: run.tokens }

namespace Phase

variable (k : Classifier)

/-- What a call in this phase answers, and the text it leaves. The characters read are given last
one first. -/
def call (phase : Phase) (read : Text) : Text → Except LexError (Option Token) × Text
  | [] => (phase.atEnd.map (Option.map fun kind => ⟨kind, read.reverse⟩), [])
  | c :: rest =>
    match phase.step (k.classOf c) [c] with
    | .skip next => next.call read rest
    | .keep next => next.call (c :: read) rest
    | .emit kind => (.ok (some ⟨kind, read.reverse⟩), rest)

/-- What is read from this phase on. -/
def run (phase : Phase) (read : Text) : Text → Run
  | [] =>
    match phase.atEnd with
    | .error e => ⟨[], some e⟩
    | .ok none => ⟨[], none⟩
    | .ok (some kind) => ⟨[⟨kind, read.reverse⟩], none⟩
  | c :: rest =>
    match phase.step (k.classOf c) [c] with
    | .skip next => next.run read rest
    | .keep next => next.run (c :: read) rest
    | .emit kind => (start.run [] rest).cons ⟨kind, read.reverse⟩

variable {k} {phase next : Phase} {read t : Text} {c : Char}

theorem run_skip (step : phase.step (k.classOf c) [c] = .skip next) :
    phase.run k read (c :: t) = next.run k read t := by
  rw [run, step]

theorem run_keep (step : phase.step (k.classOf c) [c] = .keep next) :
    phase.run k read (c :: t) = next.run k (c :: read) t := by
  rw [run, step]

theorem run_emit {kind : TokenKind} (step : phase.step (k.classOf c) [c] = .emit kind) :
    phase.run k read (c :: t) = (start.run k [] t).cons ⟨kind, read.reverse⟩ := by
  rw [run, step]

/-- A run is the first call, and a new run over what it leaves. -/
theorem run_eq_call (k : Classifier) (phase : Phase) (read t : Text) :
    phase.run k read t =
      match phase.call k read t with
      | (.error e, _) => ⟨[], some e⟩
      | (.ok none, _) => ⟨[], none⟩
      | (.ok (some token), rest) => (start.run k [] rest).cons token := by
  induction t generalizing phase read with
  | nil =>
    simp only [run, call]
    cases phase <;> rfl
  | cons c rest ih =>
    simp only [run, call]
    cases phase.step (k.classOf c) [c] with
    | skip next => exact ih next read
    | keep next => exact ih next (c :: read)
    | emit kind => rfl

/-- Scanning a text is a call of the machine, and leaves a text. -/
theorem scan_ofText (k : Classifier) (phase : Phase) (read t : Text) :
    scan k .text phase read [] (Stream.ofText t).deliveries =
      ⟨(phase.call k read t).1.mapError .lex, [],
        (Stream.ofText (phase.call k read t).2).deliveries⟩ := by
  induction t generalizing phase read with
  | nil =>
    simp only [Stream.ofText, List.map_nil, scan, EndMark.delivery, Receipt.ofDelivery, finish,
      call]
    cases phase <;> rfl
  | cons c rest ih =>
    -- A delivery of text is taken as it is: nothing is decoded, and no bytes are held back.
    have received : Receipt.ofDelivery [] (.text [c]) = .unit [c] [] := rfl
    simp only [Stream.ofText, List.map_cons, scan, received, List.isEmpty_cons, Bool.false_eq_true,
      if_false, call]
    change (match phase.step (k.classOf c) [c] with
      | .skip _ => _ | .keep _ => _ | .emit _ => _) = _
    cases phase.step (k.classOf c) [c] with
    | skip next => exact ih next read
    | keep next => exact ih next (c :: read)
    | emit kind => rfl

end Phase

theorem Stream.ofText_injective : Function.Injective ofText := by
  intro t u same
  have deliveries := congrArg Stream.deliveries same
  exact (List.map_inj_right fun c d same => by simpa using same).mp deliveries

/-- A call on a text leaves a text, and no bytes with the reader. -/
theorem Reader.next_ofText (k : Classifier) (t : Text) :
    ({ classifier := k } : Reader).next (Stream.ofText t) =
      ⟨(Phase.start.call k [] t).1.mapError .lex, { classifier := k },
        Stream.ofText (Phase.start.call k [] t).2⟩ := by
  have scanned := Phase.scan_ofText k .start [] t
  have mark : (Stream.ofText t).endMark = .text := rfl
  simp only [next, mark, scanned]
  rfl

/-- Draining a text is one run of the machine over it. -/
theorem Stream.tokens_ofText (k : Classifier) (t : Text) :
    ((ofText t).tokens k).items = (Phase.start.run k [] t).tokens ∧
    ((ofText t).tokens k).failure = (Phase.start.run k [] t).failure.map .lex := by
  -- The recursion is on the text, not on the drain: each call leaves a shorter text, which its
  -- reader is drained from as if it were new.
  have reading := Reader.next_ofText k t
  rw [Phase.run_eq_call, tokens]
  rcases called : Phase.start.call k [] t with ⟨_ | _ | token, rest⟩
  · next e =>
    rw [called] at reading
    rw [Reader.drain_of_error _ _ (.lex e) (by rw [reading]; rfl)]
    exact ⟨rfl, rfl⟩
  · rw [called] at reading
    rw [Reader.drain_of_end _ _ (by rw [reading]; rfl)]
    exact ⟨rfl, rfl⟩
  · rw [called] at reading
    have answer : (({ classifier := k } : Reader).next (ofText t)).answer = .ok (some token) := by
      rw [reading]; rfl
    have shorter : rest.length < t.length := by
      have smaller := Reader.next_size_lt_of_token _ _ token answer
      rw [reading] at smaller
      simpa [Stream.size, ofText] using smaller
    have ih := tokens_ofText k rest
    rw [Reader.drain_of_token _ _ token answer, reading]
    exact ⟨congrArg (token :: ·) ih.1, ih.2⟩
termination_by t.length

/-- All that draining a text gives is all that the run gives. -/
theorem Stream.tokens_ofText_all (k : Classifier) (t : Text) :
    ((ofText t).tokens k).all =
      match (Phase.start.run k [] t).failure with
      | none => .ok (Phase.start.run k [] t).tokens
      | some e => .error (.lex e) := by
  obtain ⟨items, failure⟩ := tokens_ofText k t
  rw [Reader.Drained.all, items, failure]
  cases (Phase.start.run k [] t).failure <;> rfl

/-- A token is made of characters that have been read or are still to be. -/
theorem Phase.mem_of_mem_run {k : Classifier} {phase : Phase} {read t : Text} {token : Token}
    {c : Char} (listed : token ∈ (phase.run k read t).tokens) (member : c ∈ token.value) :
    c ∈ read ∨ c ∈ t := by
  induction t generalizing phase read with
  | nil =>
    simp only [run] at listed
    split at listed
    · cases listed
    · cases listed
    · rw [List.mem_singleton] at listed
      subst listed
      exact .inl (List.mem_reverse.mp member)
  | cons d rest ih =>
    simp only [run] at listed
    split at listed
    · exact (ih listed).imp_right (List.mem_cons_of_mem d)
    · rcases ih listed with before | after
      · rcases List.mem_cons.mp before with rfl | earlier
        · exact .inr List.mem_cons_self
        · exact .inl earlier
      · exact .inr (List.mem_cons_of_mem d after)
    · rcases List.mem_cons.mp listed with rfl | later
      · exact .inl (List.mem_reverse.mp member)
      -- The tokens after this one begin with nothing read.
      · exact .inr (List.mem_cons_of_mem d ((ih later).resolve_left List.not_mem_nil))

/-- The words of a text are made of its characters. -/
theorem Text.mem_of_mem_split {k : Classifier} {t w : Text} {words : List Text} {c : Char}
    (read : t.split k = .ok words) (listed : w ∈ words) (member : c ∈ w) : c ∈ t := by
  rw [split, Stream.words_eq, Stream.tokens_ofText_all] at read
  split at read
  · cases read
    obtain ⟨token, among, isWord⟩ := List.mem_filterMap.mp listed
    unfold Token.word? at isWord
    split at isWord
    · cases isWord
      exact (Phase.mem_of_mem_run among member).resolve_left List.not_mem_nil
    · cases isWord
  · cases read

end ShellWords
