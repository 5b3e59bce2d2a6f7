import ShellWords.Proofs.Token.Bytes
import ShellWords.Token.Session

/-!
# Readers that share a stream

Between two calls a reader of a text keeps nothing to itself, so it does not matter which of several
readers is called. Their replies are dealt out from the answers that a single reader would get: one
to each request for a token, and to each request for a word all up to the first that is no comment
(`Shares`). What one request takes off the stream is the step (`Reader.next_of_spells`,
`Reader.nextWord_of_spells`), and `Session.shares_of_spells` is the run.
-/
namespace ShellWords

/-- The token in an answer. -/
def Answer.token? (answer : Answer) : Option Token := answer.toOption.join

/-- The word in a reply, to whichever kind of reader. -/
def Reply.word? : Reply → Option Text
  | token answer => (Answer.token? answer).bind Token.word?
  | word answer => answer.toOption.join
  | tokens _ | words _ => none

/-- The answers to so many calls of one reader. -/
def Reader.answers (r : Reader) (s : Stream) : Nat → List Answer
  | 0 => []
  | count + 1 => (r.next s).answer :: (r.next s).reader.answers (r.next s).stream count

/-- Answers to a reader of tokens that make up one answer to a reader of words: some comments, which
are dropped, and what comes after them. -/
inductive PastComments : List Answer → Except ReadError (Option Text) → Prop
  | word (w : Text) : PastComments [.ok (some ⟨.word, w⟩)] (.ok (some w))
  | ended : PastComments [.ok none] (.ok none)
  | failed (e : ReadError) : PastComments [.error e] (.error e)
  | comment (c : Text) {taken : List Answer} {answer : Except ReadError (Option Text)} :
      PastComments taken answer → PastComments (.ok (some ⟨.comment, c⟩) :: taken) answer

/-- Answers that are dealt out to requests, each of which replies with what it takes of them. -/
inductive Shares : List Request → List (Option Reply) → List Answer → Prop
  | none : Shares [] [] []
  | token {requests : List Request} {replies : List (Option Reply)} {answers : List Answer}
      (answer : Answer) : Shares requests replies answers →
      Shares (.token :: requests) (some (.token answer) :: replies) (answer :: answers)
  | word {requests : List Request} {replies : List (Option Reply)} {taken answers : List Answer}
      {answer : Except ReadError (Option Text)} : PastComments taken answer →
      Shares requests replies answers →
      Shares (.word :: requests) (some (.word answer) :: replies) (taken ++ answers)

/-! ### What is dealt out -/

theorem PastComments.words {taken : List Answer} {answer : Except ReadError (Option Text)}
    (past : PastComments taken answer) :
    (taken.filterMap Answer.token?).filterMap Token.word? = (Reply.word answer).word?.toList := by
  induction past with
  | word | ended | failed => rfl
  | comment c _ ih =>
    rw [← ih]
    rfl

/-- The words in the replies are the words in the answers. -/
theorem Shares.words {requests : List Request} {replies : List (Option Reply)}
    {answers : List Answer} (shares : Shares requests replies answers) :
    replies.filterMap (·.bind Reply.word?) =
      (answers.filterMap Answer.token?).filterMap Token.word? := by
  induction shares with
  | none => rfl
  | token answer _ ih =>
    rw [List.filterMap_cons, List.filterMap_cons, ih]
    rcases answer with _ | _ | token <;> rfl
  | word past _ ih =>
    rw [List.filterMap_cons, List.filterMap_append, List.filterMap_append, past.words, ih]
    rcases word : (Reply.word _).word? <;> simp [word]

private theorem Shares.eq_of_tokens {requests : List Request} {replies : List (Option Reply)}
    {answers : List Answer} (shares : Shares requests replies answers)
    (tokens : ∀ request ∈ requests, request = .token) :
    replies = answers.map (fun answer => some (.token answer)) ∧
      answers.length = requests.length := by
  induction shares with
  | none => exact ⟨rfl, rfl⟩
  | token answer _ ih =>
    obtain ⟨replies, length⟩ := ih (List.forall_mem_cons.mp tokens).2
    exact ⟨by rw [replies]; rfl, congrArg (· + 1) length⟩
  | word _ _ _ => cases (List.forall_mem_cons.mp tokens).1

/-! ### One request -/

namespace Reader

variable {r : Reader} {s : Stream} {t : Text}

private theorem next_of_empty (empty : r.held = []) (spells : s.Spells t) :
    (r.next s).answer = (Phase.start.call r.classifier [] t).1.mapError .lex ∧
    (r.next s).reader = r ∧
    (r.next s).stream.Spells (Phase.start.call r.classifier [] t).2 := by
  obtain ⟨k, held⟩ := r
  obtain rfl : held = [] := empty
  exact next_of_spells k spells

private theorem answers_succ (empty : r.held = []) (spells : s.Spells t) (count : Nat) :
    r.answers s (count + 1) = (r.next s).answer :: r.answers (r.next s).stream count := by
  rw [answers, (next_of_empty empty spells).2.1]

private theorem length_answers (r : Reader) (s : Stream) (count : Nat) :
    (r.answers s count).length = count := by
  induction count generalizing r s with
  | zero => rfl
  | succ count ih => simp [answers, ih]

/-- A request that is settled by one answer takes that answer only. -/
private theorem settled_by_one (empty : r.held = []) (spells : s.Spells t)
    {answer : Except ReadError (Option Text)} (past : PastComments [(r.next s).answer] answer) :
    (r.next s).reader = r ∧ (∃ left, (r.next s).stream.Spells left) ∧
    ∃ count, PastComments (r.answers s count) answer ∧
      ∀ more, r.answers s (count + more) =
        r.answers s count ++ r.answers (r.next s).stream more := by
  obtain ⟨-, reader, left⟩ := next_of_empty empty spells
  have one : r.answers s 1 = [(r.next s).answer] := answers_succ empty spells 0
  refine ⟨reader, ⟨_, left⟩, 1, one ▸ past, fun more => ?_⟩
  rw [one, Nat.add_comm, answers_succ empty spells]
  rfl

/-- A request for a word takes the answers that a reader of tokens would get, up to the first that
is no comment, and leaves the ones after them. -/
theorem nextWord_of_spells (empty : r.held = []) (spells : s.Spells t) :
    (r.nextWord s).reader = r ∧ (∃ left, (r.nextWord s).stream.Spells left) ∧
    ∃ count, PastComments (r.answers s count) (r.nextWord s).answer ∧
      ∀ more, r.answers s (count + more) =
        r.answers s count ++ r.answers (r.nextWord s).stream more := by
  fun_induction nextWord r s generalizing t with
  | case1 r s e failed => exact settled_by_one empty spells (failed ▸ .failed e)
  | case2 r s ended => exact settled_by_one empty spells (ended ▸ .ended)
  | case3 r s w word => exact settled_by_one empty spells (word ▸ .word w)
  | case4 r s c comment shorter ih =>
    -- The answers after the comment are those of a call on what it leaves.
    obtain ⟨-, reader, left⟩ := next_of_empty empty spells
    rw [reader] at ih ⊢
    obtain ⟨same, later, count, past, split⟩ := ih empty left
    refine ⟨same, later, count + 1, ?_, ?_⟩
    · rw [answers_succ empty spells, comment]
      exact .comment c past
    · intro more
      rw [Nat.add_right_comm, answers_succ empty spells, answers_succ empty spells, split]
      rfl

/-- No token comes after the end of the text. -/
private theorem answers_of_spells_nil (empty : r.held = []) (spells : s.Spells []) (count : Nat) :
    (r.answers s count).filterMap Answer.token? = [] := by
  induction count generalizing s with
  | zero => rfl
  | succ count ih =>
    obtain ⟨answer, -, left⟩ := next_of_empty empty spells
    rw [answers_succ empty spells, List.filterMap_cons, ih left, answer]
    rfl

end Reader

/-- A call that gives no token has read the text to its end. -/
private theorem Phase.call_of_no_token (k : Classifier) (phase : Phase) (read t : Text)
    (none : ∀ token, (phase.call k read t).1 ≠ .ok (some token)) :
    (phase.call k read t).2 = [] := by
  induction t generalizing phase read with
  | nil => rfl
  | cons c rest ih =>
    cases step : phase.step (k.classOf c) [c] with
    | skip next =>
      rw [call_skip step] at none ⊢
      exact ih next read none
    | keep next =>
      rw [call_keep step] at none ⊢
      exact ih next (c :: read) none
    | emit kind =>
      rw [call_emit step] at none
      exact absurd rfl (none _)

namespace Reader

variable {r : Reader} {s : Stream} {t : Text}

/-- The tokens in the first few answers are the first tokens of all. -/
private theorem answers_prefix_drain (empty : r.held = []) (spells : s.Spells t) (count : Nat) :
    (r.answers s count).filterMap Answer.token? <+: (r.drain s).items := by
  induction count generalizing s t with
  | zero => exact List.nil_prefix
  | succ count ih =>
    obtain ⟨answer, reader, left⟩ := next_of_empty empty spells
    rw [answers_succ empty spells, List.filterMap_cons]
    rcases called : (Phase.start.call r.classifier [] t).1 with e | _ | token
    all_goals rw [called] at answer
    -- Without a token the text is used up, so that no later answer has one either.
    · rw [Phase.call_of_no_token _ _ _ _ (by simp [called])] at left
      rw [answers_of_spells_nil empty left, answer]
      exact List.nil_prefix
    · rw [Phase.call_of_no_token _ _ _ _ (by simp [called])] at left
      rw [answers_of_spells_nil empty left, answer]
      exact List.nil_prefix
    · have more := ih left
      rw [drain_of_token r s token answer, reader, answer]
      exact List.cons_prefix_cons.mpr ⟨rfl, more⟩

end Reader

/-! ### Many requests -/

namespace Session

/-- So many new readers over one stream. -/
def shared (readers : Nat) (k : Classifier) (s : Stream) : Session where
  readers := List.replicate readers { classifier := k }
  stream := s

variable {readers : Nat} {k : Classifier} {s : Stream} {t : Text}

/-- A request that leaves nothing with its reader leaves the readers as they were. -/
theorem request_shared {index : Nat} (seated : index < readers) {what : Request}
    (kept : (({ classifier := k } : Reader).respond s what).reader = { classifier := k }) :
    (shared readers k s).request index what =
      (some (({ classifier := k } : Reader).respond s what).reply,
        shared readers k (({ classifier := k } : Reader).respond s what).stream) := by
  -- All readers are alike, so it does not matter which of them is asked.
  have reader : (shared readers k s).readers[index]? = some { classifier := k } := by
    simp [shared, seated]
  rw [request, reader]
  simp [kept, shared]

/-- Requests for tokens and words are dealt the answers that one reader would get, in order, and
leave the readers as they were. -/
theorem shares_of_spells (spells : s.Spells t) (calls : List (Nat × Request))
    (seated : ∀ call ∈ calls, call.1 < readers ∧ (call.2 = .token ∨ call.2 = .word)) :
    (∃ count, Shares (calls.map Prod.snd) ((shared readers k s).requests calls).1
      (({ classifier := k } : Reader).answers s count)) ∧
    ∃ rest, ((shared readers k s).requests calls).2 = shared readers k rest := by
  -- The induction is on the calls for every stream that spells a text: this is what each call
  -- leaves behind.
  induction calls generalizing s t with
  | nil => exact ⟨⟨0, .none⟩, s, rfl⟩
  | cons call calls ih =>
    obtain ⟨index, what⟩ := call
    obtain ⟨⟨inside, asked⟩, others⟩ := List.forall_mem_cons.mp seated
    rcases asked with rfl | rfl
    · obtain ⟨-, reader, left⟩ := Reader.next_of_spells k spells
      have kept : (({ classifier := k } : Reader).respond s .token).reader = { classifier := k } :=
        reader
      obtain ⟨⟨count, shares⟩, rest, ended⟩ := ih left others
      rw [requests, request_shared inside kept]
      refine ⟨⟨count + 1, ?_⟩, rest, ended⟩
      rw [Reader.answers_succ rfl spells]
      exact .token _ shares
    · obtain ⟨reader, ⟨u, left⟩, taken, past, split⟩ :=
        @Reader.nextWord_of_spells { classifier := k } s t rfl spells
      have kept : (({ classifier := k } : Reader).respond s .word).reader = { classifier := k } :=
        reader
      obtain ⟨⟨count, shares⟩, rest, ended⟩ := ih left others
      rw [requests, request_shared inside kept]
      refine ⟨⟨taken + count, ?_⟩, rest, ended⟩
      rw [split]
      exact .word past shares

/-- Readers that share a text, or the bytes of one, are dealt the answers that a single reader
would get, and none of them keeps a byte. If all requests are for tokens, each gets the next answer.
If some are for words, only comments that these have passed over are left out of the replies; the
words in them are the first words of the text. -/
theorem requests_shared (k : Classifier) (t : Text) (s : Stream)
    (origin : s = .ofText t ∨ s = .ofBytes (Utf8.encode t)) (readers : Nat)
    (calls : List (Nat × Request))
    (seated : ∀ call ∈ calls, call.1 < readers ∧ (call.2 = .token ∨ call.2 = .word)) :
    ((∀ call ∈ calls, call.2 = .token) →
      ((shared readers k s).requests calls).1 =
        (({ classifier := k } : Reader).answers s calls.length).map fun answer =>
          some (.token answer)) ∧
    (∃ count, Shares (calls.map Prod.snd) ((shared readers k s).requests calls).1
      (({ classifier := k } : Reader).answers s count)) ∧
    ((shared readers k s).requests calls).1.filterMap (·.bind Reply.word?) <+:
      (s.tokens k).items.filterMap Token.word? ∧
    ∀ r ∈ ((shared readers k s).requests calls).2.readers, r.held = [] := by
  have spells : s.Spells t := by
    rcases origin with rfl | rfl
    · exact .inl rfl
    · exact Stream.spells_ofBytes t
  obtain ⟨⟨count, shares⟩, rest, ended⟩ := @shares_of_spells readers k s t spells calls seated
  refine ⟨?_, ⟨count, shares⟩, ?_, ?_⟩
  · intro tokens
    obtain ⟨replies, length⟩ := shares.eq_of_tokens (List.forall_mem_map.mpr tokens)
    rw [Reader.length_answers, List.length_map] at length
    rw [replies, length]
  · rw [shares.words]
    exact (Reader.answers_prefix_drain rfl spells count).filterMap _
  · rw [ended]
    intro r member
    rw [List.eq_of_mem_replicate member]

/-- Two readers of a text with a two-byte letter. Asked for tokens, they take turns; asked for
words, the second one passes over the comment. -/
theorem requests_shared_comment :
    ((shared 2 {} (.ofBytes (Utf8.encode "ä #b\nc"))).requests
      [(0, .token), (1, .token), (0, .token), (1, .token)]).1 =
      [some (.token (.ok (some ⟨.word, "ä"⟩))), some (.token (.ok (some ⟨.comment, "b"⟩))),
        some (.token (.ok (some ⟨.word, "c"⟩))), some (.token (.ok none))] ∧
    ((shared 2 {} (.ofBytes (Utf8.encode "ä #b\nc"))).requests
      [(0, .word), (1, .word)]).1.filterMap (·.bind Reply.word?) <+: (["ä", "c"] : List Text) := by
  constructor
  · rw [(requests_shared {} "ä #b\nc" _ (.inr rfl) 2 _ (by decide)).1 (by decide)]
    rfl
  · have words := (requests_shared {} "ä #b\nc" _ (.inr rfl) 2 [(0, .word), (1, .word)]
      (by decide)).2.2.1
    rw [(Stream.sameTokens_of_spells {} (Stream.spells_ofBytes _) (.inl rfl)).1,
      (Stream.tokens_ofText {} _).1] at words
    exact words

end Session

end ShellWords
