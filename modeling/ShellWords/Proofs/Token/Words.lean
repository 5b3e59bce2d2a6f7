import ShellWords.Token.Reader

/-!
Reading words. A reader of words asks for tokens and drops the comments, so draining it gives the
tokens of kind word and stops where, and as, the tokens stop.
-/
namespace ShellWords

namespace Reader

variable (r : Reader) (s : Stream)

/-- What draining the words would have given. -/
def Drained.words (drained : Drained Token) : Drained Text :=
  ⟨drained.items.filterMap Token.word?, drained.failure, drained.reader, drained.stream⟩

theorem drain_of_error (e : ReadError) (failed : (r.next s).answer = .error e) :
    r.drain s = ⟨[], some e, (r.next s).reader, (r.next s).stream⟩ := by
  rw [drain]
  split <;> simp_all

theorem drain_of_end (ended : (r.next s).answer = .ok none) :
    r.drain s = ⟨[], none, (r.next s).reader, (r.next s).stream⟩ := by
  rw [drain]
  split <;> simp_all

theorem drain_of_token (t : Token) (token : (r.next s).answer = .ok (some t)) :
    r.drain s = ((r.next s).reader.drain (r.next s).stream).cons t := by
  rw [drain]
  split <;> simp_all

private theorem drainWords_of_error (e : ReadError) (failed : (r.nextWord s).answer = .error e) :
    r.drainWords s = ⟨[], some e, (r.nextWord s).reader, (r.nextWord s).stream⟩ := by
  rw [drainWords]
  split <;> simp_all

private theorem drainWords_of_end (ended : (r.nextWord s).answer = .ok none) :
    r.drainWords s = ⟨[], none, (r.nextWord s).reader, (r.nextWord s).stream⟩ := by
  rw [drainWords]
  split <;> simp_all

private theorem drainWords_of_word (w : Text) (word : (r.nextWord s).answer = .ok (some w)) :
    r.drainWords s = ((r.nextWord s).reader.drainWords (r.nextWord s).stream).cons w := by
  rw [drainWords]
  split <;> simp_all

theorem nextWord_of_error (e : ReadError) (failed : (r.next s).answer = .error e) :
    r.nextWord s = ⟨.error e, (r.next s).reader, (r.next s).stream⟩ := by
  rw [nextWord]
  split <;> simp_all

theorem nextWord_of_end (ended : (r.next s).answer = .ok none) :
    r.nextWord s = ⟨.ok none, (r.next s).reader, (r.next s).stream⟩ := by
  rw [nextWord]
  split <;> simp_all

theorem nextWord_of_word (w : Text) (word : (r.next s).answer = .ok (some ⟨.word, w⟩)) :
    r.nextWord s = ⟨.ok (some w), (r.next s).reader, (r.next s).stream⟩ := by
  rw [nextWord]
  split <;> simp_all

/-- A comment is read as if it were not there. -/
theorem nextWord_of_comment (c : Text) (comment : (r.next s).answer = .ok (some ⟨.comment, c⟩)) :
    r.nextWord s = (r.next s).reader.nextWord (r.next s).stream := by
  rw [nextWord]
  split <;> simp_all

/-- Draining looks at a reader only through its next word. -/
private theorem drainWords_congr (r' : Reader) (s' : Stream)
    (same : r.nextWord s = r'.nextWord s') :
    r.drainWords s = r'.drainWords s' := by
  match word : (r.nextWord s).answer with
  | .error e =>
    rw [drainWords_of_error r s e word, drainWords_of_error r' s' e (same ▸ word), same]
  | .ok none =>
    rw [drainWords_of_end r s word, drainWords_of_end r' s' (same ▸ word), same]
  | .ok (some w) =>
    rw [drainWords_of_word r s w word, drainWords_of_word r' s' w (same ▸ word), same]

/-- The words that are left are the tokens that are left, without the comments. -/
theorem drainWords_eq : r.drainWords s = (r.drain s).words := by
  -- The induction is on draining the tokens: it takes one step for each comment, where draining
  -- the words takes none.
  fun_induction drain r s with
  | case1 r s e failed =>
    have answer := nextWord_of_error r s e failed
    rw [drainWords_of_error r s e (by rw [answer]), answer]
    rfl
  | case2 r s ended =>
    have answer := nextWord_of_end r s ended
    rw [drainWords_of_end r s (by rw [answer]), answer]
    rfl
  | case3 r s t token shorter ih =>
    obtain ⟨kind, value⟩ := t
    cases kind with
    | word =>
      have answer := nextWord_of_word r s value token
      rw [drainWords_of_word r s value (by rw [answer]), answer, ih]
      rfl
    | comment =>
      rw [drainWords_congr r s _ _ (nextWord_of_comment r s value token), ih]
      rfl

private theorem Drained.words_all (drained : Drained Token) :
    drained.words.all = drained.all.map (·.filterMap Token.word?) := by
  unfold Drained.all
  cases failed : drained.failure <;> simp [Drained.words, failed, Except.map]

end Reader

/-- The words of a stream are all its tokens without the comments, or the error they end in. -/
theorem Stream.words_eq (s : Stream) (k : Classifier) :
    s.words k = (s.tokens k).all.map (·.filterMap Token.word?) := by
  rw [words, Reader.drainWords_eq, Reader.Drained.words_all, tokens]

end ShellWords
