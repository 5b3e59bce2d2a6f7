import Mathlib.Logic.Function.Iterate
import ShellWords.Proofs.Token.Session
import ShellWords.Token.Service

/-!
# Reading ends

A stream never refuses to be read: when it is used up it hands out its end mark, again and again.
`Service` is a request that is being served on such a stream, and `Service.step` is one read for it.
Within one read more than the stream has deliveries a call has its answer (`Service.reaches_scan`),
and within two reads more any request has its response, however many calls it takes
(`Service.iterate_call`).
-/
namespace ShellWords

namespace Service

theorem iterate_served (response : Response) (reads : Nat) :
    step^[reads] (.served response) = .served response :=
  Function.iterate_fixed rfl reads

end Service

/-! ### The end of a stream -/

/-- Nobody waits for more at the end of a stream. -/
private theorem Receipt.ofDelivery_endMark (held : Bytes) (mark : EndMark) :
    (∃ e, ofDelivery held mark.delivery = .failed (.undecodable e) ∧ mark = .bytes ∧ held ≠ []) ∨
      ofDelivery held mark.delivery = .unit [] held ∧ (mark = .bytes → held = []) := by
  cases mark with
  | text => exact .inr ⟨rfl, nofun⟩
  | bytes =>
    by_cases none_held : held = []
    · subst none_held
      exact .inr ⟨rfl, fun _ => rfl⟩
    · obtain ⟨e, received⟩ := ofDelivery_end none_held
      exact .inl ⟨e, received, rfl, none_held⟩

/-- What a call leaves is the end of what it found, without the first delivery. -/
theorem scan_rest_suffix (k : Classifier) (mark : EndMark) (phase : Phase) (read : Text)
    (held : Bytes) (deliveries : List Delivery) :
    (scan k mark phase read held deliveries).rest <:+ deliveries.tail := by
  fun_induction scan k mark phase read held deliveries with
  | case1 | case2 | case3 => exact List.suffix_refl _
  | case4 | case6 | case9 => exact List.suffix_refl _
  | case5 | case7 | case8 =>
    rename_i ih
    exact ih.trans (List.tail_suffix _)

namespace Service

/-! ### One call -/

section Call

variable {errand : Errand} {k : Classifier} {mark : EndMark} {deliveries rest : List Delivery}
  {delivery : Delivery} {service later : Service} {scanned : Scan (Option Token)}

/-- Reads that come to what a call answers and leaves: one for each delivery that it uses up, and at
most one more, if it comes to the end of the stream. -/
def Reaches (errand : Errand) (k : Classifier) (mark : EndMark) (deliveries : List Delivery)
    (service : Service) (scanned : Scan (Option Token)) : Prop :=
  ∃ reads,
    step^[reads] service =
      answered errand scanned.answer ⟨k, scanned.held⟩ ⟨scanned.rest, mark⟩ ∧
    (reads + scanned.rest.length = deliveries.length ∨
      scanned.rest = [] ∧ reads = deliveries.length + 1)

private theorem Reaches.past_end (read : step service =
    answered errand scanned.answer ⟨k, scanned.held⟩ ⟨scanned.rest, mark⟩)
    (none_left : scanned.rest = []) : Reaches errand k mark [] service scanned :=
  ⟨1, read, .inr ⟨none_left, rfl⟩⟩

theorem Reaches.last (read : step service =
    answered errand scanned.answer ⟨k, scanned.held⟩ ⟨scanned.rest, mark⟩) :
    Reaches errand k mark (delivery :: scanned.rest) service scanned :=
  ⟨1, read, .inl (Nat.add_comm ..)⟩

theorem Reaches.further (read : step service = later)
    (reaches : Reaches errand k mark rest later scanned) :
    Reaches errand k mark (delivery :: rest) service scanned := by
  obtain ⟨reads, same, count⟩ := reaches
  refine ⟨reads + 1, ?_, ?_⟩
  · rw [Function.iterate_succ_apply, read, same]
  · rw [List.length_cons, Nat.add_right_comm, Nat.add_left_inj, Nat.add_left_inj]
    exact count

end Call

/-- The reads of a call come to what `scan` says of it. -/
theorem reaches_scan (errand : Errand) (k : Classifier) (mark : EndMark) (phase : Phase)
    (read : Text) (held : Bytes) (deliveries : List Delivery) :
    Reaches errand k mark deliveries (.reading errand phase read ⟨k, held⟩ ⟨deliveries, mark⟩)
      (scan k mark phase read held deliveries) := by
  fun_induction scan k mark phase read held deliveries with
  | case1 phase read held e received =>
    refine .past_end ?_ rfl
    simp only [step, Stream.read, received]
  | case2 phase read held unit left received =>
    refine .past_end ?_ rfl
    -- An end mark gives an empty unit.
    rcases Receipt.ofDelivery_endMark held mark with ⟨e, failed, -⟩ | ⟨ended, -⟩
    · rw [failed] at received
      cases received
    · rw [ended] at received
      cases received
      simp only [step, Stream.read, ended]
      rfl
  | case3 phase read held left received =>
    -- The one case that could go on for ever: waiting behind an end mark.
    rcases Receipt.ofDelivery_endMark held mark with ⟨e, failed, -⟩ | ⟨ended, -⟩
    · rw [failed] at received
      cases received
    · rw [ended] at received
      cases received
  | case4 phase read held delivery rest e received =>
    refine .last ?_
    simp only [step, Stream.read, received]
  | case5 phase read held delivery rest left received ih =>
    refine .further ?_ ih
    simp only [step, Stream.read, received]
  | case6 phase read held delivery rest unit left received empty =>
    refine .last ?_
    simp only [step, Stream.read, received, empty, if_true]
  | case7 phase read held delivery rest unit left received some_text next stepped ih =>
    refine .further ?_ ih
    simp only [step, Stream.read, received, some_text, stepped]
    rfl
  | case8 phase read held delivery rest unit left received some_text next stepped ih =>
    refine .further ?_ ih
    simp only [step, Stream.read, received, some_text, stepped]
    rfl
  | case9 phase read held delivery rest unit left received some_text kind stepped =>
    refine .last ?_
    simp only [step, Stream.read, received, some_text, stepped]
    rfl

/-! ### All calls -/

end Service

/-- The response to a request for which something has been collected. -/
def Errand.response (errand : Errand) (r : Reader) (s : Stream) : Response :=
  match errand with
  | .token => r.respond s .token
  | .word => r.respond s .word
  | .tokens collected =>
    let drained := r.drain s
    ⟨.tokens (drained.all.map (collected ++ ·)), drained.reader, drained.stream⟩
  | .words collected =>
    let drained := r.drainWords s
    ⟨.words (drained.all.map (collected ++ ·)), drained.reader, drained.stream⟩

private theorem Request.response_errand (request : Request) (r : Reader) (s : Stream) :
    request.errand.response r s = r.respond s request := by
  have same {α : Type} (all : Except ReadError (List α)) : all.map ([] ++ ·) = all := by
    cases all <;> rfl
  cases request with
  | token | word => rfl
  | tokens | words => simp only [errand, Errand.response, Reader.respond, same]

/-- What has been collected comes before all that is left. -/
private theorem Reader.Drained.all_behind {α : Type} (drained : Drained α) (more before : List α) :
    ({ drained with items := more ++ drained.items } : Drained α).all.map (before ++ ·) =
      drained.all.map (before ++ more ++ ·) := by
  unfold all
  cases drained.failure <;> simp [Except.map]

private theorem Reader.Drained.words_cons (drained : Drained Token) (t : Token) :
    (drained.cons t).words =
      { drained.words with items := t.word?.toList ++ drained.words.items } := by
  cases word : t.word? <;> simp [cons, words, word]

namespace Service

/-- A call that gives no token completes the response. -/
private theorem answered_of_no_token (errand : Errand) {r : Reader} {s : Stream}
    (none : ∀ t, (r.next s).answer ≠ .ok (some t)) :
    answered errand (r.next s).answer (r.next s).reader (r.next s).stream =
      .served (errand.response r s) := by
  rcases answer : (r.next s).answer with e | _ | t
  · cases errand with
    | token => simp only [answered, Errand.response, Reader.respond, answer]
    | word =>
      simp only [answered, Errand.response, Reader.respond, Reader.nextWord_of_error r s e answer]
    | tokens collected =>
      simp only [answered, Errand.response, Reader.drain_of_error r s e answer]
      rfl
    | words collected =>
      simp only [answered, Errand.response, Reader.drainWords_eq,
        Reader.drain_of_error r s e answer]
      rfl
  · cases errand with
    | token => simp only [answered, Errand.response, Reader.respond, answer]
    | word =>
      simp only [answered, Errand.response, Reader.respond, Reader.nextWord_of_end r s answer]
    | tokens collected =>
      simp [answered, Errand.response, Reader.drain_of_end r s answer, Reader.Drained.all,
        Except.map]
    | words collected =>
      simp [answered, Errand.response, Reader.drainWords_eq, Reader.drain_of_end r s answer,
        Reader.Drained.words, Reader.Drained.all, Except.map]
  · exact absurd answer (none t)

/-- A call that gives a token completes the response, or is followed by a call for what is missing
of it. -/
private theorem answered_of_token (errand : Errand) {r : Reader} {s : Stream} {t : Token}
    (token : (r.next s).answer = .ok (some t)) :
    answered errand (r.next s).answer (r.next s).reader (r.next s).stream =
        .served (errand.response r s) ∨
      ∃ later : Errand,
        answered errand (r.next s).answer (r.next s).reader (r.next s).stream =
          call later (r.next s).reader (r.next s).stream ∧
        later.response (r.next s).reader (r.next s).stream = errand.response r s := by
  rw [token]
  cases errand with
  | token =>
    left
    simp only [answered, Errand.response, Reader.respond, token]
  | word =>
    obtain ⟨kind, value⟩ := t
    cases kind with
    | word =>
      left
      simp only [answered, Errand.response, Reader.respond, Reader.nextWord_of_word r s value token]
      rfl
    | comment =>
      refine .inr ⟨.word, rfl, ?_⟩
      simp only [Errand.response, Reader.respond, Reader.nextWord_of_comment r s value token]
  | tokens collected =>
    refine .inr ⟨.tokens (collected ++ [t]), rfl, ?_⟩
    simp only [Errand.response, Reader.drain_of_token r s t token, ← Reader.Drained.all_behind]
    rfl
  | words collected =>
    refine .inr ⟨.words (collected ++ t.word?.toList), rfl, ?_⟩
    simp only [Errand.response, Reader.drainWords_eq, Reader.drain_of_token r s t token,
      Reader.Drained.words_cons, Reader.Drained.all_behind]

/-- The reads of one call on a stream, and those after it. -/
theorem exists_iterate_call (errand : Errand) (r : Reader) (s : Stream) :
    ∃ used,
      (∀ more, step^[more + used] (call errand r s) =
        step^[more] (answered errand (r.next s).answer (r.next s).reader (r.next s).stream)) ∧
      (used + (r.next s).stream.size = s.size ∨
        (r.next s).stream.deliveries = [] ∧ used = s.size + 1) := by
  obtain ⟨used, called, count⟩ :=
    reaches_scan errand r.classifier s.endMark .start [] r.held s.deliveries
  refine ⟨used, fun more => ?_, count⟩
  rw [Function.iterate_add_apply]
  exact congrArg _ called

/-- A request has its response after so many reads as there are deliveries, and two more: a call may
come to the end of the stream with a token, and then there is one more call. Where nothing is left
one read is enough. -/
theorem iterate_call (errand : Errand) (r : Reader) (s : Stream) {reads : Nat}
    (enough : s.size + 2 ≤ reads ∨ s.deliveries = [] ∧ 0 < reads) :
    step^[reads] (call errand r s) = .served (errand.response r s) := by
  -- The recursion is on the calls: one that is followed by another gives a token, and has shortened
  -- the stream.
  obtain ⟨used, after, count⟩ := exists_iterate_call errand r s
  have within : used ≤ reads := by
    rcases enough with many | ⟨none_left, some_read⟩
    · omega
    · have nothing : s.size = 0 := congrArg List.length none_left
      omega
  obtain ⟨more, rfl⟩ := Nat.exists_eq_add_of_le' within
  rw [after]
  by_cases token : ∃ t, (r.next s).answer = .ok (some t)
  · obtain ⟨t, token⟩ := token
    rcases answered_of_token errand token with done | ⟨later, again, response⟩
    · rw [done, iterate_served]
    · have shorter := r.next_size_lt_of_token s t token
      rw [again, ← response]
      refine iterate_call later (r.next s).reader (r.next s).stream ?_
      rcases enough with many | ⟨none_left, -⟩
      · rcases count with unread | ⟨none_left, past⟩
        · left
          omega
        -- The call came to the end of the stream, so the next one finds nothing.
        · exact .inr ⟨none_left, by omega⟩
      · exact absurd token (r.next_answer_ne_some s none_left t)
  · rw [answered_of_no_token errand (not_exists.mp token), iterate_served]
termination_by s.size

end Service

namespace Reader

private theorem next_deliveries_suffix (r : Reader) (s : Stream) :
    (r.next s).stream.deliveries <:+ s.deliveries.tail :=
  scan_rest_suffix r.classifier s.endMark .start [] r.held s.deliveries

/-- A call on a stream that is used up changes nothing, and gives no token. -/
private theorem next_of_used_up (r : Reader) {s : Stream} (none_left : s.deliveries = []) :
    (∃ e, r.next s = ⟨.error (.undecodable e), r, s⟩ ∧ s.endMark = .bytes ∧ r.held ≠ []) ∨
      r.next s = ⟨.ok none, r, s⟩ ∧ (s.endMark = .bytes → r.held = []) := by
  obtain ⟨deliveries, mark⟩ := s
  obtain rfl : deliveries = [] := none_left
  rcases Receipt.ofDelivery_endMark r.held mark with ⟨e, received, begun⟩ | ⟨received, whole⟩
  · refine .inl ⟨e, ?_, begun⟩
    simp only [next, scan, received]
  · refine .inr ⟨?_, whole⟩
    simp only [next, scan, received]
    rfl

/-- A stream is finite, and then hands out its end mark without end. Whatever it hands out, and
whatever the reader holds, every request has its response after two reads more than there are
deliveries, and a request for a token after one more. A call uses up a first part of the deliveries
that is not empty, or finds none. If it finds none, it leaves everything as it is, and answers that
there is no token, or, just if bytes have ended within a character, that they cannot be decoded. -/
theorem reading_ends (r : Reader) (s : Stream) :
    (∀ request reads, s.size + 2 ≤ reads →
      Service.step^[reads] (.call request.errand r s) = .served (r.respond s request)) ∧
    (∀ reads, s.size + 1 ≤ reads →
      Service.step^[reads] (.call .token r s) = .served (r.respond s .token)) ∧
    (s.deliveries = [] ∨
      ∃ taken, taken ≠ [] ∧ s.deliveries = taken ++ (r.next s).stream.deliveries) ∧
    (s.deliveries = [] →
      (r.next s).reader = r ∧ (r.next s).stream = s ∧
      ((r.next s).answer = .ok none ∨ ∃ e, (r.next s).answer = .error (.undecodable e)) ∧
      ((∃ e, (r.next s).answer = .error (.undecodable e)) ↔
        s.endMark = .bytes ∧ r.held ≠ [])) := by
  refine ⟨fun request reads enough => ?_, fun reads enough => ?_, ?_, fun none_left => ?_⟩
  · rw [Service.iterate_call request.errand r s (.inl enough), Request.response_errand]
  -- A request for a token is a single call, so there is none that finds nothing after it.
  · obtain ⟨used, after, count⟩ := Service.exists_iterate_call .token r s
    obtain ⟨more, rfl⟩ := Nat.exists_eq_add_of_le' (show used ≤ reads by omega)
    rw [after]
    exact Service.iterate_served _ _
  · cases found : s.deliveries with
    | nil => exact .inl rfl
    | cons first rest =>
      obtain ⟨more, same⟩ := r.next_deliveries_suffix s
      rw [found, List.tail_cons] at same
      exact .inr ⟨first :: more, List.cons_ne_nil _ _, by rw [List.cons_append, same]⟩
  · rcases r.next_of_used_up none_left with ⟨e, call, begun⟩ | ⟨call, whole⟩
    · rw [call]
      exact ⟨rfl, rfl, .inr ⟨e, rfl⟩, iff_of_true ⟨e, rfl⟩ begun⟩
    · rw [call]
      refine ⟨rfl, rfl, .inl rfl, iff_of_false nofun ?_⟩
      rintro ⟨bytes, some_held⟩
      exact some_held (whole bytes)

/-- A comment whose letter comes in two bytes, and which ends where nothing is handed out; and a
word that the end of the stream ends, after which there is one more read. A byte that is held at the
end is refused at every call. -/
theorem reading_ends_comment :
    let s : Stream := ⟨[.text "#", .bytes [0xC3], .bytes [0xA4], .nothing, .text "a"], .bytes⟩
    s.size + 2 ≤ 7 ∧ ({} : Reader).respond s .words = ⟨.words (.ok ["a"]), {}, ⟨[], .bytes⟩⟩ ∧
    (⟨[], .bytes⟩ : Stream).deliveries = [] ∧
    ∃ e, (({ held := [0xC3] } : Reader).next ⟨[], .bytes⟩).answer = .error (.undecodable e) := by
  intro s
  have ends := (reading_ends {} s).1 .words 7 (Nat.le_refl _)
  have ran : Service.step^[7] (.call Request.words.errand {} s) =
      .served ⟨.words (.ok ["a"]), {}, ⟨[], .bytes⟩⟩ := rfl
  rw [ran] at ends
  exact ⟨Nat.le_refl _, (Service.served.inj ends).symm, rfl,
    ((reading_ends { held := [0xC3] } ⟨[], .bytes⟩).2.2.2 rfl).2.2.2.mpr ⟨rfl, by decide⟩⟩

end Reader

end ShellWords
