import Mathlib.Tactic.SplitIfs
import ShellWords.Proofs.Text.Utf8
import ShellWords.Proofs.Token.Run

/-!
# Reading bytes

A stream of bytes is read like the text that the bytes encode, as long as no chunk reaches over the
end of a character. Bytes that encode no text end in a decoding error, and the tokens before it are
those that end within the longest text that the bytes begin with. Both are comparisons of two
readers, call by call: `Reader.drain_of_agree` carries them from one call to all of them.
-/
namespace ShellWords

/-! ### Two readers -/

namespace Reader

/-- Two calls that agree: they give the same token and leave what is alike, or both give the last
answer there is, and these belong together. No error stands for the regular end. -/
def Agree (Alike : Reader → Stream → Reader → Stream → Prop)
    (Ends : Option ReadError → Option ReadError → Prop) (r : Reader) (s : Stream) (r' : Reader)
    (s' : Stream) : Prop :=
  match (r.next s).answer, (r'.next s').answer with
  | .ok (some t), .ok (some t') =>
    t = t' ∧ Alike (r.next s).reader (r.next s).stream (r'.next s').reader (r'.next s').stream
  | .ok none, .ok none => Ends none none
  | .error e, .error e' => Ends (some e) (some e')
  | _, _ => False

/-- Readers whose calls agree give the same tokens and end alike. -/
theorem drain_of_agree {Alike : Reader → Stream → Reader → Stream → Prop}
    {Ends : Option ReadError → Option ReadError → Prop}
    (agree : ∀ r s r' s', Alike r s r' s' → Agree Alike Ends r s r' s')
    {r r' : Reader} {s s' : Stream} (alike : Alike r s r' s') :
    (r.drain s).items = (r'.drain s').items ∧ Ends (r.drain s).failure (r'.drain s').failure := by
  -- The induction is on the calls of the first reader. What the second one answers to each of them
  -- is said by the agreement; the other answers are excluded by it.
  fun_induction drain r s generalizing r' s' with
  | case1 r s e failed =>
    have calls := agree r s r' s' alike
    simp only [Agree, failed] at calls
    split at calls
    case h_3 e e' same failed' =>
      cases same
      rw [drain_of_error r' s' e' failed']
      exact ⟨rfl, calls⟩
    all_goals simp_all
  | case2 r s ended =>
    have calls := agree r s r' s' alike
    simp only [Agree, ended] at calls
    split at calls
    case h_2 ended' =>
      rw [drain_of_end r' s' ended']
      exact ⟨rfl, calls⟩
    all_goals simp_all
  | case3 r s t token shorter ih =>
    have calls := agree r s r' s' alike
    simp only [Agree, token] at calls
    split at calls
    case h_1 t t' same token' =>
      cases same
      obtain ⟨rfl, later⟩ := calls
      obtain ⟨items, ends⟩ := ih later
      rw [drain_of_token r' s' _ token']
      exact ⟨congrArg (t :: ·) items, ends⟩
    all_goals simp_all

end Reader

/-! ### Chunks of encoded characters -/

namespace Utf8

/-- No chunk has the end of a character inside it: where the first few characters end is at or
before the start of the chunk, or at or after its end. -/
def KeepsCharacters (t : Text) (chunks : List Bytes) : Prop :=
  ∀ characters count, (encode (t.take characters)).length ≤ (chunks.take count).flatten.length ∨
    (chunks.take (count + 1)).flatten.length ≤ (encode (t.take characters)).length

private theorem keepsCharacters_iff {t : Text} {chunks : List Bytes} :
    KeepsCharacters t chunks ↔ ∀ characters ≤ t.length, ∀ count < chunks.length,
      (encode (t.take characters)).length ≤ (chunks.take count).flatten.length ∨
        (chunks.take (count + 1)).flatten.length ≤ (encode (t.take characters)).length := by
  constructor
  · exact fun keeps characters _ count _ => keeps characters count
  · intro keeps characters count
    -- Past the last character and past the last chunk, nothing changes any more.
    rcases Nat.lt_or_ge count chunks.length with inside | past
    · rcases Nat.le_total characters t.length with within | beyond
      · exact keeps characters within count inside
      · have place := keeps t.length (Nat.le_refl _) count inside
        rwa [List.take_length, ← List.take_of_length_le beyond] at place
    · rw [List.take_of_length_le past, List.take_of_length_le (Nat.le_succ_of_le past)]
      exact Nat.le_total _ _

instance (t : Text) (chunks : List Bytes) : Decidable (KeepsCharacters t chunks) :=
  decidable_of_iff _ keepsCharacters_iff.symm

/-- Chunks that go on after the bytes held and give a text, each of them a part of one character. -/
inductive Delivers : Bytes → List Bytes → Text → Prop
  | none : Delivers [] [] []
  | within {c : Char} {held chunk rest : Bytes} {chunks : List Bytes} {t : Text} :
      chunk ≠ [] → rest ≠ [] → String.utf8EncodeChar c = held ++ (chunk ++ rest) →
      Delivers (held ++ chunk) chunks (c :: t) → Delivers held (chunk :: chunks) (c :: t)
  | last {c : Char} {held chunk : Bytes} {chunks : List Bytes} {t : Text} :
      chunk ≠ [] → String.utf8EncodeChar c = held ++ chunk → Delivers [] chunks t →
      Delivers held (chunk :: chunks) (c :: t)

/-- Chunks that make up an encoded text and keep its characters deliver it. -/
private theorem delivers_of_keepsCharacters {held : Bytes} {chunks : List Bytes} {t : Text}
    (whole : held ++ chunks.flatten = encode t) (nonempty : [] ∉ chunks)
    (unfinished : ∀ c u, t = c :: u → held.length < (String.utf8EncodeChar c).length)
    (keeps : ∀ characters count,
      (encode (t.take characters)).length ≤ held.length + (chunks.take count).flatten.length ∨
      held.length + (chunks.take (count + 1)).flatten.length ≤
        (encode (t.take characters)).length) :
    Delivers held chunks t := by
  induction chunks generalizing held t with
  | nil =>
    cases t with
    | nil =>
      obtain rfl : held = [] := by simpa [encode] using whole
      exact .none
    | cons c u =>
      -- All bytes are held, but the character is not finished.
      have short := unfinished c u rfl
      have lengths := congrArg List.length whole
      simp [encode_cons, -String.length_utf8EncodeChar] at lengths
      omega
  | cons chunk chunks ih =>
    obtain ⟨first, others⟩ := List.ne_and_not_mem_of_not_mem_cons nonempty
    cases t with
    | nil => simp_all [encode]
    | cons c u =>
      have short := unfinished c u rfl
      -- The end of the first character is not in the first chunk.
      have fits : held.length + chunk.length ≤ (String.utf8EncodeChar c).length := by
        have place := keeps 1 0
        simp [encode, -String.length_utf8EncodeChar] at place
        omega
      rw [encode_cons] at whole
      have begins : held ++ chunk <+: String.utf8EncodeChar c := by
        have left : held ++ chunk <+: String.utf8EncodeChar c ++ encode u := by
          rw [← whole]
          simp
        exact List.prefix_of_prefix_length_le left (List.prefix_append _ _) (by simpa using fits)
      obtain ⟨rest, character⟩ := begins
      have after : chunks.flatten = rest ++ encode u := by
        rw [← character] at whole
        simpa using whole
      by_cases ends : rest = []
      · subst ends
        have later : [] ++ chunks.flatten = encode u := by simpa using after
        refine .last first.symm (by simpa using character.symm) (ih later others ?_ ?_)
        · intro c' u' _
          exact List.length_pos_iff.mpr (encodeChar_ne_nil c')
        · intro characters count
          have place := keeps (characters + 1) (count + 1)
          simp [encode_cons, ← character] at place ⊢
          omega
      · have still : held ++ chunk ++ chunks.flatten = encode (c :: u) := by
          simp [after, ← character, encode_cons]
        refine .within first.symm ends (by simpa using character.symm) (ih still others ?_ ?_)
        · rintro c' u' ⟨⟩
          have positive := List.length_pos_iff.mpr ends
          simp [← character]
          omega
        · intro characters count
          have place := keeps characters (count + 1)
          simp at place ⊢
          omega

private theorem flatten_bytes (bytes : Bytes) : (bytes.map fun b => [b]).flatten = bytes := by
  induction bytes with
  | nil => rfl
  | cons b bytes ih => simp [ih]

/-- A single byte has nothing inside it. -/
private theorem keepsCharacters_bytes (t : Text) (bytes : Bytes) :
    KeepsCharacters t (bytes.map fun b => [b]) := by
  intro characters count
  simp only [← List.map_take, flatten_bytes, List.length_take]
  omega

end Utf8

/-! ### Streams of bytes -/

private theorem Receipt.ofDelivery_within {c : Char} {held chunk rest : Bytes}
    (some_bytes : chunk ≠ [])
    (whole : String.utf8EncodeChar c = held ++ (chunk ++ rest)) :
    ofDelivery held (.bytes chunk) =
      if rest = [] then .unit [c] [] else .waiting (held ++ chunk) := by
  obtain ⟨b, others, rfl⟩ := List.exists_cons_of_ne_nil some_bytes
  simp only [ofDelivery, Utf8.decodeChunk, Utf8.decodeFrom_within 0 some_bytes whole]
  split_ifs <;> rfl

/-- What one byte means is what it makes of the bytes held. -/
private theorem Receipt.ofDelivery_byte (held : Bytes) (b : UInt8) :
    ofDelivery held (.bytes [b]) =
      match Utf8.feed held b with
      | .char c => .unit [c] []
      | .held bytes => .waiting bytes
      | .refused fault run => .failed (.undecodable ⟨fault, 0, run⟩) := by
  simp only [ofDelivery, Utf8.decodeChunk, Utf8.decodeFrom]
  cases Utf8.feed held b <;> rfl

/-- No byte may be held where the bytes end. -/
theorem Receipt.ofDelivery_end {held : Bytes} (some_held : held ≠ []) :
    ∃ e, ofDelivery held (.bytes []) = .failed (.undecodable e) := by
  obtain ⟨lead, others, rfl⟩ := List.exists_cons_of_ne_nil some_held
  simp only [ofDelivery, Utf8.decodeEnd]
  split_ifs
  all_goals exact ⟨_, rfl⟩

namespace Phase

section Step

variable {k : Classifier} {mark : EndMark} {phase next : Phase} {kind : TokenKind} {read : Text}
  {c : Char} {held left : Bytes} {delivery : Delivery} {rest : List Delivery} {t : Text}

theorem call_skip (step : phase.step (k.classOf c) [c] = .skip next) :
    phase.call k read (c :: t) = next.call k read t := by
  rw [call, step]

theorem call_keep (step : phase.step (k.classOf c) [c] = .keep next) :
    phase.call k read (c :: t) = next.call k (c :: read) t := by
  rw [call, step]

theorem call_emit (step : phase.step (k.classOf c) [c] = .emit kind) :
    phase.call k read (c :: t) = (.ok (some ⟨kind, read.reverse⟩), t) := by
  rw [call, step]

private theorem scan_waiting (received : Receipt.ofDelivery held delivery = .waiting left) :
    scan k mark phase read held (delivery :: rest) = scan k mark phase read left rest := by
  rw [scan, received]

private theorem scan_failed {e : ReadError}
    (received : Receipt.ofDelivery held delivery = .failed e) :
    scan k mark phase read held (delivery :: rest) = ⟨.error e, held, rest⟩ := by
  rw [scan, received]

theorem scan_skip (received : Receipt.ofDelivery held delivery = .unit [c] left)
    (step : phase.step (k.classOf c) [c] = .skip next) :
    scan k mark phase read held (delivery :: rest) = scan k mark next read left rest := by
  rw [Classifier.classOf] at step
  simp [scan, received, step]

theorem scan_keep (received : Receipt.ofDelivery held delivery = .unit [c] left)
    (step : phase.step (k.classOf c) [c] = .keep next) :
    scan k mark phase read held (delivery :: rest) = scan k mark next (c :: read) left rest := by
  rw [Classifier.classOf] at step
  simp [scan, received, step]

theorem scan_emit (received : Receipt.ofDelivery held delivery = .unit [c] left)
    (step : phase.step (k.classOf c) [c] = .emit kind) :
    scan k mark phase read held (delivery :: rest) =
      ⟨.ok (some ⟨kind, read.reverse⟩), left, rest⟩ := by
  rw [Classifier.classOf] at step
  simp [scan, received, step]

end Step

/-- Scanning chunks of a text is a call of the machine, and leaves chunks of a text. -/
theorem scan_delivers (k : Classifier) (mark : EndMark) (phase : Phase) (read : Text)
    {held : Bytes} {chunks : List Bytes} {t : Text} (delivers : Utf8.Delivers held chunks t) :
    ∃ rest, Utf8.Delivers [] rest (phase.call k read t).2 ∧
      scan k mark phase read held (chunks.map .bytes) =
        ⟨(phase.call k read t).1.mapError .lex, [], rest.map .bytes⟩ := by
  induction delivers generalizing phase read with
  | none =>
    refine ⟨[], .none, ?_⟩
    cases mark <;> cases phase <;> rfl
  | within some_bytes unfinished whole _ ih =>
    have received := Receipt.ofDelivery_within some_bytes whole
    rw [if_neg unfinished] at received
    rw [List.map_cons, scan_waiting received]
    exact ih phase read
  | @last c held chunk chunks t some_bytes whole later ih =>
    have received := @Receipt.ofDelivery_within c held chunk [] some_bytes (by simpa using whole)
    rw [if_pos rfl] at received
    cases step : phase.step (k.classOf c) [c] with
    | skip next =>
      rw [call_skip step, List.map_cons, scan_skip received step]
      exact ih next read
    | keep next =>
      rw [call_keep step, List.map_cons, scan_keep received step]
      exact ih next (c :: read)
    | emit kind =>
      rw [call_emit step, List.map_cons, scan_emit received step]
      exact ⟨chunks, later, rfl⟩

end Phase

namespace Stream

/-- A stream that hands out a text, in single characters or in parts of them. -/
def Spells (s : Stream) (t : Text) : Prop :=
  s = ofText t ∨ ∃ chunks, s.deliveries = chunks.map .bytes ∧ Utf8.Delivers [] chunks t

end Stream

/-- A call on a stream that hands out a text answers like a call on the text, and leaves a stream
that hands out the rest of it. No bytes stay with the reader. -/
theorem Reader.next_of_spells (k : Classifier) {s : Stream} {t : Text} (spells : s.Spells t) :
    (({ classifier := k } : Reader).next s).answer = (Phase.start.call k [] t).1.mapError .lex ∧
    (({ classifier := k } : Reader).next s).reader = { classifier := k } ∧
    (({ classifier := k } : Reader).next s).stream.Spells (Phase.start.call k [] t).2 := by
  rcases spells with rfl | ⟨chunks, chunked, delivers⟩
  · rw [next_ofText]
    exact ⟨rfl, rfl, .inl rfl⟩
  · obtain ⟨rest, later, scanned⟩ := Phase.scan_delivers k s.endMark .start [] delivers
    simp only [next, chunked, scanned, true_and]
    exact .inr ⟨rest, rfl, later⟩

/-- Readers without bytes of their own, over streams that hand out the same text. -/
def Reader.OverSameText (k : Classifier) (r : Reader) (s : Stream) (r' : Reader) (s' : Stream) :
    Prop :=
  r = { classifier := k } ∧ r' = { classifier := k } ∧ ∃ t, s.Spells t ∧ s'.Spells t

private theorem Reader.agree_of_overSameText {k : Classifier} {r r' : Reader} {s s' : Stream}
    (alike : OverSameText k r s r' s') : Agree (OverSameText k) Eq r s r' s' := by
  obtain ⟨rfl, rfl, t, spells, spells'⟩ := alike
  obtain ⟨answer, reader, rest⟩ := next_of_spells k spells
  obtain ⟨answer', reader', rest'⟩ := next_of_spells k spells'
  rw [Agree, answer, answer']
  rcases (Phase.start.call k [] t).1 with e | _ | token
  · rfl
  · rfl
  · exact ⟨rfl, reader, reader', _, rest, rest'⟩

namespace Stream

/-- Two streams are the same to a reader: they give the same tokens and end alike. -/
def SameTokens (k : Classifier) (s s' : Stream) : Prop :=
  (s.tokens k).items = (s'.tokens k).items ∧ (s.tokens k).failure = (s'.tokens k).failure

/-- Streams that hand out the same text are the same to a reader. -/
theorem sameTokens_of_spells (k : Classifier) {s s' : Stream} {t : Text} (spells : s.Spells t)
    (spells' : s'.Spells t) : SameTokens k s s' := by
  have alike : Reader.OverSameText k { classifier := k } s { classifier := k } s' :=
    ⟨rfl, rfl, t, spells, spells'⟩
  exact Reader.drain_of_agree (fun _ _ _ _ => Reader.agree_of_overSameText) alike

theorem spells_of_keepsCharacters {chunks : List Bytes} {t : Text} (mark : EndMark)
    (whole : chunks.flatten = Utf8.encode t) (nonempty : [] ∉ chunks)
    (keeps : Utf8.KeepsCharacters t chunks) : Spells ⟨chunks.map .bytes, mark⟩ t := by
  refine .inr ⟨chunks, rfl, Utf8.delivers_of_keepsCharacters whole nonempty ?_ ?_⟩
  · intro c u _
    exact List.length_pos_iff.mpr (Utf8.encodeChar_ne_nil c)
  · intro characters count
    simpa only [List.length_nil, Nat.zero_add] using keeps characters count

/-- A byte string hands out the text that it encodes. -/
theorem spells_ofBytes (t : Text) : (ofBytes (Utf8.encode t)).Spells t := by
  have flat : ((Utf8.encode t).map fun b => [b]).flatten = Utf8.encode t := Utf8.flatten_bytes _
  have spells := spells_of_keepsCharacters .bytes flat (by simp)
    (Utf8.keepsCharacters_bytes t (Utf8.encode t))
  rw [List.map_map] at spells
  exact spells

/-! ### Bytes that are no text -/

/-- A text whose end cannot be read: a call that would read past the characters fails. -/
def ofTextThen (t : Text) (f : StreamFailure) : Stream where
  deliveries := (ofText t).deliveries ++ [.failure f]

end Stream

/-- One call goes through the characters that come out of the bytes, whichever stream they are on.
It ends with a token, or at the byte that is refused. -/
theorem Phase.scan_legible (k : Classifier) (f : StreamFailure) (phase : Phase) (read : Text)
    {held : Bytes} (bytes : Bytes) (begun : Utf8.IsHeld held)
    (noText : ∀ t, Utf8.encode t ≠ held ++ bytes) :
    (∃ e left rest, scan k .bytes phase read held (Stream.ofBytes bytes).deliveries =
        ⟨.error (.undecodable e), left, rest⟩ ∧
      (scan k .text phase read []
        (Stream.ofTextThen (Utf8.legible held bytes) f).deliveries).answer = .error (.stream f)) ∨
    ∃ token rest, (∀ t, Utf8.encode t ≠ rest) ∧
      scan k .bytes phase read held (Stream.ofBytes bytes).deliveries =
        ⟨.ok (some token), [], (Stream.ofBytes rest).deliveries⟩ ∧
      scan k .text phase read [] (Stream.ofTextThen (Utf8.legible held bytes) f).deliveries =
        ⟨.ok (some token), [], (Stream.ofTextThen (Utf8.legible [] rest) f).deliveries⟩ := by
  induction bytes generalizing phase read held with
  | nil =>
    have some_held : held ≠ [] := by
      rintro rfl
      exact noText [] rfl
    obtain ⟨e, received⟩ := Receipt.ofDelivery_end some_held
    refine .inl ⟨e, held, [], ?_, rfl⟩
    simp only [Stream.ofBytes, List.map_nil, scan, EndMark.delivery, received]
  | cons b rest ih =>
    have received := Receipt.ofDelivery_byte held b
    have received' (c : Char) : Receipt.ofDelivery [] (.text [c]) = .unit [c] [] := rfl
    rw [Stream.ofBytes, List.map_cons, Utf8.legible]
    -- A byte that completes a character moves both machines alike, one that is held moves neither,
    -- and one that is refused stands where the text ends.
    cases fed : Utf8.feed held b with
    | char c =>
      rw [fed] at received
      have whole := Utf8.encode_of_feed begun fed
      have noRest : ∀ t, Utf8.encode t ≠ [] ++ rest := by
        intro t same
        apply noText (c :: t)
        rw [Utf8.encode_cons, same, whole]
        simp
      cases step : phase.step (k.classOf c) [c] with
      | skip next =>
        rw [scan_skip received step, Stream.ofTextThen]
        rw [Stream.ofText, List.map_cons, List.cons_append, scan_skip (received' c) step]
        exact ih next read trivial noRest
      | keep next =>
        rw [scan_keep received step, Stream.ofTextThen]
        rw [Stream.ofText, List.map_cons, List.cons_append, scan_keep (received' c) step]
        exact ih next (c :: read) trivial noRest
      | emit kind =>
        rw [scan_emit received step, Stream.ofTextThen]
        rw [Stream.ofText, List.map_cons, List.cons_append, scan_emit (received' c) step]
        exact .inr ⟨_, rest, noRest, rfl, rfl⟩
    | held bytes =>
      rw [fed] at received
      obtain ⟨rfl, stillBegun⟩ := (Utf8.feed_of_isHeld begun b).2 bytes fed
      rw [scan_waiting received]
      exact ih phase read stillBegun (by simpa using noText)
    | refused fault run =>
      rw [fed] at received
      rw [scan_failed received]
      exact .inl ⟨_, held, _, rfl, rfl⟩

namespace Reader

/-- A reader of bytes that are no text, and one of the longest text that they begin with, after
which it cannot read on. -/
def OverNoText (k : Classifier) (f : StreamFailure) (r : Reader) (s : Stream) (r' : Reader)
    (s' : Stream) : Prop :=
  r = { classifier := k } ∧ r' = { classifier := k } ∧
    ∃ bytes, (∀ t, Utf8.encode t ≠ bytes) ∧ s = .ofBytes bytes ∧
      s' = .ofTextThen (Utf8.legible [] bytes) f

/-- The bytes end in a decoding error where the text cannot be read on. -/
def EndsNoText (f : StreamFailure) (failure failure' : Option ReadError) : Prop :=
  (∃ e, failure = some (.undecodable e)) ∧ failure' = some (.stream f)

private theorem agree_of_overNoText {k : Classifier} {f : StreamFailure} {r r' : Reader}
    {s s' : Stream}
    (alike : OverNoText k f r s r' s') : Agree (OverNoText k f) (EndsNoText f) r s r' s' := by
  obtain ⟨rfl, rfl, bytes, noText, rfl, rfl⟩ := alike
  have begun : Utf8.IsHeld [] := trivial
  rcases Phase.scan_legible k f .start [] bytes begun noText with
    ⟨e, left, rest, scanned, failed⟩ | ⟨token, rest, noRest, scanned, scanned'⟩
  · have answer : (({ classifier := k } : Reader).next (.ofBytes bytes)).answer =
        .error (.undecodable e) := congrArg Scan.answer scanned
    have answer' : (({ classifier := k } : Reader).next
        (.ofTextThen (Utf8.legible [] bytes) f)).answer = .error (.stream f) := failed
    rw [Agree, answer, answer']
    exact ⟨⟨e, rfl⟩, rfl⟩
  · have reading : ({ classifier := k } : Reader).next (.ofBytes bytes) =
        ⟨.ok (some token), { classifier := k }, .ofBytes rest⟩ := by
      have mark : (Stream.ofBytes bytes).endMark = .bytes := rfl
      simp only [next, mark, scanned]
      rfl
    have reading' : ({ classifier := k } : Reader).next
        (.ofTextThen (Utf8.legible [] bytes) f) =
        ⟨.ok (some token), { classifier := k }, .ofTextThen (Utf8.legible [] rest) f⟩ := by
      have mark : (Stream.ofTextThen (Utf8.legible [] bytes) f).endMark = .text := rfl
      simp only [next, mark, scanned']
      rfl
    rw [Agree, reading, reading']
    exact ⟨rfl, rfl, rfl, rest, noRest, rfl, rfl⟩

end Reader

namespace Stream

/-- Bytes that are no text give the tokens that end within the longest text that they begin with,
and then a decoding error. -/
theorem tokens_of_noText (k : Classifier) {bytes : Bytes} {t : Text}
    (noText : ∀ t, Utf8.encode t ≠ bytes) (longest : Utf8.IsLongestText bytes t)
    (f : StreamFailure) :
    ((ofBytes bytes).tokens k).items = ((ofTextThen t f).tokens k).items ∧
    (∃ e, ((ofBytes bytes).tokens k).failure = some (.undecodable e)) ∧
    ((ofTextThen t f).tokens k).failure = some (.stream f) := by
  obtain rfl := Utf8.isLongestText_iff.mp longest
  have alike : Reader.OverNoText k f { classifier := k } (ofBytes bytes) { classifier := k }
      (ofTextThen (Utf8.legible [] bytes) f) := ⟨rfl, rfl, bytes, noText, rfl, rfl⟩
  exact Reader.drain_of_agree (fun _ _ _ _ => Reader.agree_of_overNoText) alike

/-- Bytes that encode a text are read like it, one at a time or in chunks that keep its characters.
Other bytes end in a decoding error, and the tokens before it are those that are read from the
longest text that the bytes begin with before anything after that text is looked at. -/
theorem tokens_ofBytes_refine (k : Classifier) (bytes : Bytes) :
    (∀ t, Utf8.encode t = bytes →
      SameTokens k (ofBytes bytes) (ofText t) ∧
      ∀ chunks mark, chunks.flatten = bytes → [] ∉ chunks → Utf8.KeepsCharacters t chunks →
        SameTokens k ⟨chunks.map .bytes, mark⟩ (ofText t)) ∧
    ((∀ t, Utf8.encode t ≠ bytes) →
      (∃ e, ((ofBytes bytes).tokens k).failure = some (.undecodable e)) ∧
      (∃ t, Utf8.IsLongestText bytes t) ∧
      ∀ t, Utf8.IsLongestText bytes t → ∀ f,
        ((ofTextThen t f).tokens k).failure = some (.stream f) ∧
        ((ofBytes bytes).tokens k).items = ((ofTextThen t f).tokens k).items) := by
  constructor
  · rintro t rfl
    refine ⟨sameTokens_of_spells k (spells_ofBytes t) (.inl rfl), ?_⟩
    intro chunks mark whole nonempty keeps
    exact sameTokens_of_spells k (spells_of_keepsCharacters mark whole nonempty keeps) (.inl rfl)
  · intro noText
    have longest := Utf8.isLongestText_legible bytes
    refine ⟨(tokens_of_noText k noText longest ⟨[], []⟩).2.1, ⟨_, longest⟩, ?_⟩
    intro t longest f
    obtain ⟨items, -, failure⟩ := tokens_of_noText k noText longest f
    exact ⟨failure, items⟩

/-- A sign whose three bytes come in two chunks, before a quote that is left open; and a letter
whose second byte is missing. -/
theorem tokens_ofBytes_refine_euro :
    Utf8.KeepsCharacters "€ \"b" [[0xE2, 0x82], [0xAC], [0x20], [0x22], [0x62]] ∧
    SameTokens {} ⟨[[0xE2, 0x82], [0xAC], [0x20], [0x22], [0x62]].map .bytes, .text⟩
      (ofText "€ \"b") ∧
    Utf8.IsLongestText [0x61, 0x20, 0x62, 0xC3] "a b" ∧
    ((ofBytes [0x61, 0x20, 0x62, 0xC3]).tokens {}).items = [⟨.word, "a"⟩] := by
  have keeps : Utf8.KeepsCharacters "€ \"b" [[0xE2, 0x82], [0xAC], [0x20], [0x22], [0x62]] := by
    decide
  have valid := (tokens_ofBytes_refine {} (Utf8.encode "€ \"b")).1 "€ \"b" rfl
  have noText : ∀ t, Utf8.encode t ≠ [0x61, 0x20, 0x62, 0xC3] := by
    rw [← not_exists, Utf8.exists_encode_iff]
    decide
  have longest : Utf8.IsLongestText [0x61, 0x20, 0x62, 0xC3] "a b" :=
    Utf8.isLongestText_iff.mpr (by decide)
  obtain ⟨-, -, invalid⟩ := (tokens_ofBytes_refine {} [0x61, 0x20, 0x62, 0xC3]).2 noText
  refine ⟨keeps, valid.2 _ _ (by decide) (by decide) keeps, longest, ?_⟩
  rw [(invalid "a b" longest ⟨[], []⟩).2]
  cbv

end Stream

end ShellWords
