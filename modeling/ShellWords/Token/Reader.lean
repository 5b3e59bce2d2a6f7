import ShellWords.Stream
import ShellWords.Token.Phase

/-!
Reading tokens from a stream. A reader owns nothing of the stream but the bytes of a character that
is not complete yet, so several readers can share one stream. The end of the input is not
remembered: the next call reads again. A call that gives a token has used up some of the stream,
which is why reading everything ends.
-/
namespace ShellWords

inductive ReadError
  | lex (e : LexError)
  | undecodable (e : DecodeError)
  | stream (f : StreamFailure)
  deriving DecidableEq, Repr

/-- Only the messages about malformed text are translated. -/
def ReadError.message (translate : Text → Text) : ReadError → Text
  | lex e => translate e.message
  | undecodable e => e.message
  | stream f => f.message

/-- What one read means to a reader that holds some bytes. -/
inductive Receipt
  | unit (unit : Text) (held : Bytes)
  | waiting (held : Bytes)
  | failed (e : ReadError)
  deriving DecidableEq, Repr

/-- An empty chunk or none ends the input, and then no byte may be held. Text is taken as it is,
even while bytes are held. -/
def Receipt.ofDelivery (held : Bytes) : Delivery → Receipt
  | .text chunk => .unit chunk held
  | .failure f => .failed (.stream f)
  | .nothing | .bytes [] =>
    match Utf8.decodeEnd 0 held with
    | .ok () => .unit [] held
    | .error e => .failed (.undecodable e)
  | .bytes chunk =>
    match Utf8.decodeChunk held chunk with
    | .ok ([], held) => .waiting held
    | .ok (chars, held) => .unit chars held
    | .error e => .failed (.undecodable e)

/-- The answer of a call and what it leaves. -/
structure Scan (α : Type) where
  answer : Except ReadError α
  held : Bytes
  rest : List Delivery

/-- The answer at the end of the input; the characters read are given last one first. -/
def Phase.finish (phase : Phase) (read : Text) : Except ReadError (Option Token) :=
  match phase.atEnd with
  | .ok kind => .ok (kind.map fun kind => ⟨kind, read.reverse⟩)
  | .error e => .error (.lex e)

/-- Reads on until the token at hand ends. The characters read are given last one first. -/
def scan (k : Classifier) (mark : EndMark) (phase : Phase) (read : Text) (held : Bytes) :
    List Delivery → Scan (Option Token)
  | [] =>
    match Receipt.ofDelivery held mark.delivery with
    | .failed e => ⟨.error e, held, []⟩
    | .unit _ held => ⟨phase.finish read, held, []⟩
    -- An empty chunk ends the input, so nobody waits for more.
    | .waiting held => ⟨phase.finish read, held, []⟩
  | delivery :: rest =>
    match Receipt.ofDelivery held delivery with
    | .failed e => ⟨.error e, held, rest⟩
    | .waiting held => scan k mark phase read held rest
    | .unit unit held =>
      if unit.isEmpty then ⟨phase.finish read, held, rest⟩
      else match phase.step (k.classify unit) unit with
        | .skip next => scan k mark next read held rest
        | .keep next => scan k mark next (unit.reverse ++ read) held rest
        -- The unit that ends a token belongs to none and is used up.
        | .emit kind => ⟨.ok (some ⟨kind, read.reverse⟩), held, rest⟩

/-- A call takes at least one delivery off a stream that has any. -/
theorem scan_rest_le (k : Classifier) (mark : EndMark) (phase : Phase) (read : Text) (held : Bytes)
    (deliveries : List Delivery) :
    (scan k mark phase read held deliveries).rest.length ≤ deliveries.length - 1 := by
  fun_induction scan k mark phase read held deliveries with
  | case1 | case2 | case3 => exact Nat.zero_le _
  | case4 | case6 | case9 => exact Nat.le_refl _
  | case5 | case7 | case8 =>
    rename_i ih
    exact Nat.le_trans ih (Nat.sub_le ..)

/-- A reader of tokens; it may hold the first bytes of a character. -/
structure Reader where
  classifier : Classifier := {}
  held : Bytes := []
  deriving DecidableEq, Repr

/-- The answer of a call, and the reader and stream that it leaves. -/
structure Reading (α : Type) where
  answer : Except ReadError α
  reader : Reader
  stream : Stream

namespace Reader

/-- The next token, or none at the end of the input. -/
def next (r : Reader) (s : Stream) : Reading (Option Token) :=
  let scanned := scan r.classifier s.endMark .start [] r.held s.deliveries
  ⟨scanned.answer, { r with held := scanned.held }, { s with deliveries := scanned.rest }⟩

theorem next_size_lt (r : Reader) (s : Stream) (left : s.deliveries ≠ []) :
    (r.next s).stream.size < s.size := by
  have shorter := scan_rest_le r.classifier s.endMark .start [] r.held s.deliveries
  have positive := List.length_pos_iff.mpr left
  exact Nat.lt_of_le_of_lt shorter (Nat.sub_lt positive Nat.one_pos)

/-- No token comes out of a stream that is used up. -/
theorem next_answer_ne_some (r : Reader) (s : Stream) (none_left : s.deliveries = []) (t : Token) :
    (r.next s).answer ≠ .ok (some t) := by
  simp only [next, none_left, scan]
  split <;> simp [Phase.finish, Phase.atEnd]

theorem next_size_lt_of_token (r : Reader) (s : Stream) (t : Token)
    (token : (r.next s).answer = .ok (some t)) : (r.next s).stream.size < s.size :=
  r.next_size_lt s fun none_left => r.next_answer_ne_some s none_left t token

/-- The next word. Comments before it are read and dropped. -/
def nextWord (r : Reader) (s : Stream) : Reading (Option Text) :=
  match token : (r.next s).answer with
  | .error e => ⟨.error e, (r.next s).reader, (r.next s).stream⟩
  | .ok none => ⟨.ok none, (r.next s).reader, (r.next s).stream⟩
  | .ok (some ⟨.word, value⟩) => ⟨.ok (some value), (r.next s).reader, (r.next s).stream⟩
  | .ok (some ⟨.comment, value⟩) =>
    have := r.next_size_lt_of_token s ⟨.comment, value⟩ token
    nextWord (r.next s).reader (r.next s).stream
termination_by s.size

theorem nextWord_size_lt_of_word (r : Reader) (s : Stream) (w : Text)
    (word : (r.nextWord s).answer = .ok (some w)) : (r.nextWord s).stream.size < s.size := by
  fun_induction nextWord r s with
  | case1 => simp at word
  | case2 => simp at word
  | case3 r s value token => exact r.next_size_lt_of_token s ⟨.word, value⟩ token
  | case4 r s value token shorter ih => exact Nat.lt_trans (ih word) shorter

/-- All that is left: what was read up to the end of the input or up to the first error. -/
structure Drained (α : Type) where
  items : List α
  failure : Option ReadError
  reader : Reader
  stream : Stream

def Drained.cons (item : α) (drained : Drained α) : Drained α :=
  { drained with items := item :: drained.items }

/-- The tokens that are left. -/
def drain (r : Reader) (s : Stream) : Drained Token :=
  match token : (r.next s).answer with
  | .error e => ⟨[], some e, (r.next s).reader, (r.next s).stream⟩
  | .ok none => ⟨[], none, (r.next s).reader, (r.next s).stream⟩
  | .ok (some t) =>
    have := r.next_size_lt_of_token s t token
    (drain (r.next s).reader (r.next s).stream).cons t
termination_by s.size

/-- The words that are left. -/
def drainWords (r : Reader) (s : Stream) : Drained Text :=
  match word : (r.nextWord s).answer with
  | .error e => ⟨[], some e, (r.nextWord s).reader, (r.nextWord s).stream⟩
  | .ok none => ⟨[], none, (r.nextWord s).reader, (r.nextWord s).stream⟩
  | .ok (some w) =>
    have := r.nextWord_size_lt_of_word s w word
    (drainWords (r.nextWord s).reader (r.nextWord s).stream).cons w
termination_by s.size

/-- Everything that was read, unless an error ended it. -/
def Drained.all (drained : Drained α) : Except ReadError (List α) :=
  match drained.failure with
  | none => .ok drained.items
  | some e => .error e

end Reader

/-- The tokens of a stream, up to its end or its first error. -/
def Stream.tokens (s : Stream) (k : Classifier := {}) : Reader.Drained Token :=
  ({ classifier := k } : Reader).drain s

/-- The words of a stream. An error leaves none of them. -/
def Stream.words (s : Stream) (k : Classifier := {}) : Except ReadError (List Text) :=
  (({ classifier := k } : Reader).drainWords s).all

/-- The words of a text. -/
def Text.split (t : Text) (k : Classifier := {}) : Except ReadError (List Text) :=
  (Stream.ofText t).words k

end ShellWords
