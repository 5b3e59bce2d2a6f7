import ShellWords.Token.Reader

/-!
Sessions: several readers over one stream. Each request goes on where the last one left the stream,
whoever made it; a reader keeps to itself only the bytes of a character that it has begun.
-/
namespace ShellWords

/-- What a reader may be asked for: the next token or word, or all that are left. -/
inductive Request
  | token
  | word
  | tokens
  | words
  deriving DecidableEq, Repr

/-- An answer to a reader of tokens. -/
abbrev Answer := Except ReadError (Option Token)

inductive Reply
  | token (answer : Answer)
  | word (answer : Except ReadError (Option Text))
  | tokens (answer : Except ReadError (List Token))
  | words (answer : Except ReadError (List Text))

/-- What comes of a request. -/
structure Response where
  reply : Reply
  reader : Reader
  stream : Stream

def Reader.respond (r : Reader) (s : Stream) : Request → Response
  | .token => let reading := r.next s; ⟨.token reading.answer, reading.reader, reading.stream⟩
  | .word => let reading := r.nextWord s; ⟨.word reading.answer, reading.reader, reading.stream⟩
  | .tokens => let drained := r.drain s; ⟨.tokens drained.all, drained.reader, drained.stream⟩
  | .words => let drained := r.drainWords s; ⟨.words drained.all, drained.reader, drained.stream⟩

structure Session where
  readers : List Reader
  stream : Stream
  deriving DecidableEq, Repr

namespace Session

/-- Makes a request of one of the readers, by its index. Nobody replies in place of one that is
missing. -/
def request (s : Session) (index : Nat) (what : Request) : Option Reply × Session :=
  match s.readers[index]? with
  | none => (none, s)
  | some r =>
    let response := r.respond s.stream what
    (some response.reply, ⟨s.readers.set index response.reader, response.stream⟩)

/-- Makes one request after another. -/
def requests (s : Session) : List (Nat × Request) → List (Option Reply) × Session
  | [] => ([], s)
  | (index, what) :: more =>
    let (reply, s) := s.request index what
    let (replies, s) := s.requests more
    (reply :: replies, s)

/-- Takes deliveries off the stream past the readers. -/
def take (s : Session) (count : Option Nat) : List Delivery × Session :=
  let (taken, stream) := s.stream.take count
  (taken, { s with stream })

end Session

end ShellWords
